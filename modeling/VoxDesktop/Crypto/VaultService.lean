import Mathlib.Data.List.AList
import Mathlib.Data.List.Induction
import VoxDesktop.Crypto.CryptoHelpers
import VoxDesktop.Qt.ByteArray
import VoxDesktop.Qt.Json

/-!
# The secret vault

The functions of `crypto/VaultService` over explicit service and file states.
A vault file is a JSON object with salt, nonce and ciphertext in URL-safe
base-64; the ciphertext seals a second JSON object with one member a secret.

Everything an operation takes from its surroundings (random bytes, and whether
deriving a key, encrypting, opening, reading and committing work) is an
argument of the call.
`SealedIn` states what a file holds; saving establishes it, and unlocking
reads back what it states.
-/

namespace VoxDesktop
namespace Crypto

open Qt CryptoHelpers

/-- Contents of the files by their paths. -/
abbrev Files := QString → Option QByteArray

/-- `QHash<QString, QByteArray>`. -/
abbrev SecretMap := AList fun _ : QString => QByteArray

def kVaultOpsLimit : ℕ := 2
def kVaultMemLimit : ℕ := 67108864

structure VaultService where
  m_vaultPath : QString
  m_vaultKey : QByteArray
  m_salt : QByteArray
  m_secrets : SecretMap
  m_unlocked : Bool

/-- What happens around one call of `saveVault`: the bytes `randomBytes`
returns for the nonce and whether the three fallible calls succeed. -/
structure SaveOutcome where
  nonce : QByteArray
  encrypted : Bool
  opened : Bool
  committed : Bool

/-- What happens around one call of `unlockWithPassword`: whether the file can
be read and the key be derived, and the bytes `randomBytes` returns for the
salt. -/
structure UnlockOutcome where
  readable : Bool
  derived : Bool
  salt : QByteArray
  save : SaveOutcome

namespace VaultService

def toB64 (bytes : QByteArray) : QByteArray := toBase64 ⟨true, true⟩ bytes

def fromB64 (text : QByteArray) : QByteArray := fromBase64 true text

/-- A byte string as a member of a JSON object. -/
def toMember (bytes : QByteArray) : QJsonValue :=
  .string (fromUtf8 (toB64 bytes))

/-- The byte string of a member. -/
def fromMember (value : QJsonValue) : QByteArray :=
  fromB64 (toUtf8 value.toString)

/-- A service on a path, before anything is called. -/
def onPath (vaultPath : QString) : VaultService :=
  ⟨vaultPath, [], [], ∅, false⟩

/-- The associated data of the vault ciphertext. -/
def vaultAd : QByteArray := QByteArray.literal "vox-vault-v1"

def vaultKeyOf (sodium : Sodium) (password : QString) (salt : QByteArray) :
    QByteArray :=
  argon2idKdf sodium (toUtf8 password) salt kVaultOpsLimit kVaultMemLimit
    kChaCha20KeyBytes

/-- What `argon2idKdf` returns to a call: the key, or nothing if the derivation
fails. -/
def derivedKey (sodium : Sodium) (password : QString) (salt : QByteArray)
    (outcome : UnlockOutcome) : QByteArray :=
  if outcome.derived then vaultKeyOf sodium password salt else []

/-- A key of the right size is that of the password. -/
theorem derivedKey_of_length
    {sodium : Sodium} {password : QString} {salt : QByteArray}
    {outcome : UnlockOutcome}
    (keySize :
      (derivedKey sodium password salt outcome).length = kChaCha20KeyBytes) :
    derivedKey sodium password salt outcome =
      vaultKeyOf sodium password salt := by
  unfold derivedKey at keySize ⊢
  split at keySize
  · rename_i derived
    exact if_pos derived
  · contradiction

/-- The payload `saveVault` seals. -/
def payloadObject (secrets : SecretMap) : QJsonObject :=
  secrets.entries.foldl
    (fun payload entry => payload.insert entry.1 (toMember entry.2)) []

/-- The root object `saveVault` writes. -/
def rootObject (salt nonce ciphertext : QByteArray) : QJsonObject :=
  (((QJsonObject.insert [] (QString.literal "version") (.double 1)).insert
    (QString.literal "salt") (toMember salt)).insert
      (QString.literal "nonce") (toMember nonce)).insert
        (QString.literal "ciphertext") (toMember ciphertext)

/-- The loop of `loadExistingVault` over the decrypted members. -/
def secretsOf (payload : QJsonObject) : SecretMap :=
  payload.foldl
    (fun secrets member => secrets.insert member.1 (fromMember member.2)) ∅

section Operations

variable (json : QJsonDocument) (sodium : Sodium) (vault : VaultService)

def lock : VaultService :=
  { vault with m_vaultKey := [], m_secrets := ∅, m_unlocked := false }

/-- The encryption step of `saveVault`. -/
def sealPayload (outcome : SaveOutcome) : QByteArray :=
  let payload := json.toJson (payloadObject vault.m_secrets)
  if outcome.encrypted = false then []
  else
    xchachaEncryptLocal sodium vault.m_vaultKey outcome.nonce payload vaultAd

def saveVault (files : Files) (outcome : SaveOutcome) : Bool × Files :=
  if vault.m_unlocked = false ∨
      vault.m_vaultKey.length ≠ kChaCha20KeyBytes ∨
      vault.m_salt.length ≠ kPwhashSaltBytes then (false, files)
  else if outcome.nonce.length ≠ kXChaCha20NonceBytes then (false, files)
  else
    let ciphertext := sealPayload json sodium vault outcome
    if ciphertext = [] then (false, files)
    else if outcome.opened = false then (false, files)
    else
      let root := rootObject vault.m_salt outcome.nonce ciphertext
      if outcome.committed = false then (false, files)
      else
        (true,
          Function.update files vault.m_vaultPath (some (json.toJson root)))

def loadExistingVault
    (files : Files) (password : QString) (outcome : UnlockOutcome) :
    Bool × VaultService :=
  match if outcome.readable then files vault.m_vaultPath else none with
  | none => (false, vault)
  | some content =>
      let root := json.fromJson content
      let salt := fromMember (root.value (QString.literal "salt"))
      let nonce := fromMember (root.value (QString.literal "nonce"))
      let ciphertext := fromMember (root.value (QString.literal "ciphertext"))
      let vaultKey := derivedKey sodium password salt outcome
      let keyed := { vault with m_salt := salt, m_vaultKey := vaultKey }
      if vaultKey.length ≠ kChaCha20KeyBytes then (false, keyed)
      else
        match
          xchachaDecryptLocal sodium vaultKey nonce ciphertext vaultAd with
        | none => (false, keyed.lock)
        | some decrypted =>
            (true,
              { keyed with
                m_secrets := secretsOf (json.fromJson decrypted)
                m_unlocked := true })

def unlockWithPassword
    (files : Files) (password : QString) (outcome : UnlockOutcome) :
    Bool × VaultService × Files :=
  if password = [] then (false, vault, files)
  else if (files vault.m_vaultPath).isSome then
    let loaded := loadExistingVault json sodium vault files password outcome
    (loaded.1, loaded.2, files)
  else if outcome.salt = [] then
    (false, { vault with m_salt := outcome.salt }, files)
  else
    let vaultKey := derivedKey sodium password outcome.salt outcome
    let keyed := { vault with m_salt := outcome.salt, m_vaultKey := vaultKey }
    if vaultKey.length ≠ kChaCha20KeyBytes then (false, keyed, files)
    else
      let unlocked := { keyed with m_unlocked := true }
      let saved := saveVault json sodium unlocked files outcome.save
      (saved.1, unlocked, saved.2)

def storeSecret
    (files : Files) (name : QString) (value : QByteArray)
    (outcome : SaveOutcome) : Bool × VaultService × Files :=
  if vault.m_unlocked = false ∨ name = [] ∨ value = [] then
    (false, vault, files)
  else
    let stored :=
      { vault with m_secrets := vault.m_secrets.insert name value }
    let saved := saveVault json sodium stored files outcome
    (saved.1, stored, saved.2)

def loadSecret (name : QString) : Option QByteArray :=
  if vault.m_unlocked = false ∨ name = [] then none
  else vault.m_secrets.lookup name

def removeSecret
    (files : Files) (name : QString) (outcome : SaveOutcome) :
    Bool × VaultService × Files :=
  if vault.m_unlocked = false ∨ name = [] then (false, vault, files)
  else if name ∉ vault.m_secrets then (true, vault, files)
  else
    let removed := { vault with m_secrets := vault.m_secrets.erase name }
    let saved := saveVault json sodium removed files outcome
    (saved.1, removed, saved.2)

end Operations

/-! ## From memory to a file and back -/

@[simp] theorem fromMember_toMember (bytes : QByteArray) :
    fromMember (toMember bytes) = bytes :=
  fromBase64_text ⟨true, true⟩ bytes

/-- The payload has one member a secret. -/
theorem payloadObject_eq (secrets : SecretMap) :
    payloadObject secrets =
      secrets.entries.map fun entry => (entry.1, toMember entry.2) := by
  have distinct :
      ((secrets.entries.map fun entry =>
        (entry.1, toMember entry.2)).map Prod.fst).Nodup := by
    rw [List.map_map]
    exact secrets.nodupKeys
  rw [← QJsonObject.ofMembers_of_nodup distinct, QJsonObject.ofMembers,
    List.foldl_map, payloadObject]

theorem payloadObject_flat (secrets : SecretMap) :
    (payloadObject secrets).Flat := by
  rw [payloadObject_eq]
  intro member within
  obtain ⟨entry, _, rfl⟩ := List.mem_map.mp within
  exact Or.inl ⟨_, rfl⟩

theorem payloadObject_distinct (secrets : SecretMap) :
    (payloadObject secrets).keys.Nodup := by
  rw [payloadObject_eq, QJsonObject.keys, List.map_map]
  exact secrets.nodupKeys

/-- Reading a payload gives each key the bytes of its member. -/
theorem mem_lookup_secretsOf
    {payload : QJsonObject} {name : QString} {value : QByteArray}
    (distinct : payload.keys.Nodup) :
    value ∈ (secretsOf payload).lookup name ↔
      ∃ member, (name, member) ∈ payload ∧ fromMember member = value := by
  induction payload using List.reverseRecOn with
  | nil => simp [secretsOf]
  | append_singleton members last inductionHypothesis =>
      simp only [QJsonObject.keys, List.map_append, List.map_cons,
        List.map_nil, List.nodup_append, List.mem_singleton]
        at distinct inductionHypothesis
      obtain ⟨distinctMembers, _, separate⟩ := distinct
      have unfolded :
          secretsOf (members ++ [last]) =
            (secretsOf members).insert last.1 (fromMember last.2) := by
        rw [secretsOf, List.foldl_append]
        rfl
      rw [unfolded]
      simp only [List.mem_append, List.mem_singleton]
      by_cases same : name = last.1
      · subst same
        rw [AList.lookup_insert, Option.mem_some_iff]
        constructor
        · rintro rfl
          exact ⟨last.2, Or.inr rfl, rfl⟩
        · rintro ⟨member, within | isLast, rfl⟩
          · exact absurd rfl
              (separate last.1 (List.mem_map.mpr ⟨_, within, rfl⟩) last.1 rfl)
          · rw [← isLast]
      · rw [AList.lookup_insert_ne same, inductionHypothesis distinctMembers]
        constructor
        · rintro ⟨member, within, decoded⟩
          exact ⟨member, Or.inl within, decoded⟩
        · rintro ⟨member, within | isLast, decoded⟩
          · exact ⟨member, within, decoded⟩
          · exact absurd (congrArg Prod.fst isLast) same

/-- A payload written from a secret map, read back in any order of members,
is that map. -/
theorem lookup_secretsOf_perm
    {payload : QJsonObject} {secrets : SecretMap}
    (readBack : payload.Perm (payloadObject secrets)) (name : QString) :
    (secretsOf payload).lookup name = secrets.lookup name := by
  have distinct : payload.keys.Nodup :=
    (readBack.map Prod.fst).nodup_iff.mpr (payloadObject_distinct secrets)
  refine Option.ext fun value => ?_
  rw [← Option.mem_def, ← Option.mem_def, mem_lookup_secretsOf distinct,
    AList.mem_lookup_iff]
  constructor
  · rintro ⟨member, within, rfl⟩
    rw [readBack.mem_iff, payloadObject_eq] at within
    obtain ⟨entry, entryWithin, equal⟩ := List.mem_map.mp within
    obtain ⟨rfl, rfl⟩ := Prod.mk.inj equal
    rwa [fromMember_toMember]
  · intro entryWithin
    refine ⟨toMember value, ?_, fromMember_toMember value⟩
    rw [readBack.mem_iff, payloadObject_eq]
    exact List.mem_map.mpr ⟨⟨name, value⟩, entryWithin, rfl⟩

theorem rootObject_flat (salt nonce ciphertext : QByteArray) :
    (rootObject salt nonce ciphertext).Flat := by
  have members :
      rootObject salt nonce ciphertext =
        [(QString.literal "version", .double 1),
          (QString.literal "salt", toMember salt),
          (QString.literal "nonce", toMember nonce),
          (QString.literal "ciphertext", toMember ciphertext)] := rfl
  intro member within
  rw [members] at within
  simp only [List.mem_cons, List.not_mem_nil, or_false] at within
  rcases within with rfl | rfl | rfl | rfl
  · exact Or.inr ⟨1, rfl⟩
  · exact Or.inl ⟨_, rfl⟩
  · exact Or.inl ⟨_, rfl⟩
  · exact Or.inl ⟨_, rfl⟩

theorem rootObject_distinct (salt nonce ciphertext : QByteArray) :
    (rootObject salt nonce ciphertext).keys.Nodup := by
  change [QString.literal "version", QString.literal "salt",
    QString.literal "nonce", QString.literal "ciphertext"].Nodup
  decide

/-- The three fields `loadExistingVault` reads from a root object. -/
structure RootFields
    (root : QJsonObject) (salt nonce ciphertext : QByteArray) : Prop where
  salt : fromMember (root.value (QString.literal "salt")) = salt
  nonce : fromMember (root.value (QString.literal "nonce")) = nonce
  ciphertext :
    fromMember (root.value (QString.literal "ciphertext")) = ciphertext

/-- A root object read back in any order of members has its fields. -/
theorem RootFields.of_perm
    {root : QJsonObject} {salt nonce ciphertext : QByteArray}
    (readBack : root.Perm (rootObject salt nonce ciphertext)) :
    RootFields root salt nonce ciphertext := by
  have distinct : root.keys.Nodup :=
    (readBack.map Prod.fst).nodup_iff.mpr
      (rootObject_distinct salt nonce ciphertext)
  have field : ∀ {key : QString} {bytes : QByteArray},
      (key, toMember bytes) ∈ rootObject salt nonce ciphertext →
        fromMember (root.value key) = bytes := by
    intro key bytes within
    rw [QJsonObject.value_of_mem distinct (readBack.mem_iff.mpr within),
      fromMember_toMember]
  exact ⟨field (.tail _ (.head _)), field (.tail _ (.tail _ (.head _))),
    field (.tail _ (.tail _ (.tail _ (.head _))))⟩

/-- A file holds a salt and, sealed under a key, a secret map. -/
structure SealedIn
    (json : QJsonDocument)
    (sodium : Sodium)
    (content salt vaultKey : QByteArray)
    (secrets : SecretMap) : Prop where
  exists_sealed : ∃ nonce ciphertext payload,
    RootFields (json.fromJson content) salt nonce ciphertext ∧
      nonce.length = kXChaCha20NonceBytes ∧
      ciphertext ≠ [] ∧
      xchachaEncryptLocal sodium vaultKey nonce payload vaultAd =
        ciphertext ∧
      ∀ name,
        (secretsOf (json.fromJson payload)).lookup name =
          secrets.lookup name

variable {json : QJsonDocument} {sodium : Sodium} {vault : VaultService}
  {files : Files}

/-- Saving either fails and leaves the files alone, or replaces the vault file
by one that holds the secrets. -/
theorem saveVault_cases
    (sodium : Sodium)
    (vault : VaultService)
    (files : Files)
    (roundTrips : json.RoundTrips)
    (outcome : SaveOutcome) :
    saveVault json sodium vault files outcome = (false, files) ∨
      ∃ content,
        saveVault json sodium vault files outcome =
            (true, Function.update files vault.m_vaultPath (some content)) ∧
          vault.m_unlocked = true ∧
          vault.m_vaultKey.length = kChaCha20KeyBytes ∧
          SealedIn json sodium content vault.m_salt vault.m_vaultKey
            vault.m_secrets := by
  by_cases checks : vault.m_unlocked = false ∨
      vault.m_vaultKey.length ≠ kChaCha20KeyBytes ∨
      vault.m_salt.length ≠ kPwhashSaltBytes
  · exact Or.inl (if_pos checks)
  by_cases nonceSize : outcome.nonce.length ≠ kXChaCha20NonceBytes
  · exact Or.inl (by rw [saveVault, if_neg checks, if_pos nonceSize])
  by_cases notSealed : sealPayload json sodium vault outcome = []
  · left
    rw [saveVault, if_neg checks, if_neg nonceSize, if_pos notSealed]
  by_cases written : outcome.opened = false ∨ outcome.committed = false
  · left
    rcases written with opened | committed
    · simp [saveVault, opened]
    · simp [saveVault, committed]
  right
  rw [not_or] at written
  have encrypted : ¬ outcome.encrypted = false := by
    intro notEncrypted
    exact notSealed (if_pos notEncrypted)
  have sealedEq :
      sealPayload json sodium vault outcome =
        xchachaEncryptLocal sodium vault.m_vaultKey outcome.nonce
          (json.toJson (payloadObject vault.m_secrets)) vaultAd :=
    if_neg encrypted
  refine ⟨json.toJson (rootObject vault.m_salt outcome.nonce
    (sealPayload json sodium vault outcome)), ?_, ?_, ?_, ⟨_, _, _,
      .of_perm (roundTrips.fromJson (rootObject_flat _ _ _)
        (rootObject_distinct _ _ _)), ?_, notSealed, sealedEq.symm,
      lookup_secretsOf_perm (roundTrips.fromJson (payloadObject_flat _)
        (payloadObject_distinct _))⟩⟩
  · rw [saveVault, if_neg checks, if_neg nonceSize, if_neg notSealed,
      if_neg written.1, if_neg written.2]
  · simp only [not_or, Bool.not_eq_false] at checks
    exact checks.1
  · simp only [not_or, ne_eq, not_not] at checks
    exact checks.2.1
  · exact not_not.mp nonceSize

/-- The secrets a vault file opens to under a key. -/
def openContent
    (json : QJsonDocument) (sodium : Sodium)
    (content vaultKey : QByteArray) : Option SecretMap :=
  let root := json.fromJson content
  (xchachaDecryptLocal sodium vaultKey
      (fromMember (root.value (QString.literal "nonce")))
      (fromMember (root.value (QString.literal "ciphertext"))) vaultAd).map
    fun decrypted => secretsOf (json.fromJson decrypted)

/-- Under its key, a file opens to the secrets it holds. -/
theorem openContent_of_sealedIn
    {content salt vaultKey : QByteArray} {secrets : SecretMap}
    (correct : sodium.AeadCorrect)
    (holds : SealedIn json sodium content salt vaultKey secrets) :
    ∃ loaded,
      openContent json sodium content vaultKey = some loaded ∧
        ∀ name, loaded.lookup name = secrets.lookup name := by
  obtain ⟨nonce, _, payload, fields, _, sealed, rfl, restores⟩ :=
    holds.exists_sealed
  refine ⟨secretsOf (json.fromJson payload), ?_, restores⟩
  unfold openContent
  dsimp only
  rw [fields.nonce, fields.ciphertext, xchachaDecryptLocal,
    xchachaEncryptLocal, openWith_of_sealWith correct.xchacha sealed,
    Option.map_some]

/-- Under a key that rejects what the key of the file has sealed, a file does
not open. -/
theorem openContent_of_rejectsUnder
    {content salt vaultKey other : QByteArray} {secrets : SecretMap}
    (holds : SealedIn json sodium content salt vaultKey secrets)
    (rejects : sodium.xchacha20poly1305.RejectsUnder vaultKey other) :
    openContent json sodium content other = none := by
  obtain ⟨nonce, _, payload, fields, _, sealed, rfl, _⟩ :=
    holds.exists_sealed
  unfold openContent
  dsimp only
  rw [fields.nonce, fields.ciphertext, xchachaDecryptLocal,
    xchachaEncryptLocal, openWith_of_rejectsUnder rejects sealed,
    Option.map_none]

/-- The salt a vault file names. -/
def saltOf (json : QJsonDocument) (content : QByteArray) : QByteArray :=
  fromMember ((json.fromJson content).value (QString.literal "salt"))

theorem SealedIn.saltOf_eq
    {content salt vaultKey : QByteArray} {secrets : SecretMap}
    (holds : SealedIn json sodium content salt vaultKey secrets) :
    saltOf json content = salt := by
  obtain ⟨_, _, _, fields, _⟩ := holds.exists_sealed
  exact fields.salt

theorem SealedIn.length_vaultKey
    {content salt vaultKey : QByteArray} {secrets : SecretMap}
    (holds : SealedIn json sodium content salt vaultKey secrets) :
    vaultKey.length = kChaCha20KeyBytes := by
  obtain ⟨_, _, _, _, _, sealed, rfl, _⟩ := holds.exists_sealed
  exact (sealWith_ne_nil sealed).2.1

/-- Loading a file that can be read. -/
theorem loadExistingVault_readable
    {content : QByteArray} {password : QString} {outcome : UnlockOutcome}
    (onDisk : files vault.m_vaultPath = some content)
    (readable : outcome.readable = true) :
    loadExistingVault json sodium vault files password outcome =
      let vaultKey :=
        derivedKey sodium password (saltOf json content) outcome
      let keyed :=
        { vault with m_salt := saltOf json content, m_vaultKey := vaultKey }
      if vaultKey.length ≠ kChaCha20KeyBytes then (false, keyed)
      else
        match openContent json sodium content vaultKey with
        | none => (false, keyed.lock)
        | some loaded =>
            (true, { keyed with m_secrets := loaded, m_unlocked := true }) := by
  unfold loadExistingVault openContent
  rw [if_pos readable, onDisk]
  dsimp only [saltOf]
  split
  · rfl
  · cases xchachaDecryptLocal sodium _ _ _ vaultAd <;> rfl

/-- Loading a file either fails without touching secrets and lock state, fails
to open it and locks, or opens it. -/
theorem loadExistingVault_cases
    {content : QByteArray}
    (onDisk : files vault.m_vaultPath = some content)
    (password : QString)
    (outcome : UnlockOutcome) :
    let result := loadExistingVault json sodium vault files password outcome
    let vaultKey := vaultKeyOf sodium password (saltOf json content)
    let keyed :=
      { vault with m_salt := saltOf json content, m_vaultKey := vaultKey }
    (∃ salt vaultKey,
      result =
        (false, { vault with m_salt := salt, m_vaultKey := vaultKey })) ∨
    vaultKey.length = kChaCha20KeyBytes ∧
      ((openContent json sodium content vaultKey = none ∧
        result = (false, keyed.lock)) ∨
      ∃ loaded,
        openContent json sodium content vaultKey = some loaded ∧
          result =
            (true,
              { keyed with m_secrets := loaded, m_unlocked := true })) := by
  intro result vaultKey keyed
  by_cases readable : outcome.readable = true
  · have loading : result = _ :=
      loadExistingVault_readable onDisk readable
    by_cases keySize :
        (derivedKey sodium password (saltOf json content) outcome).length ≠
          kChaCha20KeyBytes
    · left
      exact ⟨saltOf json content, _, loading.trans (if_pos keySize)⟩
    · right
      have sameKey := derivedKey_of_length (not_not.mp keySize)
      dsimp only at loading
      rw [if_neg keySize, sameKey] at loading
      rw [sameKey, not_not] at keySize
      refine ⟨keySize, ?_⟩
      cases opened : openContent json sodium content vaultKey with
      | none =>
          rw [opened] at loading
          exact Or.inl ⟨rfl, loading⟩
      | some loaded =>
          rw [opened] at loading
          exact Or.inr ⟨loaded, rfl, loading⟩
  · left
    refine ⟨vault.m_salt, vault.m_vaultKey, ?_⟩
    simp only [result, loadExistingVault, if_neg readable]

/-- Unlocking either fails without touching secrets, lock state or files;
creates a vault file for the secrets in memory; fails to open the file and
locks; or opens it. -/
theorem unlockWithPassword_cases
    (json : QJsonDocument)
    (sodium : Sodium)
    (vault : VaultService)
    (files : Files)
    (password : QString)
    (outcome : UnlockOutcome) :
    let result := unlockWithPassword json sodium vault files password outcome
    (∃ salt vaultKey,
      result =
        (false, { vault with m_salt := salt, m_vaultKey := vaultKey },
          files)) ∨
    (files vault.m_vaultPath = none ∧
      let vaultKey := vaultKeyOf sodium password outcome.salt
      let unlocked :=
        { vault with
          m_salt := outcome.salt
          m_vaultKey := vaultKey
          m_unlocked := true }
      let saved := saveVault json sodium unlocked files outcome.save
      result = (saved.1, unlocked, saved.2)) ∨
    ∃ content,
      files vault.m_vaultPath = some content ∧
        let vaultKey := vaultKeyOf sodium password (saltOf json content)
        let keyed :=
          { vault with m_salt := saltOf json content, m_vaultKey := vaultKey }
        vaultKey.length = kChaCha20KeyBytes ∧
          ((openContent json sodium content vaultKey = none ∧
            result = (false, keyed.lock, files)) ∨
          ∃ loaded,
            openContent json sodium content vaultKey = some loaded ∧
              result =
                (true,
                  { keyed with m_secrets := loaded, m_unlocked := true },
                  files)) := by
  intro result
  by_cases passwordEmpty : password = []
  · left
    exact ⟨_, _, if_pos passwordEmpty⟩
  cases onDisk : files vault.m_vaultPath with
  | none =>
      have absent : ¬ (files vault.m_vaultPath).isSome = true := by
        simp [onDisk]
      by_cases saltEmpty : outcome.salt = []
      · left
        refine ⟨outcome.salt, vault.m_vaultKey, ?_⟩
        rw [show result = _ from if_neg passwordEmpty, if_neg absent,
          if_pos saltEmpty]
      by_cases keySize :
          (derivedKey sodium password outcome.salt outcome).length ≠
            kChaCha20KeyBytes
      · left
        refine ⟨outcome.salt,
          derivedKey sodium password outcome.salt outcome, ?_⟩
        rw [show result = _ from if_neg passwordEmpty, if_neg absent,
          if_neg saltEmpty, if_pos keySize]
      · right; left
        refine ⟨rfl, ?_⟩
        rw [show result = _ from if_neg passwordEmpty, if_neg absent,
          if_neg saltEmpty, if_neg keySize,
          derivedKey_of_length (not_not.mp keySize)]
  | some content =>
      have present : (files vault.m_vaultPath).isSome = true := by
        simp [onDisk]
      have loading :
          result =
            ((loadExistingVault json sodium vault files password outcome).1,
              (loadExistingVault json sodium vault files password outcome).2,
              files) := by
        rw [show result = _ from if_neg passwordEmpty, if_pos present]
      rcases loadExistingVault_cases onDisk password outcome with
        ⟨salt, vaultKey, failed⟩ | ⟨keySize, ⟨rejected, failed⟩ |
          ⟨loaded, opened, read⟩⟩
      · left
        exact ⟨salt, vaultKey, by rw [loading, failed]⟩
      · right; right
        exact ⟨content, rfl, keySize,
          Or.inl ⟨rejected, by rw [loading, failed]⟩⟩
      · right; right
        exact ⟨content, rfl, keySize,
          Or.inr ⟨loaded, opened, by rw [loading, read]⟩⟩

/-- A call that returns true has created a vault file for the secrets in
memory or has opened the one it has found. -/
theorem unlockWithPassword_returned
    (roundTrips : json.RoundTrips)
    {password : QString} {outcome : UnlockOutcome}
    (returned :
      (unlockWithPassword json sodium vault files password outcome).1 =
        true) :
    let result := unlockWithPassword json sodium vault files password outcome
    (files vault.m_vaultPath = none ∧
      ∃ content,
        let vaultKey := vaultKeyOf sodium password outcome.salt
        result =
          (true,
            { vault with
              m_salt := outcome.salt
              m_vaultKey := vaultKey
              m_unlocked := true },
            Function.update files vault.m_vaultPath (some content)) ∧
          SealedIn json sodium content outcome.salt vaultKey
            vault.m_secrets) ∨
    ∃ content loaded,
      files vault.m_vaultPath = some content ∧
        let vaultKey := vaultKeyOf sodium password (saltOf json content)
        openContent json sodium content vaultKey = some loaded ∧
          result =
            (true,
              { vault with
                m_salt := saltOf json content
                m_vaultKey := vaultKey
                m_secrets := loaded
                m_unlocked := true },
              files) := by
  intro result
  change result.1 = true at returned
  rcases unlockWithPassword_cases json sodium vault files password
      outcome with
    ⟨_, _, failed⟩ | ⟨absent, created⟩ |
      ⟨content, onDisk, _, ⟨_, failed⟩ | ⟨loaded, opened, read⟩⟩
  · rw [show result = _ from failed] at returned
    contradiction
  · rcases saveVault_cases sodium
        { vault with
          m_salt := outcome.salt
          m_vaultKey := vaultKeyOf sodium password outcome.salt
          m_unlocked := true }
        files roundTrips outcome.save with
      unsaved | ⟨content, written, _, _, sealedIn⟩
    · rw [show result = _ from created, unsaved] at returned
      contradiction
    · left
      refine ⟨absent, content, ?_, sealedIn⟩
      rw [show result = _ from created, written]
  · rw [show result = _ from failed] at returned
    contradiction
  · exact Or.inr ⟨content, loaded, onDisk, opened, read⟩

/-- A call that returns false leaves the files alone. -/
theorem files_of_failed_unlock
    (roundTrips : json.RoundTrips)
    {password : QString} {outcome : UnlockOutcome}
    (returned :
      (unlockWithPassword json sodium vault files password outcome).1 =
        false) :
    (unlockWithPassword json sodium vault files password outcome).2.2 =
      files := by
  rcases unlockWithPassword_cases json sodium vault files password outcome
    with ⟨_, _, result⟩ | ⟨_, result⟩ |
      ⟨content, _, _, ⟨_, result⟩ | ⟨loaded, _, result⟩⟩
  · rw [result]
  · rw [result] at returned ⊢
    rcases saveVault_cases sodium _ files roundTrips outcome.save with
      failed | ⟨content, written, _⟩
    · rw [failed]
    · rw [written] at returned
      contradiction
  · rw [result]
  · rw [result]

/-! ## Calls that write -/

/-- A call of `storeSecret` or `removeSecret`, with what happens around its
save. -/
inductive WriteCall
  | store (name : QString) (value : QByteArray) (outcome : SaveOutcome)
  | remove (name : QString) (outcome : SaveOutcome)

namespace WriteCall

def name : WriteCall → QString
  | store name _ _ => name
  | remove name _ => name

/-- Arguments that the call refuses outright. -/
def Refused : WriteCall → Prop
  | store name value _ => name = [] ∨ value = []
  | remove name _ => name = []

theorem name_ne_nil {call : WriteCall} (accepted : ¬ call.Refused) :
    call.name ≠ [] := by
  cases call with
  | store name value outcome => exact fun empty => accepted (Or.inl empty)
  | remove name outcome => exact accepted

/-- A removal that finds nothing to remove. -/
def Idle : WriteCall → SecretMap → Prop
  | store _ _ _, _ => False
  | remove name _, secrets => name ∉ secrets

/-- The change the call makes in memory before it saves. -/
def change : WriteCall → SecretMap → SecretMap
  | store name value _, secrets => secrets.insert name value
  | remove name _, secrets => secrets.erase name

end WriteCall

def write
    (json : QJsonDocument) (sodium : Sodium)
    (state : VaultService × Files) :
    WriteCall → Bool × VaultService × Files
  | .store name value outcome =>
      storeSecret json sodium state.1 state.2 name value outcome
  | .remove name outcome =>
      removeSecret json sodium state.1 state.2 name outcome

theorem write_of_locked
    (locked : vault.m_unlocked = false) (call : WriteCall) :
    write json sodium (vault, files) call = (false, vault, files) := by
  cases call with
  | store name value outcome => simp [write, storeSecret, locked]
  | remove name outcome => simp [write, removeSecret, locked]

/-- On an unlocked service a call is refused, has nothing to do, or changes
the secrets in memory; after a change the save fails and the files stay, or it
succeeds and the vault file holds the changed secrets. -/
theorem write_cases
    (sodium : Sodium)
    (files : Files)
    (roundTrips : json.RoundTrips)
    (unlocked : vault.m_unlocked = true)
    (call : WriteCall) :
    (call.Refused ∧
      write json sodium (vault, files) call = (false, vault, files)) ∨
    ¬ call.Refused ∧
      ((call.Idle vault.m_secrets ∧
        write json sodium (vault, files) call = (true, vault, files)) ∨
      ¬ call.Idle vault.m_secrets ∧
        (write json sodium (vault, files) call =
          (false, { vault with m_secrets := call.change vault.m_secrets },
            files) ∨
        ∃ content,
          write json sodium (vault, files) call =
            (true, { vault with m_secrets := call.change vault.m_secrets },
              Function.update files vault.m_vaultPath (some content)) ∧
          SealedIn json sodium content vault.m_salt vault.m_vaultKey
            (call.change vault.m_secrets))) := by
  have saved : ∀ (secrets : SecretMap) (outcome : SaveOutcome),
      let changed := { vault with m_secrets := secrets }
      let result := saveVault json sodium changed files outcome
      (result.1, changed, result.2) = (false, changed, files) ∨
        ∃ content,
          (result.1, changed, result.2) =
              (true, changed,
                Function.update files vault.m_vaultPath (some content)) ∧
            SealedIn json sodium content vault.m_salt vault.m_vaultKey
              secrets := by
    intro secrets outcome changed result
    rcases saveVault_cases sodium changed files roundTrips outcome with
      failed | ⟨content, written, _, _, holds⟩
    · exact Or.inl (by simp only [result, failed])
    · exact Or.inr ⟨content, by simp only [result, written, changed], holds⟩
  cases call with
  | store name value outcome =>
      by_cases refused : name = [] ∨ value = []
      · left
        refine ⟨refused, ?_⟩
        simp [write, storeSecret, refused]
      · right
        refine ⟨refused, Or.inr ⟨id, ?_⟩⟩
        have permitted :
            ¬ (vault.m_unlocked = false ∨ name = [] ∨ value = []) := by
          simp [unlocked, refused]
        rw [write, storeSecret, if_neg permitted]
        exact saved (vault.m_secrets.insert name value) outcome
  | remove name outcome =>
      by_cases refused : name = []
      · left
        refine ⟨refused, ?_⟩
        simp [write, removeSecret, refused]
      · right
        refine ⟨refused, ?_⟩
        have permitted : ¬ (vault.m_unlocked = false ∨ name = []) := by
          simp [unlocked, refused]
        rw [write, removeSecret, if_neg permitted]
        by_cases absent : name ∉ vault.m_secrets
        · exact Or.inl ⟨absent, if_pos absent⟩
        · rw [if_neg absent]
          exact Or.inr ⟨absent, saved (vault.m_secrets.erase name) outcome⟩

/-! ## The abstract store -/

/-- What the vault is for: a value or nothing under every name. -/
abbrev SecretView := QString → Option QByteArray

/-- What a successful call makes of the view. -/
def WriteCall.apply (view : SecretView) : WriteCall → SecretView
  | store name value _ => Function.update view name (some value)
  | remove name _ => Function.update view name none

@[simp] theorem loadSecret_of_locked
    {name : QString}
    (locked : vault.m_unlocked = false) :
    vault.loadSecret name = none := by
  simp [loadSecret, locked]

theorem loadSecret_of_unlocked
    {name : QString}
    (unlocked : vault.m_unlocked = true)
    (nameNonempty : name ≠ []) :
    vault.loadSecret name = vault.m_secrets.lookup name := by
  simp [loadSecret, unlocked, nameNonempty]

/-- Services with the same lock state show the same where their lookups
agree. -/
theorem loadSecret_congr
    {other : VaultService} {name : QString}
    (lockState : vault.m_unlocked = other.m_unlocked)
    (lookup :
      vault.m_secrets.lookup name = other.m_secrets.lookup name) :
    vault.loadSecret name = other.loadSecret name := by
  rw [loadSecret, loadSecret, lockState, lookup]

/-- An idle call changes nothing in the view either. -/
theorem loadSecret_idle
    {call : WriteCall}
    (idle : call.Idle vault.m_secrets) :
    vault.loadSecret = WriteCall.apply vault.loadSecret call := by
  cases call with
  | store name value outcome => exact idle.elim
  | remove name outcome =>
      have absent : vault.loadSecret name = none := by
        rw [loadSecret, AList.lookup_eq_none.mpr idle, ite_self]
      rw [WriteCall.apply, ← absent, Function.update_eq_self]

/-- Memory changes as the view does. -/
theorem loadSecret_change
    {call : WriteCall}
    (unlocked : vault.m_unlocked = true)
    (nameNonempty : call.name ≠ []) :
    loadSecret { vault with m_secrets := call.change vault.m_secrets } =
      WriteCall.apply vault.loadSecret call := by
  funext name
  cases call with
  | store changed value outcome =>
      by_cases same : name = changed
      · subst same
        change name ≠ [] at nameNonempty
        refine (loadSecret_of_unlocked (by exact unlocked)
          nameNonempty).trans ?_
        rw [WriteCall.apply, Function.update_self]
        exact AList.lookup_insert _
      · rw [WriteCall.apply, Function.update_of_ne same]
        exact loadSecret_congr rfl (AList.lookup_insert_ne same)
  | remove changed outcome =>
      by_cases same : name = changed
      · subst same
        change name ≠ [] at nameNonempty
        refine (loadSecret_of_unlocked (by exact unlocked)
          nameNonempty).trans ?_
        rw [WriteCall.apply, Function.update_self]
        exact AList.lookup_erase _ _
      · rw [WriteCall.apply, Function.update_of_ne same]
        exact loadSecret_congr rfl (AList.lookup_erase_ne same)

end VaultService
end Crypto
end VoxDesktop
