import VoxDesktop.Crypto.IdentityKeyStore

/-!
# What a vault can contain

A vault contains only what was stored in it: when every value stored under a
name is permitted for the name, so is every secret in memory and every secret
sealed in the vault file, over any writes and over unlocking the file again,
be it under another password, as long as the keys of different passwords open
nothing of each other.
-/

namespace VoxDesktop
namespace Crypto
namespace VaultService

open Qt CryptoHelpers Library

/-- The key is derived from one of the passwords. -/
def KeyOf
    (sodium : Sodium) (passwords : List QString) (salt vaultKey : QByteArray) :
    Prop :=
  ∃ password ∈ passwords, vaultKeyOf sodium password salt = vaultKey

/-- Under a salt, two of the passwords have the same key or keys that open
nothing of each other. -/
def Committing (sodium : Sodium) (passwords : List QString) : Prop :=
  ∀ password ∈ passwords, ∀ other ∈ passwords, ∀ salt,
    vaultKeyOf sodium password salt = vaultKeyOf sodium other salt ∨
      sodium.xchacha20poly1305.RejectsUnder (vaultKeyOf sodium password salt)
        (vaultKeyOf sodium other salt)

/-- One password commits to its key. -/
theorem committing_of_forall_eq
    {sodium : Sodium} {passwords : List QString} {password : QString}
    (same : ∀ other ∈ passwords, other = password) :
    Committing sodium passwords := by
  intro first firstMember second secondMember salt
  left
  rw [same first firstMember, same second secondMember]

/-- Every secret is permitted for its name. -/
def Permits
    (permitted : QString → QByteArray → Prop) (secrets : SecretMap) : Prop :=
  ∀ name value, secrets.lookup name = some value → permitted name value

/-- The vault file, if there is one, seals permitted secrets under the key of
one of the passwords. -/
def FileHoldsOnly
    (json : QJsonDocument) (sodium : Sodium) (vaultPath : QString)
    (passwords : List QString) (permitted : QString → QByteArray → Prop)
    (files : Files) : Prop :=
  ∀ content, files vaultPath = some content →
    ∃ salt vaultKey secrets,
      SealedIn json sodium content salt vaultKey secrets ∧
        KeyOf sodium passwords salt vaultKey ∧ Permits permitted secrets

/-- A vault on a path, and its file, hold permitted secrets only. -/
structure HoldsOnly
    (json : QJsonDocument) (sodium : Sodium) (vaultPath : QString)
    (passwords : List QString) (permitted : QString → QByteArray → Prop)
    (state : VaultService × Files) : Prop where
  path : state.1.m_vaultPath = vaultPath
  key : state.1.m_unlocked = true →
    KeyOf sodium passwords state.1.m_salt state.1.m_vaultKey
  memory : Permits permitted state.1.m_secrets
  file : FileHoldsOnly json sodium vaultPath passwords permitted state.2

/-- What a call may write. -/
def WriteCall.Permitted
    (permitted : QString → QByteArray → Prop) : WriteCall → Prop
  | store name value _ => permitted name value
  | remove _ _ => True

section Permits

variable {permitted allowed : QString → QByteArray → Prop}

theorem permits_empty : Permits permitted ∅ := by
  intro name value found
  rw [AList.lookup_empty] at found
  contradiction

theorem Permits.mono
    (weaker : ∀ name value, permitted name value → allowed name value)
    {secrets : SecretMap} (permits : Permits permitted secrets) :
    Permits allowed secrets :=
  fun name value found => weaker name value (permits name value found)

/-- Secrets stay permitted through the change of a permitted call. -/
theorem Permits.change
    {secrets : SecretMap} (permits : Permits permitted secrets)
    {call : WriteCall} (callPermitted : call.Permitted permitted) :
    Permits permitted (call.change secrets) := by
  intro name value found
  cases call with
  | store changed stored outcome =>
      rw [WriteCall.change] at found
      by_cases same : name = changed
      · subst same
        rw [AList.lookup_insert, Option.some.injEq] at found
        exact found ▸ callPermitted
      · rw [AList.lookup_insert_ne same] at found
        exact permits name value found
  | remove changed outcome =>
      rw [WriteCall.change] at found
      by_cases same : name = changed
      · subst same
        rw [AList.lookup_erase] at found
        contradiction
      · rw [AList.lookup_erase_ne same] at found
        exact permits name value found

end Permits

section Kept

variable {json : QJsonDocument} {sodium : Sodium} {vaultPath : QString}
  {passwords : List QString}
  {permitted allowed : QString → QByteArray → Prop}
  {state : VaultService × Files}

theorem FileHoldsOnly.mono
    (weaker : ∀ name value, permitted name value → allowed name value)
    {files : Files}
    (holds : FileHoldsOnly json sodium vaultPath passwords permitted files) :
    FileHoldsOnly json sodium vaultPath passwords allowed files := by
  intro content onDisk
  obtain ⟨salt, vaultKey, secrets, holdsSecrets, keyed, permits⟩ :=
    holds content onDisk
  exact ⟨salt, vaultKey, secrets, holdsSecrets, keyed, permits.mono weaker⟩

/-- A file that was just saved. -/
theorem fileHoldsOnly_update
    (files : Files)
    {content salt vaultKey : QByteArray} {secrets : SecretMap}
    (sealedIn : SealedIn json sodium content salt vaultKey secrets)
    (keyed : KeyOf sodium passwords salt vaultKey)
    (permits : Permits permitted secrets) :
    FileHoldsOnly json sodium vaultPath passwords permitted
      (Function.update files vaultPath (some content)) := by
  intro found onDisk
  rw [Function.update_self, Option.some.injEq] at onDisk
  subst onDisk
  exact ⟨salt, vaultKey, secrets, sealedIn, keyed, permits⟩

theorem HoldsOnly.mono
    (weaker : ∀ name value, permitted name value → allowed name value)
    (holds : HoldsOnly json sodium vaultPath passwords permitted state) :
    HoldsOnly json sodium vaultPath passwords allowed state :=
  ⟨holds.path, holds.key, holds.memory.mono weaker, holds.file.mono weaker⟩

/-- What a vault answers is permitted. -/
theorem HoldsOnly.of_loadSecret
    (holds : HoldsOnly json sodium vaultPath passwords permitted state)
    {name : QString} {value : QByteArray}
    (loaded : state.1.loadSecret name = some value) :
    permitted name value := by
  rw [loadSecret] at loaded
  split at loaded
  · contradiction
  · exact holds.memory name value loaded

/-- A permitted call leaves a vault that holds permitted secrets only. -/
theorem HoldsOnly.of_write
    (roundTrips : json.RoundTrips)
    (holds : HoldsOnly json sodium vaultPath passwords permitted state)
    {call : WriteCall} (callPermitted : call.Permitted permitted) :
    HoldsOnly json sodium vaultPath passwords permitted
      (write json sodium state call).2 := by
  obtain ⟨vault, files⟩ := state
  cases unlocked : vault.m_unlocked with
  | false =>
      rw [write_of_locked unlocked]
      exact holds
  | true =>
      have changed := holds.memory.change callPermitted
      have keyed : KeyOf sodium passwords vault.m_salt vault.m_vaultKey :=
        holds.key unlocked
      rcases write_cases sodium files roundTrips unlocked call with
        ⟨_, result⟩ | ⟨_, ⟨_, result⟩ | ⟨_, result |
          ⟨content, result, sealedIn⟩⟩⟩
      · rw [result]
        exact holds
      · rw [result]
        exact holds
      · rw [result]
        exact ⟨holds.path, fun _ => keyed, changed, holds.file⟩
      · have samePath : vault.m_vaultPath = vaultPath := holds.path
        rw [result]
        refine ⟨holds.path, fun _ => keyed, changed, ?_⟩
        dsimp only
        rw [samePath]
        exact fileHoldsOnly_update files sealedIn keyed changed

/-- A store that is saved replaces what was permitted for its name, in memory
and in the file. -/
theorem HoldsOnly.of_saved_store
    (roundTrips : json.RoundTrips)
    (holds : HoldsOnly json sodium vaultPath passwords permitted state)
    {name : QString} {value : QByteArray} {outcome : SaveOutcome}
    (saved : (write json sodium state (.store name value outcome)).1 = true)
    (stored : allowed name value)
    (others : ∀ other kept, other ≠ name →
      permitted other kept → allowed other kept) :
    HoldsOnly json sodium vaultPath passwords allowed
      (write json sodium state (.store name value outcome)).2 := by
  obtain ⟨vault, files⟩ := state
  have changed :
      Permits allowed
        ((WriteCall.store name value outcome).change vault.m_secrets) := by
    intro other found lookedUp
    rw [WriteCall.change] at lookedUp
    by_cases same : other = name
    · subst same
      rw [AList.lookup_insert, Option.some.injEq] at lookedUp
      exact lookedUp ▸ stored
    · rw [AList.lookup_insert_ne same] at lookedUp
      exact others other found same (holds.memory other found lookedUp)
  cases unlocked : vault.m_unlocked with
  | false =>
      rw [write_of_locked unlocked] at saved
      contradiction
  | true =>
      have keyed : KeyOf sodium passwords vault.m_salt vault.m_vaultKey :=
        holds.key unlocked
      rcases write_cases sodium files roundTrips unlocked
          (.store name value outcome) with
        ⟨_, result⟩ | ⟨_, ⟨idle, _⟩ | ⟨_, result |
          ⟨content, result, sealedIn⟩⟩⟩
      · rw [result] at saved
        contradiction
      · exact idle.elim
      · rw [result] at saved
        contradiction
      · have samePath : vault.m_vaultPath = vaultPath := holds.path
        rw [result]
        refine ⟨holds.path, fun _ => keyed, changed, ?_⟩
        dsimp only
        rw [samePath]
        exact fileHoldsOnly_update files sealedIn keyed changed

/-- A file sealed under the key of one of the passwords opens to what was
sealed, under whichever of them it opens. -/
theorem SealedIn.lookup_opened
    (correct : sodium.AeadCorrect)
    (committing : Committing sodium passwords)
    {content salt vaultKey : QByteArray} {secrets loaded : SecretMap}
    (sealedIn : SealedIn json sodium content salt vaultKey secrets)
    (keyed : KeyOf sodium passwords salt vaultKey)
    {password : QString} (member : password ∈ passwords)
    (opened :
      openContent json sodium content
        (vaultKeyOf sodium password (saltOf json content)) = some loaded)
    (name : QString) :
    loaded.lookup name = secrets.lookup name := by
  obtain ⟨former, formerMember, derived⟩ := keyed
  rw [sealedIn.saltOf_eq] at opened
  rcases committing former formerMember password member salt with
    same | rejects
  · rw [← same, derived] at opened
    obtain ⟨restored, restores, lookups⟩ :=
      openContent_of_sealedIn correct sealedIn
    obtain rfl : restored = loaded :=
      Option.some.inj (restores.symm.trans opened)
    exact lookups name
  · rw [derived] at rejects
    rw [openContent_of_rejectsUnder sealedIn rejects] at opened
    contradiction

/-- Unlocking a path, whether or not it succeeds, leaves a file that holds
permitted secrets only; if it succeeds, so does the vault. -/
theorem FileHoldsOnly.of_unlock
    (roundTrips : json.RoundTrips)
    (correct : sodium.AeadCorrect)
    (committing : Committing sodium passwords)
    {files : Files}
    (holds : FileHoldsOnly json sodium vaultPath passwords permitted files)
    {password : QString} (member : password ∈ passwords)
    (outcome : UnlockOutcome) :
    let result := unlockWithPassword json sodium (onPath vaultPath) files
      password outcome
    FileHoldsOnly json sodium vaultPath passwords permitted result.2.2 ∧
      (result.1 = true →
        HoldsOnly json sodium vaultPath passwords permitted result.2) := by
  intro result
  have keyed : ∀ salt,
      KeyOf sodium passwords salt (vaultKeyOf sodium password salt) :=
    fun _ => ⟨password, member, rfl⟩
  cases returned : result.1 with
  | false =>
      rw [show result.2.2 = files from
        files_of_failed_unlock roundTrips returned]
      exact ⟨holds, fun _ => by contradiction⟩
  | true =>
      rcases unlockWithPassword_returned roundTrips returned with
        ⟨_, content, created, sealedIn⟩ |
          ⟨content, loaded, onDisk, opened, read⟩
      · -- A new vault file has no secrets.
        have file : FileHoldsOnly json sodium vaultPath passwords permitted
            (Function.update files vaultPath (some content)) :=
          fileHoldsOnly_update files sealedIn (keyed _) permits_empty
        rw [show result = _ from created]
        exact ⟨file, fun _ => ⟨rfl, fun _ => keyed _, permits_empty, file⟩⟩
      · rw [show result = _ from read]
        refine ⟨holds, fun _ => ⟨rfl, fun _ => keyed _, ?_, holds⟩⟩
        obtain ⟨salt, vaultKey, secrets, sealedIn, former, permits⟩ :=
          holds content onDisk
        intro name value found
        have lookups :=
          sealedIn.lookup_opened correct committing former member opened name
        exact permits name value (lookups.symm.trans found)

end Kept

end VaultService
end Crypto
end VoxDesktop
