import VoxDesktop.Crypto.IdentityKeyStore
import VoxDesktop.Library.WriteThrough

/-!
# What the vault keeps across restarts

An unlocked vault is a store that writes through to its file.  `durable` is
the pair of views a vault state stands for: what `loadSecret` answers, and
what a vault reopened from the file would answer.  On a vault opened under a
password, storing a secret, chains of stores and reopening do to this pair
what the general store does, so runs with failing saves and restarts are
argued about there.
-/

namespace VoxDesktop
namespace Crypto

open Qt CryptoHelpers Library

/-- The nonce has its size and none of the fallible calls fails. -/
def SaveOutcome.works (outcome : SaveOutcome) : Bool :=
  decide (outcome.nonce.length = kXChaCha20NonceBytes) &&
    outcome.encrypted && outcome.opened && outcome.committed

namespace VaultService

/-- What the vault file answers, opened under the key in memory. -/
def diskView
    (json : QJsonDocument) (sodium : Sodium)
    (state : VaultService × Files) : SecretView := fun name =>
  if name = [] then none
  else
    (state.2 state.1.m_vaultPath).bind fun content =>
      (openContent json sodium content state.1.m_vaultKey).bind fun loaded =>
        loaded.lookup name

/-- The store a vault state stands for. -/
def durable
    (json : QJsonDocument) (sodium : Sodium)
    (state : VaultService × Files) : WriteThrough QString QByteArray :=
  ⟨loadSecret state.1, diskView json sodium state⟩

/-- An unlocked vault whose file opens under a password, to some secrets. -/
structure Reopenable
    (json : QJsonDocument)
    (sodium : Sodium)
    (vaultPath password : QString)
    (state : VaultService × Files) : Prop where
  unlocked : state.1.m_unlocked = true
  path : state.1.m_vaultPath = vaultPath
  passwordNonempty : password ≠ []
  key : vaultKeyOf sodium password state.1.m_salt = state.1.m_vaultKey
  onDisk : ∃ content loaded,
    state.2 vaultPath = some content ∧
      saltOf json content = state.1.m_salt ∧
      openContent json sodium content state.1.m_vaultKey = some loaded

/-! ## When a save works -/

section Save

variable {json : QJsonDocument} {sodium : Sodium}

/-- Opening needs the library and a key of its size. -/
theorem openContent_eq_some
    {content vaultKey : QByteArray} {loaded : SecretMap}
    (opened : openContent json sodium content vaultKey = some loaded) :
    sodium.initialized = true ∧ vaultKey.length = kChaCha20KeyBytes := by
  unfold openContent at opened
  obtain ⟨decrypted, decrypts, _⟩ := Option.map_eq_some_iff.mp opened
  rw [xchachaDecryptLocal, openWith] at decrypts
  split at decrypts
  · contradiction
  · rename_i checks
    simp only [not_or, Bool.not_eq_false, ne_eq, not_not] at checks
    exact ⟨checks.1, checks.2.1⟩

/-- A derived key is only as long as it should be for a salt of its size. -/
theorem length_salt_of_vaultKeyOf
    {password : QString} {salt : QByteArray}
    (keySize :
      (vaultKeyOf sodium password salt).length = kChaCha20KeyBytes) :
    salt.length = kPwhashSaltBytes := by
  by_contra wrongSize
  rw [vaultKeyOf, argon2idKdf, if_pos (by simp [wrongSize])] at keySize
  contradiction

/-- With a key and a salt of their sizes, saving returns whether the outcome
works. -/
theorem saveVault_returns
    {vault : VaultService} (files : Files) (outcome : SaveOutcome)
    (correct : sodium.AeadCorrect)
    (initialized : sodium.initialized = true)
    (unlocked : vault.m_unlocked = true)
    (keySize : vault.m_vaultKey.length = kChaCha20KeyBytes)
    (saltSize : vault.m_salt.length = kPwhashSaltBytes) :
    (saveVault json sodium vault files outcome).1 = outcome.works := by
  have checks : ¬ (vault.m_unlocked = false ∨
      vault.m_vaultKey.length ≠ kChaCha20KeyBytes ∨
      vault.m_salt.length ≠ kPwhashSaltBytes) := by
    simp [unlocked, keySize, saltSize]
  rw [saveVault, if_neg checks]
  by_cases nonceSize : outcome.nonce.length = kXChaCha20NonceBytes
  · have sealed : outcome.encrypted = true →
        sealPayload json sodium vault outcome ≠ [] := by
      intro encrypted empty
      have length := (openWith_sealWith
        (json.toJson (payloadObject vault.m_secrets)) vaultAd
        correct.xchacha initialized keySize nonceSize).1
      rw [sealPayload, if_neg (by simp [encrypted]),
        xchachaEncryptLocal] at empty
      rw [empty] at length
      simp at length
    rw [if_neg (not_not.mpr nonceSize), SaveOutcome.works]
    cases encrypted : outcome.encrypted with
    | false => simp [sealPayload, encrypted]
    | true =>
        rw [if_neg (sealed encrypted)]
        cases opened : outcome.opened <;>
          cases committed : outcome.committed <;> simp [nonceSize]
  · rw [if_pos nonceSize, SaveOutcome.works]
    simp [nonceSize]

end Save

/-! ## One store -/

section Refinement

variable {json : QJsonDocument} {sodium : Sodium}
  {vaultPath password : QString} {state : VaultService × Files}

theorem diskView_of_onDisk
    {content : QByteArray} {loaded : SecretMap}
    (onDisk : state.2 state.1.m_vaultPath = some content)
    (opened : openContent json sodium content state.1.m_vaultKey =
      some loaded)
    (name : QString) :
    diskView json sodium state name =
      if name = [] then none else loaded.lookup name := by
  rw [diskView, onDisk, Option.bind_some, opened, Option.bind_some]

/-- A saved file shows what the service shows. -/
theorem diskView_of_sealedIn
    {content salt : QByteArray}
    (correct : sodium.AeadCorrect)
    (unlocked : state.1.m_unlocked = true)
    (onDisk : state.2 state.1.m_vaultPath = some content)
    (holds : SealedIn json sodium content salt state.1.m_vaultKey
      state.1.m_secrets) :
    diskView json sodium state = loadSecret state.1 := by
  obtain ⟨loaded, opened, lookups⟩ := openContent_of_sealedIn correct holds
  funext name
  rw [diskView_of_onDisk onDisk opened, lookups, loadSecret]
  simp [unlocked]

/-- A reopenable vault can be saved. -/
theorem Reopenable.sizes
    (reopenable : Reopenable json sodium vaultPath password state) :
    sodium.initialized = true ∧
      state.1.m_vaultKey.length = kChaCha20KeyBytes ∧
      state.1.m_salt.length = kPwhashSaltBytes := by
  obtain ⟨_, _, _, _, opened⟩ := reopenable.onDisk
  obtain ⟨initialized, keySize⟩ := openContent_eq_some opened
  refine ⟨initialized, keySize, ?_⟩
  rw [← reopenable.key] at keySize
  exact length_salt_of_vaultKeyOf keySize

/-- Storing a secret is a store of the general kind. -/
theorem store_refines
    (roundTrips : json.RoundTrips)
    (correct : sodium.AeadCorrect)
    (reopenable : Reopenable json sodium vaultPath password state)
    {name : QString} {value : QByteArray}
    (nameNonempty : name ≠ [])
    (valueNonempty : value ≠ [])
    (outcome : SaveOutcome) :
    let result := write json sodium state (.store name value outcome)
    result.1 = outcome.works ∧
      Reopenable json sodium vaultPath password result.2 ∧
      durable json sodium result.2 =
        (durable json sodium state).store ⟨name, value, outcome.works⟩ := by
  obtain ⟨vault, files⟩ := state
  intro result
  have permitted :
      ¬ (vault.m_unlocked = false ∨ name = [] ∨ value = []) := by
    have unlocked : vault.m_unlocked = true := reopenable.unlocked
    simp [unlocked, nameNonempty, valueNonempty]
  let stored : VaultService :=
    { vault with m_secrets := vault.m_secrets.insert name value }
  have written : result =
      ((saveVault json sodium stored files outcome).1, stored,
        (saveVault json sodium stored files outcome).2) :=
    if_neg permitted
  have named : (WriteCall.store name value outcome).name ≠ [] :=
    nameNonempty
  have memory :
      loadSecret stored =
        Function.update (loadSecret vault) name (some value) :=
    loadSecret_change reopenable.unlocked named
  obtain ⟨initialized, keySize, saltSize⟩ := reopenable.sizes
  have returned :
      (saveVault json sodium stored files outcome).1 = outcome.works :=
    saveVault_returns files outcome correct initialized reopenable.unlocked
      keySize saltSize
  rcases saveVault_cases sodium stored files roundTrips outcome with
    failed | ⟨content, saved, _, _, holds⟩
  · rw [failed] at written returned
    rw [written]
    refine ⟨returned, ⟨reopenable.unlocked, reopenable.path,
      reopenable.passwordNonempty, reopenable.key, reopenable.onDisk⟩, ?_⟩
    rw [durable, WriteThrough.store, ← returned]
    simp only [memory, Bool.false_eq_true, if_false]
    rfl
  · rw [saved] at written returned
    have onDisk :
        Function.update files stored.m_vaultPath (some content)
          stored.m_vaultPath = some content := Function.update_self ..
    obtain ⟨loaded, opened, _⟩ := openContent_of_sealedIn correct holds
    have samePath : stored.m_vaultPath = vaultPath := reopenable.path
    rw [written]
    refine ⟨returned, ⟨reopenable.unlocked, reopenable.path,
      reopenable.passwordNonempty, reopenable.key, content, loaded,
      samePath ▸ onDisk, holds.saltOf_eq, opened⟩, ?_⟩
    have disk :
        diskView json sodium
            (stored,
              Function.update files stored.m_vaultPath (some content)) =
          loadSecret stored :=
      diskView_of_sealedIn correct reopenable.unlocked onDisk holds
    rw [durable, WriteThrough.store, ← returned]
    simp only [disk, memory, if_true]
    rfl

/-- A store returns true when the value is not empty and the save works; the
disk then has the value, and else what it had. -/
theorem store_onDisk
    (roundTrips : json.RoundTrips)
    (correct : sodium.AeadCorrect)
    (reopenable : Reopenable json sodium vaultPath password state)
    {name : QString}
    (nameNonempty : name ≠ [])
    (value : QByteArray)
    (outcome : SaveOutcome) :
    let result := write json sodium state (.store name value outcome)
    (result.1 = true ↔ value ≠ [] ∧ outcome.works = true) ∧
      diskView json sodium result.2 name =
        if result.1 then some value else diskView json sodium state name := by
  intro result
  by_cases empty : value = []
  · have refused : result = (false, state) := by
      unfold result write storeSecret
      exact if_pos (Or.inr (Or.inr empty))
    rw [refused]
    simp [empty]
  · obtain ⟨returned, _, refined⟩ :=
      store_refines roundTrips correct reopenable nameNonempty empty outcome
    have disk :
        diskView json sodium result.2 =
          ((durable json sodium state).store
            ⟨name, value, outcome.works⟩).disk :=
      congrArg WriteThrough.disk refined
    rw [show result.1 = outcome.works from returned, disk]
    refine ⟨by simp [empty], ?_⟩
    cases works : outcome.works with
    | true => exact Function.update_self ..
    | false => rfl

/-! ## Chains of stores -/

/-- The stores of a chain as general writes. -/
def storeWrites
    (secrets : List (QString × QByteArray)) (saves : ℕ → SaveOutcome) :
    List (WriteThrough.Write QString QByteArray) :=
  secrets.mapIdx fun index secret =>
    ⟨secret.1, secret.2, (saves index).works⟩

@[simp] theorem storeWrites_cons
    (secret : QString × QByteArray) (secrets : List (QString × QByteArray))
    (saves : ℕ → SaveOutcome) :
    storeWrites (secret :: secrets) saves =
      ⟨secret.1, secret.2, (saves 0).works⟩ ::
        storeWrites secrets fun index => saves (index + 1) :=
  List.mapIdx_cons

@[simp] theorem storeCalls_cons
    (secret : QString × QByteArray) (secrets : List (QString × QByteArray))
    (saves : ℕ → SaveOutcome) :
    storeCalls (secret :: secrets) saves =
      .store secret.1 secret.2 (saves 0) ::
        storeCalls secrets fun index => saves (index + 1) :=
  List.mapIdx_cons

theorem storeWrites_names
    (secrets : List (QString × QByteArray)) (saves : ℕ → SaveOutcome) :
    (storeWrites secrets saves).map WriteThrough.Write.name =
      secrets.map Prod.fst := by
  induction secrets generalizing saves with
  | nil => rfl
  | cons secret secrets inductionHypothesis =>
      rw [storeWrites_cons, List.map_cons, List.map_cons,
        inductionHypothesis]

/-- Every secret of a chain is stored by one of its writes. -/
theorem exists_mem_storeWrites
    {secrets : List (QString × QByteArray)} (saves : ℕ → SaveOutcome)
    {secret : QString × QByteArray} (within : secret ∈ secrets) :
    ∃ write ∈ storeWrites secrets saves,
      write.name = secret.1 ∧ write.value = secret.2 := by
  obtain ⟨index, bound, rfl⟩ := List.getElem_of_mem within
  exact ⟨_, List.mem_mapIdx.mpr ⟨index, bound, rfl⟩, rfl, rfl⟩

/-- Every write of a chain stores one of its secrets. -/
theorem secret_of_mem_storeWrites
    {secrets : List (QString × QByteArray)} {saves : ℕ → SaveOutcome}
    {write : WriteThrough.Write QString QByteArray}
    (within : write ∈ storeWrites secrets saves) :
    (write.name, write.value) ∈ secrets := by
  obtain ⟨index, bound, rfl⟩ := List.mem_mapIdx.mp within
  exact List.getElem_mem bound

theorem works_of_mem_storeWrites
    {secrets : List (QString × QByteArray)} {saves : ℕ → SaveOutcome}
    (works : ∀ index, (saves index).works = true)
    {write : WriteThrough.Write QString QByteArray}
    (within : write ∈ storeWrites secrets saves) :
    write.works = true := by
  obtain ⟨index, _, rfl⟩ := List.mem_mapIdx.mp within
  exact works index

/-- A chain of stores is a chain of general stores. -/
theorem writeAll_refines
    (roundTrips : json.RoundTrips)
    (correct : sodium.AeadCorrect)
    (reopenable : Reopenable json sodium vaultPath password state)
    {secrets : List (QString × QByteArray)}
    (nonempty : ∀ secret ∈ secrets, secret.1 ≠ [] ∧ secret.2 ≠ [])
    (saves : ℕ → SaveOutcome) :
    let result := writeAll json sodium state (storeCalls secrets saves)
    let chain :=
      (durable json sodium state).storeAll (storeWrites secrets saves)
    result.1 = chain.1 ∧
      Reopenable json sodium vaultPath password result.2 ∧
      durable json sodium result.2 = chain.2 := by
  induction secrets generalizing state saves with
  | nil => exact ⟨rfl, reopenable, rfl⟩
  | cons secret secrets inductionHypothesis =>
      obtain ⟨nameNonempty, valueNonempty⟩ :=
        nonempty secret List.mem_cons_self
      obtain ⟨returned, reopenableNext, refined⟩ :=
        store_refines roundTrips correct reopenable nameNonempty
          valueNonempty (saves 0)
      rw [storeCalls_cons, storeWrites_cons, writeAll,
        WriteThrough.storeAll, ← refined]
      dsimp only
      rw [returned]
      split
      · exact inductionHypothesis reopenableNext
          (fun other within => nonempty other (List.mem_cons_of_mem _ within))
          fun index => saves (index + 1)
      · rename_i fails
        exact ⟨returned.trans (Bool.not_eq_true _ ▸ fails), reopenableNext,
          rfl⟩

/-- A chain whose saves all work stores its secrets. -/
theorem writeAll_of_works
    (roundTrips : json.RoundTrips)
    (correct : sodium.AeadCorrect)
    (reopenable : Reopenable json sodium vaultPath password state)
    {secrets : List (QString × QByteArray)}
    (nonempty : ∀ secret ∈ secrets, secret.1 ≠ [] ∧ secret.2 ≠ [])
    (distinct : (secrets.map Prod.fst).Nodup)
    {saves : ℕ → SaveOutcome}
    (works : ∀ index, (saves index).works = true) :
    let result := writeAll json sodium state (storeCalls secrets saves)
    result.1 = true ∧
      ∀ secret ∈ secrets,
        result.2.1.loadSecret secret.1 = some secret.2 := by
  intro result
  obtain ⟨returned, _, refined⟩ :=
    writeAll_refines roundTrips correct reopenable nonempty saves
  have allWork : ∀ write ∈ storeWrites secrets saves, write.works = true :=
    fun _ within => works_of_mem_storeWrites works within
  obtain ⟨done, stored⟩ :=
    @WriteThrough.memory_storeAll_of_works _ _ _
      (durable json sodium state) _
      (by rw [storeWrites_names]; exact distinct) allWork
  rw [← returned] at done
  refine ⟨done, fun secret within => ?_⟩
  obtain ⟨write, written, named, valued⟩ :=
    exists_mem_storeWrites saves within
  have found := stored write written
  rw [named, valued, ← refined] at found
  exact found

/-- Whatever is stored or removed, and whether or not it is saved, the vault
can be opened again. -/
theorem Reopenable.of_write
    (roundTrips : json.RoundTrips)
    (correct : sodium.AeadCorrect)
    (reopenable : Reopenable json sodium vaultPath password state)
    (call : WriteCall) :
    Reopenable json sodium vaultPath password
      (write json sodium state call).2 := by
  obtain ⟨vault, files⟩ := state
  rcases write_cases sodium files roundTrips reopenable.unlocked call with
    ⟨_, result⟩ | ⟨_, ⟨_, result⟩ | ⟨_, result | ⟨content, result, holds⟩⟩⟩
  · rw [result]
    exact reopenable
  · rw [result]
    exact reopenable
  · rw [result]
    exact ⟨reopenable.unlocked, reopenable.path, reopenable.passwordNonempty,
      reopenable.key, reopenable.onDisk⟩
  · obtain ⟨loaded, opened, _⟩ := openContent_of_sealedIn correct holds
    have onDisk :
        Function.update files vault.m_vaultPath (some content) vaultPath =
          some content := by
      rw [show vault.m_vaultPath = vaultPath from reopenable.path]
      exact Function.update_self ..
    rw [result]
    exact ⟨reopenable.unlocked, reopenable.path, reopenable.passwordNonempty,
      reopenable.key, content, loaded, onDisk, holds.saltOf_eq, opened⟩

/-! ## Opening and reopening -/

/-- How a vault comes to be opened again. -/
inductive Reopening
  /-- A new process. -/
  | restart
  /-- `lock` on the service itself. -/
  | lock

/-- The service that is unlocked again. -/
def Reopening.closed (vault : VaultService) : Reopening → VaultService
  | restart => onPath vault.m_vaultPath
  | lock => vault.lock

/-- Unlock a vault again from its file, which can be read and whose key can be
derived. -/
def reopen
    (json : QJsonDocument) (sodium : Sodium) (password : QString)
    (state : VaultService × Files) (reopening : Reopening)
    (salt : QByteArray) (save : SaveOutcome) :
    Bool × VaultService × Files :=
  unlockWithPassword json sodium (reopening.closed state.1) state.2 password
    ⟨true, true, salt, save⟩

/-- Reopening restarts the store. -/
theorem reopen_refines
    (reopenable : Reopenable json sodium vaultPath password state)
    (reopening : Reopening) (salt : QByteArray) (save : SaveOutcome) :
    let result := reopen json sodium password state reopening salt save
    result.1 = true ∧
      Reopenable json sodium vaultPath password result.2 ∧
      durable json sodium result.2 =
        (durable json sodium state).restart := by
  intro result
  obtain ⟨content, loaded, onDisk, salted, opened⟩ := reopenable.onDisk
  obtain ⟨_, keySize, _⟩ := reopenable.sizes
  let closed := reopening.closed state.1
  have samePath : closed.m_vaultPath = vaultPath := by
    rw [← reopenable.path]
    cases reopening <;> rfl
  rw [← samePath] at onDisk
  let again : VaultService :=
    { closed with
      m_salt := state.1.m_salt
      m_vaultKey := state.1.m_vaultKey
      m_secrets := loaded
      m_unlocked := true }
  have loading :
      loadExistingVault json sodium closed state.2 password
          ⟨true, true, salt, save⟩ = (true, again) := by
    rw [loadExistingVault_readable onDisk rfl]
    dsimp only
    rw [derivedKey, if_pos rfl, salted, reopenable.key,
      if_neg (not_not.mpr keySize), opened]
  have present : (state.2 closed.m_vaultPath).isSome = true := by
    simp [onDisk]
  have unlocking : result = (true, again, state.2) := by
    rw [show result = _ from if_neg reopenable.passwordNonempty,
      if_pos present, loading]
  have disk : diskView json sodium state = loadSecret again := by
    funext name
    rw [diskView_of_onDisk (by rw [reopenable.path, ← samePath, onDisk])
      opened, loadSecret]
    simp [again]
  have diskAgain :
      diskView json sodium (again, state.2) = loadSecret again := by
    funext name
    rw [@diskView_of_onDisk json sodium (again, state.2) content loaded
      onDisk opened, loadSecret]
    simp [again]
  refine ⟨by rw [unlocking], ?_⟩
  rw [unlocking, durable, durable, WriteThrough.restart]
  dsimp only
  rw [disk, diskAgain]
  exact ⟨⟨rfl, samePath, reopenable.passwordNonempty, reopenable.key,
    content, loaded, samePath ▸ onDisk, salted, opened⟩, rfl⟩

/-- A vault that was unlocked is reopenable, and shows what its file shows. -/
theorem unlockWithPassword_reopenable
    {files : Files} {outcome : UnlockOutcome}
    (roundTrips : json.RoundTrips)
    (correct : sodium.AeadCorrect)
    (returned :
      (unlockWithPassword json sodium (onPath vaultPath) files password
        outcome).1 = true) :
    let unlocked :=
      (unlockWithPassword json sodium (onPath vaultPath) files password
        outcome).2
    Reopenable json sodium vaultPath password unlocked ∧
      diskView json sodium unlocked = loadSecret unlocked.1 := by
  have passwordNonempty : password ≠ [] := by
    rintro rfl
    contradiction
  rcases unlockWithPassword_returned roundTrips returned with
    ⟨_, content, result, sealedIn⟩ |
      ⟨content, loaded, onDisk, opened, result⟩
  · rw [result]
    obtain ⟨loaded, opened, _⟩ := openContent_of_sealedIn correct sealedIn
    exact ⟨⟨rfl, rfl, passwordNonempty, rfl, content, loaded,
        Function.update_self .., sealedIn.saltOf_eq, opened⟩,
      diskView_of_sealedIn correct rfl (Function.update_self ..) sealedIn⟩
  · rw [result]
    refine ⟨⟨rfl, rfl, passwordNonempty, rfl, content, loaded, onDisk, rfl,
      opened⟩, ?_⟩
    funext name
    rw [diskView_of_onDisk onDisk opened, loadSecret]
    simp

end Refinement

end VaultService
end Crypto
end VoxDesktop
