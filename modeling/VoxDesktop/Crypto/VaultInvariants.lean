import VoxDesktop.Crypto.VaultContents
import VoxDesktop.Crypto.VaultUnlock

/-!
# Properties of the secrets in memory and on disk

The secrets in memory and those in the vault file can differ, and either can
become the other: a save writes memory to disk, unlocking reads it back.  A
property of secret maps therefore survives any order of saves, failed saves,
unlockings and restarts once every single change in memory keeps it, at every
point of a chain of stores.
-/

namespace VoxDesktop
namespace Crypto
namespace VaultService

open Qt CryptoHelpers Library

/-- What a secret map shows under every name. -/
def viewOf (secrets : SecretMap) : SecretView :=
  fun name => secrets.lookup name

@[simp] theorem viewOf_insert
    (secrets : SecretMap) (name : QString) (value : QByteArray) :
    viewOf (secrets.insert name value) =
      Function.update (viewOf secrets) name (some value) := by
  funext other
  by_cases same : other = name
  · subst same
    rw [Function.update_self]
    exact AList.lookup_insert secrets
  · rw [Function.update_of_ne same]
    exact AList.lookup_insert_ne same

/-- The secrets in memory and those in the vault file have a property.  A key
that can be saved with is the key of one of the passwords. -/
structure MemoryAndFile
    (json : QJsonDocument) (sodium : Sodium) (vaultPath : QString)
    (passwords : List QString) (good : SecretView → Prop)
    (state : VaultService × Files) : Prop where
  path : state.1.m_vaultPath = vaultPath
  key :
    state.1.m_vaultKey.length = kChaCha20KeyBytes →
      state.1.m_salt.length = kPwhashSaltBytes →
        KeyOf sodium passwords state.1.m_salt state.1.m_vaultKey
  memory : good (viewOf state.1.m_secrets)
  file : ∀ content, state.2 vaultPath = some content →
    ∃ salt vaultKey secrets,
      SealedIn json sodium content salt vaultKey secrets ∧
        KeyOf sodium passwords salt vaultKey ∧ good (viewOf secrets)

/-- The property holds of the secrets at every point of a chain of calls. -/
def AllAlong
    (good : SecretView → Prop) : SecretMap → List WriteCall → Prop
  | secrets, [] => good (viewOf secrets)
  | secrets, call :: calls =>
      good (viewOf secrets) ∧ AllAlong good (call.change secrets) calls

section Kept

variable {json : QJsonDocument} {sodium : Sodium} {vaultPath : QString}
  {passwords : List QString} {good : SecretView → Prop}
  {vault : VaultService} {files : Files} {state : VaultService × Files}

/-- A service whose salt does not have its size saves nothing. -/
theorem files_write_of_salt
    (saltSize : vault.m_salt.length ≠ kPwhashSaltBytes) (call : WriteCall) :
    (write json sodium (vault, files) call).2.2 = files := by
  have unsaved : ∀ (secrets : SecretMap) (outcome : SaveOutcome),
      saveVault json sodium { vault with m_secrets := secrets } files
        outcome = (false, files) :=
    fun _ _ => if_pos (Or.inr (Or.inr saltSize))
  cases call with
  | store name value outcome =>
      rw [write, storeSecret]
      split
      · rfl
      · exact congrArg Prod.snd (unsaved _ outcome)
  | remove name outcome =>
      rw [write, removeSecret]
      split
      · rfl
      split
      · rfl
      · exact congrArg Prod.snd (unsaved _ outcome)

/-- A locked service has no key. -/
theorem unsized : ([] : QByteArray).length ≠ kChaCha20KeyBytes := by
  decide

theorem change_of_idle
    {call : WriteCall} {secrets : SecretMap} (idle : call.Idle secrets) :
    call.change secrets = secrets := by
  cases call with
  | store name value outcome => exact idle.elim
  | remove name outcome =>
      exact AList.ext (List.kerase_of_notMem_keys idle)

theorem AllAlong.head
    {secrets : SecretMap} {calls : List WriteCall}
    (along : AllAlong good secrets calls) :
    good (viewOf secrets) := by
  cases calls with
  | nil => exact along
  | cons call calls => exact along.1

/-- A file that was just saved has what was sealed in it. -/
theorem file_of_save
    {content salt vaultKey : QByteArray} {secrets : SecretMap}
    (samePath : vault.m_vaultPath = vaultPath)
    (sealedIn : SealedIn json sodium content salt vaultKey secrets)
    (keyed : KeyOf sodium passwords salt vaultKey)
    (goodSecrets : good (viewOf secrets)) :
    ∀ found,
      Function.update files vault.m_vaultPath (some content) vaultPath =
          some found →
        ∃ salt vaultKey secrets,
          SealedIn json sodium found salt vaultKey secrets ∧
            KeyOf sodium passwords salt vaultKey ∧
              good (viewOf secrets) := by
  intro found onDisk
  rw [samePath, Function.update_self, Option.some.injEq] at onDisk
  subst onDisk
  exact ⟨salt, vaultKey, secrets, sealedIn, keyed, goodSecrets⟩

/-- A call keeps the property if its change in memory does.  If it returns
true, the change is what it leaves in memory. -/
theorem MemoryAndFile.of_write
    (roundTrips : json.RoundTrips)
    (holds : MemoryAndFile json sodium vaultPath passwords good state)
    {call : WriteCall}
    (changed : good (viewOf (call.change state.1.m_secrets))) :
    MemoryAndFile json sodium vaultPath passwords good
        (write json sodium state call).2 ∧
      ((write json sodium state call).1 = true →
        (write json sodium state call).2.1.m_secrets =
          call.change state.1.m_secrets) := by
  obtain ⟨vault, files⟩ := state
  cases unlocked : vault.m_unlocked with
  | false =>
      rw [write_of_locked unlocked]
      exact ⟨holds, fun returned => absurd returned (by simp)⟩
  | true =>
      rcases write_cases sodium files roundTrips unlocked call with
        ⟨_, result⟩ | ⟨_, ⟨idle, result⟩ | ⟨_, result |
          ⟨content, result, sealedIn⟩⟩⟩
      · rw [result]
        exact ⟨holds, fun returned => absurd returned (by simp)⟩
      · rw [result]
        exact ⟨holds, fun _ => (change_of_idle idle).symm⟩
      · rw [result]
        exact ⟨⟨holds.path, holds.key, changed, holds.file⟩, fun _ => rfl⟩
      · by_cases saltSize : vault.m_salt.length = kPwhashSaltBytes
        · have keyed : KeyOf sodium passwords vault.m_salt vault.m_vaultKey :=
            holds.key sealedIn.length_vaultKey saltSize
          have samePath : vault.m_vaultPath = vaultPath := holds.path
          rw [result]
          exact ⟨⟨samePath, holds.key, changed,
            file_of_save samePath sealedIn keyed changed⟩, fun _ => rfl⟩
        · have kept : (write json sodium (vault, files) call).2.2 = files :=
            files_write_of_salt saltSize call
          rw [result] at kept ⊢
          dsimp only at kept
          rw [kept]
          exact ⟨⟨holds.path, holds.key, changed, holds.file⟩, fun _ => rfl⟩

/-- A chain of calls keeps the property wherever it ends. -/
theorem MemoryAndFile.of_writeAll
    (roundTrips : json.RoundTrips)
    (holds : MemoryAndFile json sodium vaultPath passwords good state)
    {calls : List WriteCall}
    (along : AllAlong good state.1.m_secrets calls) :
    MemoryAndFile json sodium vaultPath passwords good
      (writeAll json sodium state calls).2 := by
  induction calls generalizing state with
  | nil => exact holds
  | cons call calls inductionHypothesis =>
      obtain ⟨holdsNext, left⟩ := holds.of_write roundTrips along.2.head
      rw [writeAll]
      split
      · next returned =>
          refine inductionHypothesis holdsNext ?_
          rw [left returned]
          exact along.2
      · exact holdsNext

/-- A locked service shows nothing. -/
theorem MemoryAndFile.of_lock
    (goodEmpty : good (viewOf ∅))
    (holds : MemoryAndFile json sodium vaultPath passwords good state) :
    MemoryAndFile json sodium vaultPath passwords good
      (state.1.lock, state.2) :=
  ⟨holds.path, fun keySize => absurd keySize unsized, goodEmpty, holds.file⟩

/-- A new service on the path has nothing in memory. -/
theorem memoryAndFile_restart
    (goodEmpty : good (viewOf ∅))
    (file : ∀ content, files vaultPath = some content →
      ∃ salt vaultKey secrets,
        SealedIn json sodium content salt vaultKey secrets ∧
          KeyOf sodium passwords salt vaultKey ∧ good (viewOf secrets)) :
    MemoryAndFile json sodium vaultPath passwords good
      (onPath vaultPath, files) :=
  ⟨rfl, fun keySize => absurd keySize unsized, goodEmpty, file⟩

/-- A call that returns false leaves secrets that were there or none, and no
new key that could be saved with, unless it is the key of the password. -/
theorem MemoryAndFile.of_failed_unlock
    (roundTrips : json.RoundTrips)
    (goodEmpty : good (viewOf ∅))
    (holds : MemoryAndFile json sodium vaultPath passwords good
      (vault, files))
    {password : QString} (member : password ∈ passwords)
    {outcome : UnlockOutcome}
    (returned :
      (unlockWithPassword json sodium vault files password outcome).1 =
        false) :
    MemoryAndFile json sodium vaultPath passwords good
      (unlockWithPassword json sodium vault files password outcome).2 := by
  have sameFiles := files_of_failed_unlock roundTrips returned
  have failed := failedUnlock_of_returned returned
  generalize (unlockWithPassword json sodium vault files password
    outcome).2 = after at sameFiles failed ⊢
  obtain ⟨left, leftFiles⟩ := after
  dsimp only at sameFiles failed
  subst sameFiles
  cases failed with
  | unread => exact holds
  | unkeyed content _ _ _ keySize =>
      exact ⟨holds.path, fun sized => absurd sized keySize, holds.memory,
        holds.file⟩
  | refused content =>
      exact ⟨holds.path, fun sized => absurd sized unsized, goodEmpty,
        holds.file⟩
  | unsalted _ _ saltEmpty =>
      refine ⟨holds.path, fun _ saltSize => ?_, holds.memory, holds.file⟩
      dsimp only at saltSize
      rw [saltEmpty] at saltSize
      contradiction
  | unkeyedNew _ _ _ keySize =>
      exact ⟨holds.path, fun sized => absurd sized keySize, holds.memory,
        holds.file⟩
  | unsaved _ _ _ keySize =>
      exact ⟨holds.path,
        fun _ _ => ⟨password, member, (derivedKey_of_length keySize).symm⟩,
        holds.memory, holds.file⟩

/-- Unlocking keeps the property: what it reads from the file was sealed with
it, and what it creates a file for was in memory. -/
theorem MemoryAndFile.of_unlock
    (roundTrips : json.RoundTrips)
    (correct : sodium.AeadCorrect)
    (committing : Committing sodium passwords)
    (goodEmpty : good (viewOf ∅))
    (holds : MemoryAndFile json sodium vaultPath passwords good
      (vault, files))
    {password : QString} (member : password ∈ passwords)
    (outcome : UnlockOutcome) :
    MemoryAndFile json sodium vaultPath passwords good
      (unlockWithPassword json sodium vault files password outcome).2 := by
  cases returned :
      (unlockWithPassword json sodium vault files password outcome).1 with
  | false => exact holds.of_failed_unlock roundTrips goodEmpty member returned
  | true =>
      have samePath : vault.m_vaultPath = vaultPath := holds.path
      have keyed : ∀ salt,
          KeyOf sodium passwords salt (vaultKeyOf sodium password salt) :=
        fun _ => ⟨password, member, rfl⟩
      rcases unlockWithPassword_returned roundTrips returned with
        ⟨_, content, result, sealedIn⟩ |
          ⟨content, loaded, onDisk, opened, result⟩
      · rw [result]
        exact ⟨samePath, fun _ _ => keyed _, holds.memory,
          file_of_save samePath sealedIn (keyed _) holds.memory⟩
      · rw [result]
        refine ⟨samePath, fun _ _ => keyed _, ?_, holds.file⟩
        obtain ⟨salt, vaultKey, secrets, sealedIn, formerKey, goodSealed⟩ :=
          holds.file content (samePath ▸ onDisk)
        have read : viewOf loaded = viewOf secrets :=
          funext (sealedIn.lookup_opened correct committing formerKey member
            opened)
        exact read ▸ goodSealed

end Kept

end VaultService
end Crypto
end VoxDesktop
