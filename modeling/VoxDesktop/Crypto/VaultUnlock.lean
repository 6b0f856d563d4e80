import VoxDesktop.Crypto.ReferenceVault
import VoxDesktop.Crypto.VaultDurability
import VoxDesktop.Crypto.VaultFailure

/-!
# Unlocking that fails

`unlockWithPassword` assigns salt, key and lock flag one after another and
returns from many places in between.  `FailedUnlock` lists what each of them
leaves behind.  Only a vault file that refuses the key locks the service; a
key that cannot be derived leaves an unlocked service with another salt and no
key, and a new vault file that cannot be saved leaves a locked one unlocked.
-/

namespace VoxDesktop
namespace Crypto
namespace VaultService

open Qt CryptoHelpers Library

/-- How a service is left by a call that returns false, with what had to
happen. -/
inductive FailedUnlock
    (json : QJsonDocument) (sodium : Sodium) (vault : VaultService)
    (files : Files) (password : QString) (outcome : UnlockOutcome) :
    VaultService → Prop
  /-- There is no password, or the file cannot be read. -/
  | unread :
      password = [] ∨
        (files vault.m_vaultPath).isSome = true ∧ outcome.readable = false →
      FailedUnlock json sodium vault files password outcome vault
  /-- No key can be derived for the file. -/
  | unkeyed (content : QByteArray) :
      password ≠ [] → files vault.m_vaultPath = some content →
      outcome.readable = true →
      (derivedKey sodium password (saltOf json content) outcome).length ≠
        kChaCha20KeyBytes →
      FailedUnlock json sodium vault files password outcome
        { vault with
          m_salt := saltOf json content
          m_vaultKey :=
            derivedKey sodium password (saltOf json content) outcome }
  /-- The file refuses the key. -/
  | refused (content : QByteArray) :
      password ≠ [] → files vault.m_vaultPath = some content →
      outcome.readable = true →
      (derivedKey sodium password (saltOf json content) outcome).length =
        kChaCha20KeyBytes →
      FailedUnlock json sodium vault files password outcome
        (lock { vault with m_salt := saltOf json content })
  /-- There are no random bytes for the salt of a new file. -/
  | unsalted :
      password ≠ [] → files vault.m_vaultPath = none → outcome.salt = [] →
      FailedUnlock json sodium vault files password outcome
        { vault with m_salt := outcome.salt }
  /-- No key can be derived for a new file. -/
  | unkeyedNew :
      password ≠ [] → files vault.m_vaultPath = none → outcome.salt ≠ [] →
      (derivedKey sodium password outcome.salt outcome).length ≠
        kChaCha20KeyBytes →
      FailedUnlock json sodium vault files password outcome
        { vault with
          m_salt := outcome.salt
          m_vaultKey := derivedKey sodium password outcome.salt outcome }
  /-- A new file cannot be saved. -/
  | unsaved :
      password ≠ [] → files vault.m_vaultPath = none → outcome.salt ≠ [] →
      (derivedKey sodium password outcome.salt outcome).length =
        kChaCha20KeyBytes →
      FailedUnlock json sodium vault files password outcome
        { vault with
          m_salt := outcome.salt
          m_vaultKey := derivedKey sodium password outcome.salt outcome
          m_unlocked := true }

section Calls

variable {json : QJsonDocument} {sodium : Sodium} {vault : VaultService}
  {files : Files} {password : QString} {outcome : UnlockOutcome}

theorem failedUnlock_of_returned
    (returned :
      (unlockWithPassword json sodium vault files password outcome).1 =
        false) :
    FailedUnlock json sodium vault files password outcome
      (unlockWithPassword json sodium vault files password outcome).2.1 := by
  unfold unlockWithPassword at returned ⊢
  by_cases passwordEmpty : password = []
  · rw [if_pos passwordEmpty]
    exact .unread (Or.inl passwordEmpty)
  rw [if_neg passwordEmpty] at returned ⊢
  cases onDisk : files vault.m_vaultPath with
  | some content =>
      rw [onDisk, Option.isSome_some, if_pos rfl] at returned
      rw [Option.isSome_some, if_pos rfl]
      dsimp only at returned ⊢
      cases readable : outcome.readable with
      | false =>
          have loading :
              loadExistingVault json sodium vault files password outcome =
                (false, vault) := by
            simp [loadExistingVault, readable]
          rw [loading]
          exact .unread (Or.inr ⟨by rw [onDisk]; rfl, readable⟩)
      | true =>
          rw [loadExistingVault_readable onDisk readable] at returned ⊢
          dsimp only at returned ⊢
          by_cases keySize :
              (derivedKey sodium password (saltOf json content)
                outcome).length ≠ kChaCha20KeyBytes
          · rw [if_pos keySize]
            exact .unkeyed content passwordEmpty onDisk readable keySize
          · rw [if_neg keySize] at returned ⊢
            cases opened : openContent json sodium content
                (derivedKey sodium password (saltOf json content) outcome) with
            | none =>
                exact .refused content passwordEmpty onDisk readable
                  (not_not.mp keySize)
            | some loaded =>
                rw [opened] at returned
                contradiction
  | none =>
      rw [Option.isSome_none, if_neg Bool.false_ne_true]
      by_cases saltEmpty : outcome.salt = []
      · rw [if_pos saltEmpty]
        exact .unsalted passwordEmpty onDisk saltEmpty
      rw [if_neg saltEmpty]
      dsimp only
      by_cases keySize :
          (derivedKey sodium password outcome.salt outcome).length ≠
            kChaCha20KeyBytes
      · rw [if_pos keySize]
        exact .unkeyedNew passwordEmpty onDisk saltEmpty keySize
      · rw [if_neg keySize]
        exact .unsaved passwordEmpty onDisk saltEmpty (not_not.mp keySize)

theorem unlocked_of_returned
    (returned :
      (unlockWithPassword json sodium vault files password outcome).1 =
        true) :
    (unlockWithPassword json sodium vault files password
      outcome).2.1.m_unlocked = true := by
  rcases unlockWithPassword_cases json sodium vault files password
      outcome with
    ⟨_, _, result⟩ | ⟨_, result⟩ |
      ⟨content, _, _, ⟨_, result⟩ | ⟨loaded, _, result⟩⟩
  · rw [result] at returned
    contradiction
  · rw [result]
  · rw [result] at returned
    contradiction
  · rw [result]

/-- A key that does not have its size is empty. -/
theorem vaultKeyOf_eq_nil
    {salt : QByteArray}
    (keySize :
      (vaultKeyOf sodium password salt).length ≠ kChaCha20KeyBytes) :
    vaultKeyOf sodium password salt = [] := by
  unfold vaultKeyOf argon2idKdf at keySize ⊢
  split
  · rfl
  · rename_i checks
    rw [if_neg checks] at keySize
    cases derived : sodium.pwhash kChaCha20KeyBytes (toUtf8 password) salt
        kVaultOpsLimit kVaultMemLimit with
    | none => rfl
    | some vaultKey =>
        rw [derived] at keySize
        exact absurd vaultKey.toList_length keySize

theorem derivedKey_eq_nil
    {salt : QByteArray}
    (keySize :
      (derivedKey sodium password salt outcome).length ≠ kChaCha20KeyBytes) :
    derivedKey sodium password salt outcome = [] := by
  rw [derivedKey] at keySize ⊢
  split
  · rename_i derived
    rw [if_pos derived] at keySize
    exact vaultKeyOf_eq_nil keySize
  · rfl

end Calls

/-! ## Services that are locked -/

/-- A locked service has neither key nor secrets. -/
def LockedEmpty (vault : VaultService) : Prop :=
  vault.m_unlocked = false → vault.m_vaultKey = [] ∧ vault.m_secrets = ∅

/-- One call of a run, where the files may have changed since the last. -/
def stepOn
    (json : QJsonDocument) (sodium : Sodium) (vault : VaultService)
    (event : VaultCall × Files) : Bool × VaultService :=
  let result := vaultStep json sodium (vault, event.2) event.1
  (result.1, result.2.1)

section Runs

variable {json : QJsonDocument} {sodium : Sodium}

theorem unlocked_write
    (state : VaultService × Files) (call : WriteCall) :
    (write json sodium state call).2.1.m_unlocked = state.1.m_unlocked := by
  cases call with
  | store name value outcome =>
      rw [write, storeSecret]
      split <;> rfl
  | remove name outcome =>
      rw [write, removeSecret]
      split
      · rfl
      · split <;> rfl

theorem stepOn_lockedEmpty
    (vault : VaultService) (event : VaultCall × Files)
    (empty : LockedEmpty vault) :
    LockedEmpty (stepOn json sodium vault event).2 := by
  obtain ⟨call, files⟩ := event
  cases call with
  | unlock password outcome =>
      change LockedEmpty
        (unlockWithPassword json sodium vault files password outcome).2.1
      cases returned :
          (unlockWithPassword json sodium vault files password
            outcome).1 with
      | true =>
          intro locked
          rw [unlocked_of_returned returned] at locked
          contradiction
      | false =>
          have failed := failedUnlock_of_returned returned
          generalize (unlockWithPassword json sodium vault files password
            outcome).2.1 = after at failed ⊢
          cases failed with
          | unread => exact empty
          | unkeyed content _ _ _ keySize =>
              exact fun locked =>
                ⟨derivedKey_eq_nil keySize, (empty locked).2⟩
          | refused => exact fun _ => ⟨rfl, rfl⟩
          | unsalted => exact empty
          | unkeyedNew _ _ _ keySize =>
              exact fun locked =>
                ⟨derivedKey_eq_nil keySize, (empty locked).2⟩
          | unsaved => exact fun locked => absurd locked (by simp)
  | lock => exact fun _ => ⟨rfl, rfl⟩
  | write call =>
      intro locked
      have lockedBefore : vault.m_unlocked = false :=
        (unlocked_write (vault, files) call).symm.trans locked
      change (write json sodium (vault, files) call).2.1.m_vaultKey = [] ∧ _
      rw [stepOn, vaultStep]
      dsimp only
      rw [write_of_locked lockedBefore]
      exact empty lockedBefore

end Runs

/-! ## What a failed call may leave -/

/-- The service is locked with nothing in memory, or it is as it was. -/
def LeavesClean (before after : VaultService) : Prop :=
  after.m_unlocked = false ∧ after.m_vaultKey = [] ∧ after.m_secrets = ∅ ∨
    after.m_vaultKey = before.m_vaultKey ∧ after.m_salt = before.m_salt ∧
      after.m_secrets = before.m_secrets ∧
      after.m_unlocked = before.m_unlocked

/-- The salt a call takes: that of the vault file, or random bytes for a new
one; nothing if the call returns before. -/
def saltTaken
    (json : QJsonDocument) (vault : VaultService) (files : Files)
    (password : QString) (outcome : UnlockOutcome) : Option QByteArray :=
  if password = [] then none
  else
    match files vault.m_vaultPath with
    | some content =>
        if outcome.readable then some (saltOf json content) else none
    | none => some outcome.salt

/-- The call takes no salt; or the service is locked and no new vault file is
to be saved; or it is unlocked and has a vault file from which a key is
derived, or the very salt and key that the call assigns. -/
def FailsCleanly
    (json : QJsonDocument) (sodium : Sodium) (vault : VaultService)
    (files : Files) (password : QString) (outcome : UnlockOutcome) : Prop :=
  ∀ salt, saltTaken json vault files password outcome = some salt →
    let vaultKey := derivedKey sodium password salt outcome
    let derived := vaultKey.length = kChaCha20KeyBytes
    let created := files vault.m_vaultPath = none
    (vault.m_unlocked = false ∧ ¬(created ∧ derived)) ∨
      (vault.m_unlocked = true ∧
        (¬created ∧ derived ∨
          vault.m_salt = salt ∧
            (vault.m_vaultKey = vaultKey ∨ created ∧ salt = [])))

section Condition

variable {json : QJsonDocument} {sodium : Sodium} {vault : VaultService}
  {files : Files} {password : QString} {outcome : UnlockOutcome}

theorem failsCleanly_of_none
    (taken : saltTaken json vault files password outcome = none) :
    FailsCleanly json sodium vault files password outcome := by
  intro salt takenSome
  rw [taken] at takenSome
  contradiction

theorem failsCleanly_iff
    {salt : QByteArray}
    (taken : saltTaken json vault files password outcome = some salt) :
    FailsCleanly json sodium vault files password outcome ↔
      (vault.m_unlocked = false ∧
        ¬(files vault.m_vaultPath = none ∧
          (derivedKey sodium password salt outcome).length =
            kChaCha20KeyBytes)) ∨
        (vault.m_unlocked = true ∧
          (¬files vault.m_vaultPath = none ∧
              (derivedKey sodium password salt outcome).length =
                kChaCha20KeyBytes ∨
            vault.m_salt = salt ∧
              (vault.m_vaultKey = derivedKey sodium password salt outcome ∨
                files vault.m_vaultPath = none ∧ salt = []))) := by
  unfold FailsCleanly
  rw [taken]
  simp only [Option.some.injEq, forall_eq']

theorem saltTaken_of_onDisk
    {content : QByteArray}
    (passwordNonempty : password ≠ [])
    (onDisk : files vault.m_vaultPath = some content)
    (readable : outcome.readable = true) :
    saltTaken json vault files password outcome =
      some (saltOf json content) := by
  rw [saltTaken, if_neg passwordNonempty, onDisk]
  exact if_pos readable

theorem saltTaken_of_absent
    (passwordNonempty : password ≠ [])
    (absent : files vault.m_vaultPath = none) :
    saltTaken json vault files password outcome = some outcome.salt := by
  rw [saltTaken, if_neg passwordNonempty, absent]

/-- Of a service that keeps its secrets and its lock flag, only a locked one
or one that keeps salt and key as well is left clean. -/
theorem leavesClean_rekeyed_iff
    {salt vaultKey : QByteArray}
    (empty : LockedEmpty vault)
    (keyEmpty : vault.m_unlocked = false → vaultKey = []) :
    LeavesClean vault
        { vault with m_salt := salt, m_vaultKey := vaultKey } ↔
      vault.m_unlocked = false ∨
        vaultKey = vault.m_vaultKey ∧ salt = vault.m_salt := by
  constructor
  · rintro (⟨locked, _⟩ | ⟨sameKey, sameSalt, _⟩)
    · exact Or.inl locked
    · exact Or.inr ⟨sameKey, sameSalt⟩
  · rintro (locked | ⟨sameKey, sameSalt⟩)
    · exact Or.inl ⟨locked, keyEmpty locked, (empty locked).2⟩
    · exact Or.inr ⟨sameKey, sameSalt, rfl, rfl⟩

/-- What a failed call leaves is clean exactly under the condition. -/
theorem leavesClean_iff
    {after : VaultService}
    (empty : LockedEmpty vault)
    (failed :
      FailedUnlock json sodium vault files password outcome after) :
    LeavesClean vault after ↔
      FailsCleanly json sodium vault files password outcome := by
  cases failed with
  | unread reason =>
      refine iff_of_true (Or.inr ⟨rfl, rfl, rfl, rfl⟩)
        (failsCleanly_of_none ?_)
      unfold saltTaken
      rcases reason with passwordEmpty | ⟨present, unreadable⟩
      · exact if_pos passwordEmpty
      · obtain ⟨content, onDisk⟩ := Option.isSome_iff_exists.mp present
        simp [onDisk, unreadable]
  | unkeyed content passwordNonempty onDisk readable keySize =>
      rw [failsCleanly_iff
          (saltTaken_of_onDisk passwordNonempty onDisk readable),
        leavesClean_rekeyed_iff empty fun _ => derivedKey_eq_nil keySize]
      cases vault.m_unlocked <;>
        simp [onDisk, keySize, and_comm, @eq_comm QByteArray _ vault.m_salt,
          @eq_comm QByteArray vault.m_vaultKey]
  | refused content passwordNonempty onDisk readable keySize =>
      rw [failsCleanly_iff
        (saltTaken_of_onDisk passwordNonempty onDisk readable)]
      refine iff_of_true (Or.inl ⟨rfl, rfl, rfl⟩) ?_
      cases vault.m_unlocked <;> simp [onDisk, keySize]
  | unsalted passwordNonempty absent saltEmpty =>
      have unkeyed :
          (derivedKey sodium password outcome.salt outcome).length ≠
            kChaCha20KeyBytes := by
        intro keySize
        rw [derivedKey_of_length keySize] at keySize
        have saltSize := length_salt_of_vaultKeyOf keySize
        rw [saltEmpty] at saltSize
        contradiction
      rw [failsCleanly_iff (saltTaken_of_absent passwordNonempty absent)]
      refine (leavesClean_rekeyed_iff empty
        fun locked => (empty locked).1).trans ?_
      rw [saltEmpty] at unkeyed ⊢
      cases vault.m_unlocked <;> simp [absent, unkeyed, eq_comm]
  | unkeyedNew passwordNonempty absent saltNonempty keySize =>
      rw [failsCleanly_iff (saltTaken_of_absent passwordNonempty absent),
        leavesClean_rekeyed_iff empty fun _ => derivedKey_eq_nil keySize]
      cases vault.m_unlocked <;>
        simp [absent, keySize, saltNonempty, and_comm,
          @eq_comm QByteArray _ vault.m_salt,
          @eq_comm QByteArray vault.m_vaultKey]
  | unsaved passwordNonempty absent saltNonempty keySize =>
      rw [failsCleanly_iff (saltTaken_of_absent passwordNonempty absent)]
      constructor
      · rintro (⟨locked, _⟩ | ⟨sameKey, sameSalt, _, lockState⟩)
        · contradiction
        · exact Or.inr
            ⟨lockState.symm, Or.inr ⟨sameSalt.symm, Or.inl sameKey.symm⟩⟩
      · rintro (⟨_, notCreated⟩ | ⟨lockState, ⟨present, _⟩ |
          ⟨sameSalt, sameKey | ⟨_, saltEmpty⟩⟩⟩)
        · exact absurd ⟨absent, keySize⟩ notCreated
        · exact absurd absent present
        · exact Or.inr ⟨sameKey.symm, sameSalt.symm, rfl, lockState.symm⟩
        · exact absurd saltEmpty saltNonempty

end Condition

/-- A call that returns false, on a service reached by any calls over any
contents of the vault file, leaves the service locked and empty or as it was
if and only if it fails cleanly. -/
theorem failed_unlock_leaves_clean_iff
    (json : QJsonDocument)
    (sodium : Sodium)
    (vaultPath : QString)
    (events : List (VaultCall × Files))
    (files : Files)
    (password : QString)
    (outcome : UnlockOutcome)
    (returned :
      (unlockWithPassword json sodium
        (Machine.run (stepOn json sodium) (onPath vaultPath) events) files
        password outcome).1 = false) :
    let vault := Machine.run (stepOn json sodium) (onPath vaultPath) events
    LeavesClean vault
        (unlockWithPassword json sodium vault files password
          outcome).2.1 ↔
      FailsCleanly json sodium vault files password outcome := by
  intro vault
  have empty : LockedEmpty vault :=
    Machine.run_invariant LockedEmpty stepOn_lockedEmpty
      (fun _ => ⟨rfl, rfl⟩) events
  exact leavesClean_iff empty (failedUnlock_of_returned returned)

section Examples

/-- A wrong password leaves a new service locked and empty. -/
theorem failed_unlock_leaves_clean_wrong_password :
    let vault := onPath ReferenceVault.vaultPath
    let unlocking := unlockWithPassword ReferenceJson.json
      ReferenceSodium.sodium vault ReferenceVault.start.2
      (QString.literal "another-password") ReferenceVault.outcome
    LeavesClean vault unlocking.2.1 := by
  intro vault unlocking
  have present :
      (ReferenceVault.start.2 vault.m_vaultPath).isSome = true := by
    decide +kernel
  refine (failed_unlock_leaves_clean_iff ReferenceJson.json
    ReferenceSodium.sodium ReferenceVault.vaultPath []
    ReferenceVault.start.2 (QString.literal "another-password")
    ReferenceVault.outcome (by decide +kernel)).mpr ?_
  intro salt _
  refine Or.inl ⟨rfl, fun created => ?_⟩
  have absent : ReferenceVault.start.2 vault.m_vaultPath = none := created.1
  rw [absent] at present
  contradiction

/-- A new vault file that cannot be committed: the call returns false and the
service, which was locked, is unlocked. -/
theorem failed_unlock_leaves_unlocked :
    let vault := onPath ReferenceVault.vaultPath
    let unlocking := unlockWithPassword ReferenceJson.json
      ReferenceSodium.sodium vault (fun _ => none) ReferenceVault.password
      { ReferenceVault.outcome with save := ReferenceVault.failedSave }
    vault.m_unlocked = false ∧ unlocking.1 = false ∧
      unlocking.2.1.m_unlocked = true ∧
      ¬LeavesClean vault unlocking.2.1 := by
  intro vault unlocking
  have unlocked : unlocking.2.1.m_unlocked = true := by decide +kernel
  refine ⟨rfl, by decide +kernel, unlocked, ?_⟩
  rintro (⟨locked, _⟩ | ⟨_, _, _, same⟩)
  · rw [unlocked] at locked
    contradiction
  · rw [unlocked] at same
    contradiction

end Examples

end VaultService
end Crypto
end VoxDesktop
