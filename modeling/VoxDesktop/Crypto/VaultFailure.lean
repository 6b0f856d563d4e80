import VoxDesktop.Crypto.ReferenceSodium
import VoxDesktop.Crypto.VaultService
import VoxDesktop.Library.Machine
import VoxDesktop.Qt.ReferenceJson

/-!
# Failed saves

`storeSecret` and `removeSecret` change the secrets in memory before they save
and do not change them back when the save fails.  A call that returns false
has therefore left its trace in memory unless its arguments were refused or it
stored the value that was there already.  In runs whose failures are all of
this kind the vault file and the memory never disagree.
-/

namespace VoxDesktop
namespace Crypto
namespace VaultService

open Qt CryptoHelpers Library

/-- A call of one of the functions that change a service. -/
inductive VaultCall
  | unlock (password : QString) (outcome : UnlockOutcome)
  | lock
  | write (call : WriteCall)

def vaultStep
    (json : QJsonDocument) (sodium : Sodium)
    (state : VaultService × Files) :
    VaultCall → Bool × VaultService × Files
  | .unlock password outcome =>
      unlockWithPassword json sodium state.1 state.2 password outcome
  | .lock => (true, state.1.lock, state.2)
  | .write call => write json sodium state call

/-- The view of every name and all files are as before. -/
def Untouched (before after : VaultService × Files) : Prop :=
  (∀ name, loadSecret after.1 name = loadSecret before.1 name) ∧
    after.2 = before.2

/-- A call whose failure has no effect: refused arguments, or a value that is
stored already. -/
def WriteCall.Harmless (vault : VaultService) (call : WriteCall) : Prop :=
  call.Refused ∨
    match call with
    | store name value _ => vault.loadSecret name = some value
    | remove _ _ => False

/-- If this is a call that writes and fails, it is harmless. -/
def HarmlessFailure
    (json : QJsonDocument) (sodium : Sodium)
    (state : VaultService × Files) : VaultCall → Prop
  | .unlock _ _ => True
  | .lock => True
  | .write call =>
      (write json sodium state call).1 = false → call.Harmless state.1

/-- Memory and disk agree: without a vault file there are no secrets, and a
vault file opens under some key to the secrets in memory. -/
def MemoryMatchesDisk
    (json : QJsonDocument) (sodium : Sodium)
    (vault : VaultService) (files : Files) : Prop :=
  (files vault.m_vaultPath = none ∧
    ∀ name, vault.m_secrets.lookup name = none) ∨
  ∃ content vaultKey loaded,
    files vault.m_vaultPath = some content ∧
      openContent json sodium content vaultKey = some loaded ∧
      ∀ name, loaded.lookup name = vault.m_secrets.lookup name

variable {json : QJsonDocument} {sodium : Sodium}

/-- Only the path and the lookups in memory matter. -/
theorem MemoryMatchesDisk.congr
    {vault other : VaultService} {files : Files}
    (agrees : MemoryMatchesDisk json sodium vault files)
    (samePath : other.m_vaultPath = vault.m_vaultPath)
    (lookups : ∀ name,
      other.m_secrets.lookup name = vault.m_secrets.lookup name) :
    MemoryMatchesDisk json sodium other files := by
  unfold MemoryMatchesDisk at agrees ⊢
  simpa only [samePath, lookups] using agrees

theorem MemoryMatchesDisk.of_sealedIn
    {vault : VaultService} {content salt vaultKey : QByteArray}
    (files : Files)
    (correct : sodium.AeadCorrect)
    (holds :
      SealedIn json sodium content salt vaultKey vault.m_secrets) :
    MemoryMatchesDisk json sodium vault
      (Function.update files vault.m_vaultPath (some content)) := by
  obtain ⟨loaded, opens, lookups⟩ := openContent_of_sealedIn correct holds
  exact Or.inr ⟨content, vaultKey, loaded, Function.update_self .., opens,
    lookups⟩

/-! ## One call -/

/-- A failed change is invisible exactly when it was no change. -/
theorem apply_eq_self_iff
    {vault : VaultService} {call : WriteCall}
    (notIdle : ¬ call.Idle vault.m_secrets)
    (accepted : ¬ call.Refused)
    (unlocked : vault.m_unlocked = true) :
    WriteCall.apply vault.loadSecret call = vault.loadSecret ↔
      call.Harmless vault := by
  cases call with
  | store name value outcome =>
      rw [WriteCall.apply, Function.update_eq_self_iff]
      exact ⟨fun same => Or.inr same.symm,
        fun harmless => (harmless.resolve_left accepted).symm⟩
  | remove name outcome =>
      rw [WriteCall.apply, Function.update_eq_self_iff]
      refine iff_of_false ?_ fun harmless =>
        harmless.elim accepted id
      rw [loadSecret_of_unlocked unlocked accepted]
      intro absent
      exact notIdle (AList.lookup_eq_none.mp absent.symm)

/-- Storing what is stored already changes no lookup. -/
theorem lookup_change_of_harmless
    {vault : VaultService} {call : WriteCall}
    (accepted : ¬ call.Refused)
    (unlocked : vault.m_unlocked = true)
    (harmless : call.Harmless vault)
    (name : QString) :
    (call.change vault.m_secrets).lookup name =
      vault.m_secrets.lookup name := by
  have stored := harmless.resolve_left accepted
  cases call with
  | store changed value outcome =>
      by_cases same : name = changed
      · subst same
        have nameNonempty : name ≠ [] := WriteCall.name_ne_nil accepted
        have found := loadSecret_of_unlocked unlocked nameNonempty
        exact (AList.lookup_insert _).trans (stored.symm.trans found)
      · exact AList.lookup_insert_ne same
  | remove changed outcome => exact stored.elim

/-- A call that fails on an unlocked service leaves everything untouched if
and only if it is harmless. -/
theorem write_untouched_iff
    {state : VaultService × Files} {call : WriteCall}
    (roundTrips : json.RoundTrips)
    (unlocked : state.1.m_unlocked = true)
    (failed : (write json sodium state call).1 = false) :
    Untouched state (write json sodium state call).2 ↔
      call.Harmless state.1 := by
  obtain ⟨vault, files⟩ := state
  rcases write_cases sodium files roundTrips unlocked call with
    ⟨refused, result⟩ | ⟨accepted, ⟨_, result⟩ | ⟨notIdle, result |
      ⟨_, result, _⟩⟩⟩
  · rw [result]
    exact iff_of_true ⟨fun _ => rfl, rfl⟩ (Or.inl refused)
  · rw [result] at failed
    contradiction
  · rw [result, ← apply_eq_self_iff notIdle accepted unlocked,
      ← loadSecret_change unlocked (WriteCall.name_ne_nil accepted)]
    exact ⟨fun untouched => funext untouched.1,
      fun same => ⟨fun name => congrFun same name, rfl⟩⟩
  · rw [result] at failed
    contradiction

/-! ## Runs -/

/-- A locked service holds no secrets, and an unlocked one those on disk. -/
structure Agreeing
    (json : QJsonDocument) (sodium : Sodium)
    (state : VaultService × Files) : Prop where
  locked : state.1.m_unlocked = false → state.1.m_secrets = ∅
  unlocked : state.1.m_unlocked = true →
    MemoryMatchesDisk json sodium state.1 state.2

theorem unlock_agreeing
    {state : VaultService × Files}
    (roundTrips : json.RoundTrips)
    (correct : sodium.AeadCorrect)
    (agreeing : Agreeing json sodium state)
    (password : QString) (outcome : UnlockOutcome) :
    Agreeing json sodium
      (unlockWithPassword json sodium state.1 state.2 password
        outcome).2 := by
  obtain ⟨vault, files⟩ := state
  rcases unlockWithPassword_cases json sodium vault files password
      outcome with
    ⟨salt, vaultKey, result⟩ | ⟨absent, result⟩ |
      ⟨content, onDisk, _, ⟨_, result⟩ | ⟨loaded, opens, result⟩⟩
  · rw [result]
    exact ⟨agreeing.locked, fun unlocked =>
      (agreeing.unlocked unlocked).congr rfl fun _ => rfl⟩
  · -- No vault file: there were no secrets, locked or not.
    have empty : ∀ name, vault.m_secrets.lookup name = none := by
      cases lockState : vault.m_unlocked with
      | false =>
          intro name
          rw [agreeing.locked lockState]
          rfl
      | true =>
          rcases agreeing.unlocked lockState with
            ⟨_, empty⟩ | ⟨_, _, _, onDisk, _⟩
          · exact empty
          · exact absurd (absent.symm.trans onDisk) (by simp)
    rw [result]
    refine ⟨fun locked => by simp at locked, fun _ => ?_⟩
    rcases saveVault_cases sodium
        { vault with
          m_salt := outcome.salt
          m_vaultKey := vaultKeyOf sodium password outcome.salt
          m_unlocked := true }
        files roundTrips outcome.save with
      failed | ⟨content, written, _, _, holds⟩
    · rw [failed]
      exact Or.inl ⟨absent, empty⟩
    · rw [written]
      exact .of_sealedIn files correct holds
  · rw [result]
    exact ⟨fun _ => rfl, fun unlocked => by simp [lock] at unlocked⟩
  · rw [result]
    exact ⟨fun locked => by simp at locked, fun _ =>
      Or.inr ⟨content, _, loaded, onDisk, opens, fun _ => rfl⟩⟩

theorem write_agreeing
    {state : VaultService × Files} {call : WriteCall}
    (roundTrips : json.RoundTrips)
    (correct : sodium.AeadCorrect)
    (agreeing : Agreeing json sodium state)
    (harmless : HarmlessFailure json sodium state (.write call)) :
    Agreeing json sodium (write json sodium state call).2 := by
  obtain ⟨vault, files⟩ := state
  cases lockState : vault.m_unlocked with
  | false =>
      rw [write_of_locked lockState]
      exact agreeing
  | true =>
      have notLocked : ∀ secrets : SecretMap,
          ({ vault with m_secrets := secrets } : VaultService).m_unlocked =
              false →
            secrets = ∅ := by
        intro secrets locked
        exact absurd (lockState.symm.trans locked) (by simp)
      rcases write_cases sodium files roundTrips lockState call with
        ⟨_, result⟩ | ⟨accepted, ⟨_, result⟩ | ⟨notIdle, result |
          ⟨content, result, holds⟩⟩⟩
      · rw [result]
        exact agreeing
      · rw [result]
        exact agreeing
      · -- The save failed, so the value was there already.
        have stored : call.Harmless vault := harmless (by rw [result])
        rw [result]
        exact ⟨notLocked _, fun _ => (agreeing.unlocked lockState).congr rfl
          (lookup_change_of_harmless accepted lockState stored)⟩
      · rw [result]
        exact ⟨notLocked _, fun _ => .of_sealedIn files correct holds⟩

theorem vaultStep_agreeing
    (roundTrips : json.RoundTrips)
    (correct : sodium.AeadCorrect)
    (state : VaultService × Files) (call : VaultCall)
    (agreeing : Agreeing json sodium state)
    (harmless : HarmlessFailure json sodium state call) :
    Agreeing json sodium (vaultStep json sodium state call).2 := by
  cases call with
  | unlock password outcome =>
      exact unlock_agreeing roundTrips correct agreeing password outcome
  | lock =>
      refine ⟨fun _ => rfl, fun unlocked => ?_⟩
      simp [vaultStep, lock] at unlocked
  | write call => exact write_agreeing roundTrips correct agreeing harmless

/-- In every run on a vault path: a call that fails on the unlocked service
leaves view and files untouched if and only if it is harmless, and as long as
all failed calls were harmless, memory and disk agree. -/
theorem failed_write_untouched_iff
    (json : QJsonDocument)
    (sodium : Sodium)
    (vaultPath : QString)
    (files : Files)
    (calls : List VaultCall)
    (roundTrips : json.RoundTrips)
    (correct : sodium.AeadCorrect) :
    let start := (onPath vaultPath, files)
    let state := Machine.run (vaultStep json sodium) start calls
    state.1.m_unlocked = true →
      (∀ call, (write json sodium state call).1 = false →
        (Untouched state (write json sodium state call).2 ↔
          call.Harmless state.1)) ∧
      ((∀ harmless ∈ Machine.trace
          (fun current call =>
            (HarmlessFailure json sodium current call,
              (vaultStep json sodium current call).2)) start calls,
          harmless) →
        MemoryMatchesDisk json sodium state.1 state.2) := by
  intro start state unlocked
  refine ⟨fun call failed => write_untouched_iff roundTrips unlocked failed,
    fun allHarmless => ?_⟩
  have sameRun := Machine.run_congr (vaultStep json sodium)
    (fun current call =>
      (HarmlessFailure json sodium current call,
        (vaultStep json sodium current call).2))
    (fun _ _ => rfl) start calls
  have agreeingFirst : Agreeing json sodium start :=
    ⟨fun _ => rfl, fun unlocked => by simp [start, onPath] at unlocked⟩
  have agreeing := Machine.run_invariant_of_trace
    (Agreeing json sodium) id (vaultStep_agreeing roundTrips correct)
    agreeingFirst calls allHarmless
  rw [← sameRun] at agreeing
  exact agreeing.unlocked unlocked

/-- A service after one secret was stored, and a save that cannot commit. -/
theorem failed_write_untouched_iff_commit :
    let json := ReferenceJson.json
    let sodium := ReferenceSodium.sodium
    let working : SaveOutcome := ⟨List.replicate 24 7, true, true, true⟩
    let failing : SaveOutcome := ⟨List.replicate 24 7, true, true, false⟩
    let state := Machine.run (vaultStep json sodium)
      (onPath [118], fun _ => none)
      [.unlock [112] ⟨true, true, List.replicate 16 9, working⟩,
        .write (.store [97] [1] working)]
    Untouched state
        (write json sodium state (.store [97] [1] failing)).2 ↔
      (WriteCall.store [97] [1] failing).Harmless state.1 := by
  intro json sodium working failing state
  have exactCondition := failed_write_untouched_iff json sodium [118]
    (fun _ => none)
    [.unlock [112] ⟨true, true, List.replicate 16 9, working⟩,
      .write (.store [97] [1] working)]
    ReferenceJson.json_roundTrips ReferenceSodium.sodium_aeadCorrect
  have unlocked : state.1.m_unlocked = true := by decide +kernel
  exact (exactCondition unlocked).1 (.store [97] [1] failing)
    (by decide +kernel)

/-- The same save for a secret that is not there yet: the call returns false,
memory shows the secret and the file does not. -/
theorem failed_store_stays_in_memory :
    let json := ReferenceJson.json
    let sodium := ReferenceSodium.sodium
    let working : SaveOutcome := ⟨List.replicate 24 7, true, true, true⟩
    let failing : SaveOutcome := ⟨List.replicate 24 7, true, true, false⟩
    let state := Machine.run (vaultStep json sodium)
      (onPath [118], fun _ => none)
      [.unlock [112] ⟨true, true, List.replicate 16 9, working⟩]
    let result := write json sodium state (.store [97] [1] failing)
    state.1.m_unlocked = true ∧ result.1 = false ∧
      ¬ Untouched state result.2 ∧
      loadSecret result.2.1 [97] = some [1] ∧
      loadSecret (unlockWithPassword json sodium (onPath [118]) result.2.2
        [112] ⟨true, true, [], working⟩).2.1 [97] = none := by
  intro json sodium working failing state result
  have inMemory : loadSecret result.2.1 [97] = some [1] := by decide +kernel
  have notBefore : loadSecret state.1 [97] = none := by decide +kernel
  refine ⟨by decide +kernel, by decide +kernel, ?_, inMemory,
    by decide +kernel⟩
  rintro ⟨sameView, _⟩
  have same := sameView [97]
  rw [inMemory, notBefore] at same
  contradiction

end VaultService
end Crypto
end VoxDesktop
