import Mathlib.Data.List.Induction
import VoxDesktop.Crypto.ReferenceSodium
import VoxDesktop.Crypto.SenderKeyManager
import VoxDesktop.Library.LamportClock

/-!
# Epochs along runs

Runs of `SenderKeyManager` over any conversations.  Without the width of its
integers the epoch of a conversation is a clock that ticks at each rotation
and witnesses each imported epoch; the manager follows this clock until it
has to tick past the largest integer.
-/

namespace VoxDesktop
namespace Crypto

open Library Qt SenderKeyManager

inductive EpochCall
  | rotateEpoch (conversationId : QString)
      (drawn : List.Vector UInt8 kChaCha20KeyBytes)
  | importEpochKey (conversationId : QString) (epoch : Int32)
      (key : QByteArray)

namespace EpochCall

def conversationId : EpochCall → QString
  | rotateEpoch conversationId _ => conversationId
  | importEpochKey conversationId _ _ => conversationId

/-- What a call is for the clock of a conversation. -/
def clockEvent (conversationId : QString) :
    EpochCall → Option LamportClock.Event
  | rotateEpoch other _ =>
      if conversationId = other then some .tick else none
  | importEpochKey other epoch key =>
      if conversationId = other ∧ Importable epoch key then
        some (.witness epoch.toInt.toNat)
      else none

end EpochCall

/-- What a call returns, and the manager after it. -/
def epochStep (sodium : Sodium) (manager : SenderKeyManager) :
    EpochCall → (QByteArray ⊕ Bool) × SenderKeyManager
  | .rotateEpoch conversationId drawn =>
      let rotated := rotateEpoch sodium manager conversationId drawn
      (.inl rotated.1, rotated.2)
  | .importEpochKey conversationId epoch key =>
      let imported := importEpochKey manager conversationId epoch key
      (.inr imported.1, imported.2)

/-- The largest epoch. -/
def maxEpoch : ℕ := 2 ^ 31 - 1

/-! ## The properties -/

/-- Every stored epoch has been entered, and an epoch that has been entered
has its key. -/
structure KeysKept (manager : SenderKeyManager) : Prop where
  stored : ∀ conversationId epoch,
    manager.keyForEpoch conversationId epoch ≠ none →
      1 ≤ epoch ∧ epoch ≤ manager.currentEpoch conversationId
  current : ∀ conversationId, manager.currentEpoch conversationId ≠ 0 →
    ∃ key,
      manager.keyForEpoch conversationId
          (manager.currentEpoch conversationId) = some key ∧
        key.length = kChaCha20KeyBytes

/-- The increment a call makes, if any, does not overflow. -/
def NoOverflow (manager : SenderKeyManager) : EpochCall → Prop
  | .rotateEpoch conversationId _ =>
      (manager.currentEpoch conversationId).toInt + 1 ≤ maxEpoch
  | .importEpochKey _ _ _ => True

/-- A call takes no epoch back, overflows nothing and touches no other
conversation. -/
structure EpochsKept
    (sodium : Sodium) (manager : SenderKeyManager) (call : EpochCall) :
    Prop where
  noOverflow : NoOverflow manager call
  monotone : ∀ conversationId,
    manager.currentEpoch conversationId ≤
      (epochStep sodium manager call).2.currentEpoch conversationId
  frame : ∀ other, other ≠ call.conversationId →
    (epochStep sodium manager call).2.currentEpoch other =
        manager.currentEpoch other ∧
      ∀ epoch, (epochStep sodium manager call).2.keyForEpoch other epoch =
        manager.keyForEpoch other epoch

/-- In no conversation do the rotations, or those after an imported epoch,
go past the largest epoch. -/
def RotationsFit (calls : List EpochCall) : Prop :=
  ∀ conversationId,
    LamportClock.ticks (EpochCall.clockEvent conversationId) calls ≤
        maxEpoch ∧
      ∀ earlier epoch key later,
        calls = earlier ++ .importEpochKey conversationId epoch key :: later →
          Importable epoch key →
            epoch.toInt.toNat +
                LamportClock.ticks (EpochCall.clockEvent conversationId)
                  later ≤
              maxEpoch

/-! ## The clock of a conversation -/

/-- What the clock of a conversation reads after a list of calls. -/
def epochClock (conversationId : QString) (calls : List EpochCall) : ℕ :=
  LamportClock.read (EpochCall.clockEvent conversationId) 0 calls

theorem clockEvent_eq_witness
    {conversationId : QString} {call : EpochCall} {time : ℕ} :
    call.clockEvent conversationId = some (.witness time) ↔
      ∃ epoch key, call = .importEpochKey conversationId epoch key ∧
        Importable epoch key ∧ epoch.toInt.toNat = time := by
  cases call with
  | rotateEpoch other drawn => simp [EpochCall.clockEvent]
  | importEpochKey other epoch key =>
      simp only [EpochCall.clockEvent, Option.ite_none_right_eq_some,
        Option.some.injEq, LamportClock.Event.witness.injEq,
        EpochCall.importEpochKey.injEq]
      constructor
      · rintro ⟨⟨rfl, importable⟩, rfl⟩
        exact ⟨epoch, key, ⟨rfl, rfl, rfl⟩, importable, rfl⟩
      · rintro ⟨_, _, ⟨rfl, rfl, rfl⟩, importable, rfl⟩
        exact ⟨⟨rfl, importable⟩, rfl⟩

/-- The rotations fit exactly when no clock passes the largest epoch. -/
theorem rotationsFit_iff (calls : List EpochCall) :
    RotationsFit calls ↔
      ∀ conversationId, epochClock conversationId calls ≤ maxEpoch := by
  refine forall_congr' fun conversationId => ?_
  rw [epochClock, LamportClock.read_le_iff, Nat.zero_add]
  refine and_congr_right fun _ => ?_
  constructor
  · rintro fits earlier call later split time witnessed
    obtain ⟨epoch, key, rfl, importable, rfl⟩ :=
      clockEvent_eq_witness.mp witnessed
    exact fits earlier epoch key later split importable
  · intro fits earlier epoch key later split importable
    exact fits earlier _ later split _
      (clockEvent_eq_witness.mpr ⟨epoch, key, rfl, importable, rfl⟩)

section Steps

variable {sodium : Sodium} {manager : SenderKeyManager}

/-- The increment of an epoch below the largest one. -/
theorem toInt_add_one {epoch : Int32} (below : epoch.toInt + 1 ≤ maxEpoch) :
    (epoch + 1).toInt = epoch.toInt + 1 := by
  have lower := epoch.le_toInt
  have upper : epoch.toInt + 1 ≤ 2 ^ 31 - 1 := below
  rw [Int32.toInt_add, Int32.toInt_one]
  exact Int.bmod_eq_of_le (by omega) (by omega)

theorem toInt_max (first second : Int32) :
    (max first second).toInt = max first.toInt second.toInt := by
  have chosen :
      max first second = if first ≤ second then second else first := rfl
  by_cases ordered : first ≤ second
  · rw [chosen, if_pos ordered, Int.max_eq_right]
    exact Int32.le_iff_toInt_le.mp ordered
  · rw [chosen, if_neg ordered, Int.max_eq_left]
    exact Int.le_of_not_le fun reversed =>
      ordered (Int32.le_iff_toInt_le.mpr reversed)

/-- The manager follows the clock of a conversation while nothing
overflows. -/
theorem currentEpoch_epochStep
    {call : EpochCall} (noOverflow : NoOverflow manager call)
    {conversationId : QString} {time : ℕ}
    (follows : (manager.currentEpoch conversationId).toInt = time) :
    ((epochStep sodium manager call).2.currentEpoch conversationId).toInt =
      LamportClock.advance time (call.clockEvent conversationId) := by
  cases call with
  | rotateEpoch other drawn =>
      simp only [epochStep, currentEpoch_rotateEpoch, EpochCall.clockEvent]
      split
      · rename_i same
        subst same
        rw [toInt_add_one noOverflow, follows]
        rfl
      · exact follows
  | importEpochKey other epoch key =>
      simp only [epochStep, EpochCall.clockEvent]
      by_cases importable : Importable epoch key
      · rw [currentEpoch_importEpochKey manager other conversationId
          importable]
        have positive := Int32.lt_iff_toInt_lt.mp importable.1
        rw [Int32.toInt_zero] at positive
        by_cases same : conversationId = other
        · subst same
          rw [if_pos rfl, if_pos ⟨rfl, importable⟩, toInt_max, follows,
            LamportClock.advance]
          omega
        · rw [if_neg same, if_neg (fun both => same both.1)]
          exact follows
      · rw [importEpochKey_of_not_importable manager other importable,
          if_neg (fun both => importable both.2)]
        exact follows

theorem KeysKept.nonnegative
    (kept : KeysKept manager) (conversationId : QString) :
    0 ≤ (manager.currentEpoch conversationId).toInt := by
  by_cases entered : manager.currentEpoch conversationId = 0
  · rw [entered]
    exact Int.le_refl 0
  · obtain ⟨key, stored, _⟩ := kept.current conversationId entered
    have positive := (kept.stored conversationId _ (by rw [stored]; simp)).1
    rw [Int32.le_iff_toInt_le, Int32.toInt_one] at positive
    omega

/-- A manager comes from an earlier one by entering an epoch of a conversation
and storing a key at an epoch that has been reached. -/
structure Enters
    (manager next : SenderKeyManager) (conversationId : QString)
    (entered stored : Int32) (key : QByteArray) : Prop where
  currentEpoch : ∀ other,
    next.currentEpoch other =
      if other = conversationId then entered else manager.currentEpoch other
  keyForEpoch : ∀ other wanted,
    next.keyForEpoch other wanted =
      if other = conversationId ∧ wanted = stored then some key
      else manager.keyForEpoch other wanted
  ahead : manager.currentEpoch conversationId ≤ entered
  positive : 1 ≤ stored
  within : stored ≤ entered
  reached : entered = stored ∨ entered = manager.currentEpoch conversationId

section Enters

variable {next : SenderKeyManager} {conversationId : QString}
  {entered stored : Int32} {key : QByteArray}
  (enters : Enters manager next conversationId entered stored key)

include enters

theorem Enters.monotone (other : QString) :
    manager.currentEpoch other ≤ next.currentEpoch other := by
  rw [enters.currentEpoch]
  split
  · rename_i same
    rw [same]
    exact enters.ahead
  · exact Int32.le_refl _

theorem Enters.frame {other : QString} (differs : other ≠ conversationId) :
    next.currentEpoch other = manager.currentEpoch other ∧
      ∀ epoch, next.keyForEpoch other epoch =
        manager.keyForEpoch other epoch := by
  constructor
  · rw [enters.currentEpoch, if_neg differs]
  · intro epoch
    rw [enters.keyForEpoch, if_neg fun both => differs both.1]

theorem Enters.keysKept
    (kept : KeysKept manager) (size : key.length = kChaCha20KeyBytes) :
    KeysKept next := by
  constructor
  · intro other epoch found
    rw [enters.keyForEpoch] at found
    split at found
    · rename_i here
      obtain ⟨rfl, rfl⟩ := here
      rw [enters.currentEpoch, if_pos rfl]
      exact ⟨enters.positive, enters.within⟩
    · obtain ⟨positive, passed⟩ := kept.stored other epoch found
      exact ⟨positive, Int32.le_trans passed (enters.monotone other)⟩
  · intro other begun
    rw [enters.currentEpoch] at begun ⊢
    rw [enters.keyForEpoch]
    by_cases same : other = conversationId
    · rw [if_pos same] at begun ⊢
      by_cases fresh : entered = stored
      · rw [if_pos ⟨same, fresh⟩]
        exact ⟨key, rfl, size⟩
      · -- The conversation stays in its epoch.
        have stays := enters.reached.resolve_left fresh
        rw [if_neg fun both => fresh both.2, same, stays]
        rw [stays] at begun
        exact kept.current conversationId begun
    · rw [if_neg same] at begun ⊢
      rw [if_neg fun both => same both.1]
      exact kept.current other begun

end Enters

/-- A rotation enters the next epoch of its conversation with a fresh key. -/
theorem rotateEpoch_kept
    (initialized : sodium.initialized = true)
    (kept : KeysKept manager) {conversationId : QString}
    (drawn : List.Vector UInt8 kChaCha20KeyBytes)
    (below : (manager.currentEpoch conversationId).toInt + 1 ≤ maxEpoch) :
    EpochsKept sodium manager (.rotateEpoch conversationId drawn) ∧
      KeysKept (rotateEpoch sodium manager conversationId drawn).2 := by
  have next := toInt_add_one below
  have nonnegative := kept.nonnegative conversationId
  have enters :
      Enters manager (rotateEpoch sodium manager conversationId drawn).2
        conversationId (manager.currentEpoch conversationId + 1)
        (manager.currentEpoch conversationId + 1)
        (rotateEpoch sodium manager conversationId drawn).1 := {
    currentEpoch := fun _ => currentEpoch_rotateEpoch ..
    keyForEpoch := fun _ _ => keyForEpoch_rotateEpoch ..
    ahead := by
      rw [Int32.le_iff_toInt_le, next]
      omega
    positive := by
      rw [Int32.le_iff_toInt_le, next, Int32.toInt_one]
      omega
    within := Int32.le_refl _
    reached := Or.inl rfl }
  exact ⟨⟨below, enters.monotone, fun _ => enters.frame⟩,
    enters.keysKept kept
      (length_rotateEpoch manager conversationId drawn initialized)⟩

/-- An imported key is stored at its epoch, which is entered if it is
ahead. -/
theorem importEpochKey_kept
    (kept : KeysKept manager) (conversationId : QString)
    {epoch : Int32} {key : QByteArray} (importable : Importable epoch key) :
    EpochsKept sodium manager (.importEpochKey conversationId epoch key) ∧
      KeysKept (importEpochKey manager conversationId epoch key).2 := by
  have positive := Int32.lt_iff_toInt_lt.mp importable.1
  rw [Int32.toInt_zero] at positive
  have enters :
      Enters manager (importEpochKey manager conversationId epoch key).2
        conversationId (max (manager.currentEpoch conversationId) epoch) epoch
        key := {
    currentEpoch := fun other =>
      currentEpoch_importEpochKey manager conversationId other importable
    keyForEpoch := fun other wanted =>
      keyForEpoch_importEpochKey manager conversationId other wanted
        importable
    ahead := by
      rw [Int32.le_iff_toInt_le, toInt_max]
      omega
    positive := by
      rw [Int32.le_iff_toInt_le, Int32.toInt_one]
      omega
    within := by
      rw [Int32.le_iff_toInt_le, toInt_max]
      omega
    reached := by
      rw [← Int32.toInt_inj, ← Int32.toInt_inj, toInt_max]
      omega }
  exact ⟨⟨trivial, enters.monotone, fun _ => enters.frame⟩,
    enters.keysKept kept importable.2⟩

/-- A call that does not overflow keeps epochs and keys. -/
theorem epochStep_kept
    (initialized : sodium.initialized = true)
    (kept : KeysKept manager)
    {call : EpochCall} (noOverflow : NoOverflow manager call) :
    EpochsKept sodium manager call ∧
      KeysKept (epochStep sodium manager call).2 := by
  cases call with
  | rotateEpoch conversationId drawn =>
      exact rotateEpoch_kept initialized kept drawn noOverflow
  | importEpochKey conversationId epoch key =>
      by_cases importable : Importable epoch key
      · exact importEpochKey_kept kept conversationId importable
      · have unchanged :
            (epochStep sodium manager
              (.importEpochKey conversationId epoch key)).2 = manager := by
          rw [epochStep, importEpochKey_of_not_importable manager
            conversationId importable]
        refine ⟨⟨trivial, ?_, ?_⟩, ?_⟩
        · intro other
          rw [unchanged]
          exact Int32.le_refl _
        · intro other _
          rw [unchanged]
          exact ⟨rfl, fun _ => rfl⟩
        · rwa [unchanged]

end Steps

/-! ## Runs -/

section Runs

variable {sodium : Sodium}

/-- A manager without conversations has nothing stored. -/
theorem keysKept_empty : KeysKept {} where
  stored _ _ stored := absurd rfl stored
  current _ entered := absurd rfl entered

/-- In a run without overflow every conversation is in the epoch that its
clock reads. -/
theorem currentEpoch_run
    {calls : List EpochCall}
    (noOverflow : Machine.EachStep NoOverflow (epochStep sodium) {} calls)
    (conversationId : QString) :
    ((Machine.run (epochStep sodium) {} calls).currentEpoch
        conversationId).toInt =
      epochClock conversationId calls := by
  induction calls using List.reverseRecOn with
  | nil => rfl
  | append_singleton calls call inductionHypothesis =>
      rw [Machine.eachStep_append] at noOverflow
      rw [Machine.run_append, epochClock, LamportClock.read_append]
      exact currentEpoch_epochStep noOverflow.2.1
        (inductionHypothesis noOverflow.1)

/-- Nothing overflows in a run exactly when its rotations fit. -/
theorem eachStep_noOverflow_iff (calls : List EpochCall) :
    Machine.EachStep NoOverflow (epochStep sodium) {} calls ↔
      RotationsFit calls := by
  rw [rotationsFit_iff]
  constructor
  · intro noOverflow conversationId
    have follows := currentEpoch_run noOverflow conversationId
    have bounded := ((Machine.run (epochStep sodium) {} calls).currentEpoch
      conversationId).toInt_lt
    rw [maxEpoch]
    omega
  · intro fits
    induction calls using List.reverseRecOn with
    | nil => trivial
    | append_singleton calls call inductionHypothesis =>
        have earlier := inductionHypothesis fun conversationId =>
          Nat.le_trans (LamportClock.read_le_read_append 0 calls [call])
            (fits conversationId)
        refine (Machine.eachStep_append _).mpr ⟨earlier, ?_, trivial⟩
        cases call with
        | importEpochKey conversationId epoch key => trivial
        | rotateEpoch conversationId drawn =>
            have after := fits conversationId
            rw [epochClock, LamportClock.read_append] at after
            have ticked :
                LamportClock.read (EpochCall.clockEvent conversationId)
                    (LamportClock.read
                      (EpochCall.clockEvent conversationId) 0 calls)
                    [.rotateEpoch conversationId drawn] =
                  epochClock conversationId calls + 1 := by
              simp [EpochCall.clockEvent, LamportClock.advance, epochClock]
            rw [ticked] at after
            rw [NoOverflow, currentEpoch_run earlier conversationId]
            exact_mod_cast after

/-- In a run from an empty manager epochs and keys are kept exactly when in
no conversation the rotations, or those after an imported epoch, go past the
largest epoch. -/
theorem epochs_and_keys_are_kept_iff
    (sodium : Sodium) (initialized : sodium.initialized = true)
    (calls : List EpochCall) :
    let managerAfter := Machine.run (epochStep sodium) {}
    ((∀ earlier later, calls = earlier ++ later →
        KeysKept (managerAfter earlier)) ∧
      ∀ earlier call later, calls = earlier ++ call :: later →
        EpochsKept sodium (managerAfter earlier) call) ↔
      RotationsFit calls := by
  intro managerAfter
  rw [← @eachStep_noOverflow_iff sodium]
  constructor
  · rintro ⟨_, epochsKept⟩
    rw [Machine.eachStep_iff_split]
    intro earlier call later split
    exact (epochsKept earlier call later split).noOverflow
  · intro noOverflow
    have keysKept : ∀ earlier later, calls = earlier ++ later →
        KeysKept (managerAfter earlier) := by
      rintro earlier later rfl
      refine Machine.run_invariant_of_eachStep KeysKept NoOverflow ?_
        keysKept_empty ((Machine.eachStep_append _).mp noOverflow).1
      intro manager call kept stepFits
      exact (epochStep_kept initialized kept stepFits).2
    refine ⟨keysKept, ?_⟩
    intro earlier call later split
    have fits := (Machine.eachStep_iff_split _).mp noOverflow earlier call
      later split
    exact (epochStep_kept initialized
      (keysKept earlier (call :: later) split) fits).1

end Runs

section Examples

def conversation : QString := QString.literal "c"

def shownKey : QByteArray := List.replicate kChaCha20KeyBytes 7

def drawnKey : List.Vector UInt8 kChaCha20KeyBytes :=
  ⟨List.replicate kChaCha20KeyBytes 9, by simp⟩

/-- A member rotates, learns a later epoch and rotates again. -/
def rotateAround : List EpochCall :=
  [.rotateEpoch conversation drawnKey,
    .importEpochKey conversation 5 shownKey,
    .rotateEpoch conversation drawnKey]

theorem rotations_around_an_import_are_kept :
    (∀ earlier later, rotateAround = earlier ++ later →
        KeysKept
          (Machine.run (epochStep ReferenceSodium.sodium) {} earlier)) ∧
      ∀ earlier call later, rotateAround = earlier ++ call :: later →
        EpochsKept ReferenceSodium.sodium
          (Machine.run (epochStep ReferenceSodium.sodium) {} earlier)
          call := by
  refine (epochs_and_keys_are_kept_iff ReferenceSodium.sodium rfl
    rotateAround).mpr ((rotationsFit_iff rotateAround).mpr ?_)
  intro conversationId
  by_cases same : conversationId = conversation
  · subst same
    decide +kernel
  · simp [epochClock, rotateAround, EpochCall.clockEvent, same,
      LamportClock.advance]

/-- Another member's key for the largest epoch, and a rotation. -/
def rotateAfterLargest : List EpochCall :=
  [.importEpochKey conversation Int32.maxValue shownKey,
    .rotateEpoch conversation drawnKey]

/-- The manager takes the largest epoch; the next rotation overflows and
takes the conversation back. -/
theorem rotation_after_largest_epoch_overflows :
    ¬((∀ earlier later, rotateAfterLargest = earlier ++ later →
        KeysKept
          (Machine.run (epochStep ReferenceSodium.sodium) {} earlier)) ∧
      ∀ earlier call later, rotateAfterLargest = earlier ++ call :: later →
        EpochsKept ReferenceSodium.sodium
          (Machine.run (epochStep ReferenceSodium.sodium) {} earlier)
          call) ∧
      (Machine.run (epochStep ReferenceSodium.sodium) {}
        rotateAfterLargest).currentEpoch conversation = Int32.minValue := by
  refine ⟨?_, by decide +kernel⟩
  rintro ⟨_, epochsKept⟩
  have noOverflow := (epochsKept
    [.importEpochKey conversation Int32.maxValue shownKey]
    (.rotateEpoch conversation drawnKey) [] rfl).noOverflow
  revert noOverflow
  rw [NoOverflow]
  decide +kernel

end Examples

end Crypto
end VoxDesktop
