import Mathlib.Logic.Function.Basic
import VoxDesktop.Crypto.CryptoHelpers
import VoxDesktop.Library.Machine

/-!
# Sender keys

`SenderKeyManager`: for each conversation the epoch it is in and the keys of
its epochs.  A member enters the next epoch with a key of its own, or learns
the key of an epoch from another member.  Epochs are 32-bit integers, whose
increment wraps around.
-/

namespace VoxDesktop
namespace Crypto

open Library Qt

structure EpochState where
  currentEpoch : Int32 := 0
  keys : Int32 → Option QByteArray := fun _ => none

structure SenderKeyManager where
  m_conversations : QString → Option EpochState := fun _ => none

namespace SenderKeyManager

def currentEpoch
    (manager : SenderKeyManager) (conversationId : QString) : Int32 :=
  ((manager.m_conversations conversationId).getD {}).currentEpoch

def keyForEpoch
    (manager : SenderKeyManager) (conversationId : QString)
    (epoch : Int32) : Option QByteArray :=
  match manager.m_conversations conversationId with
  | none => none
  | some state => state.keys epoch

def rotateEpoch
    (sodium : Sodium) (manager : SenderKeyManager) (conversationId : QString)
    (drawn : List.Vector UInt8 kChaCha20KeyBytes) :
    QByteArray × SenderKeyManager :=
  let state := (manager.m_conversations conversationId).getD {}
  let epoch := state.currentEpoch + 1
  let newKey := CryptoHelpers.randomBytes sodium drawn
  (newKey,
    ⟨Function.update manager.m_conversations conversationId
      (some ⟨epoch, Function.update state.keys epoch (some newKey)⟩)⟩)

def importEpochKey
    (manager : SenderKeyManager) (conversationId : QString)
    (epoch : Int32) (key : QByteArray) : Bool × SenderKeyManager :=
  if epoch ≤ 0 ∨ key.length ≠ kChaCha20KeyBytes then (false, manager)
  else
    let state := (manager.m_conversations conversationId).getD {}
    (true,
      ⟨Function.update manager.m_conversations conversationId
        (some ⟨max state.currentEpoch epoch,
          Function.update state.keys epoch (some key)⟩)⟩)

/-- An epoch and a key that `importEpochKey` takes. -/
def Importable (epoch : Int32) (key : QByteArray) : Prop :=
  0 < epoch ∧ key.length = kChaCha20KeyBytes

instance (epoch : Int32) (key : QByteArray) :
    Decidable (Importable epoch key) :=
  inferInstanceAs (Decidable (_ ∧ _))

/-! ## What the calls do -/

section Calls

variable {sodium : Sodium} (manager : SenderKeyManager)
  (conversationId other : QString) (epoch wanted : Int32)
  (key : QByteArray) (drawn : List.Vector UInt8 kChaCha20KeyBytes)

/-- The keys of a conversation, in the state that the calls work on. -/
theorem keyForEpoch_eq :
    manager.keyForEpoch conversationId epoch =
      ((manager.m_conversations conversationId).getD {}).keys epoch := by
  unfold keyForEpoch
  cases manager.m_conversations conversationId <;> rfl

theorem currentEpoch_rotateEpoch :
    (rotateEpoch sodium manager conversationId drawn).2.currentEpoch other =
      if other = conversationId then manager.currentEpoch conversationId + 1
      else manager.currentEpoch other := by
  by_cases same : other = conversationId
  · subst same
    simp [rotateEpoch, currentEpoch]
  · simp [rotateEpoch, currentEpoch, same]

theorem keyForEpoch_rotateEpoch :
    (rotateEpoch sodium manager conversationId drawn).2.keyForEpoch other
        wanted =
      if other = conversationId ∧
          wanted = manager.currentEpoch conversationId + 1 then
        some (rotateEpoch sodium manager conversationId drawn).1
      else manager.keyForEpoch other wanted := by
  rw [keyForEpoch_eq, keyForEpoch_eq]
  by_cases same : other = conversationId
  · subst same
    by_cases fresh : wanted = manager.currentEpoch other + 1
    · subst fresh
      simp [rotateEpoch, currentEpoch]
    · rw [if_neg (fun both => fresh both.2)]
      rw [currentEpoch] at fresh
      simp [rotateEpoch, fresh]
  · simp [rotateEpoch, same]

/-- The key of a rotation has the size it was asked for. -/
theorem length_rotateEpoch (initialized : sodium.initialized = true) :
    (rotateEpoch sodium manager conversationId drawn).1.length =
      kChaCha20KeyBytes := by
  simp [rotateEpoch, CryptoHelpers.randomBytes, initialized]

variable {epoch key}

theorem not_importable_iff :
    ¬Importable epoch key ↔
      epoch ≤ 0 ∨ key.length ≠ kChaCha20KeyBytes := by
  rw [Importable, not_and_or, Int32.not_lt]

theorem importEpochKey_of_not_importable
    (refused : ¬Importable epoch key) :
    importEpochKey manager conversationId epoch key = (false, manager) :=
  if_pos (not_importable_iff.mp refused)

theorem currentEpoch_importEpochKey (importable : Importable epoch key) :
    (importEpochKey manager conversationId epoch key).2.currentEpoch other =
      if other = conversationId then
        max (manager.currentEpoch conversationId) epoch
      else manager.currentEpoch other := by
  have taken := not_importable_iff.not_right.mp importable
  by_cases same : other = conversationId
  · subst same
    simp [importEpochKey, taken, currentEpoch]
  · simp [importEpochKey, taken, currentEpoch, same]

theorem keyForEpoch_importEpochKey (importable : Importable epoch key) :
    (importEpochKey manager conversationId epoch key).2.keyForEpoch other
        wanted =
      if other = conversationId ∧ wanted = epoch then some key
      else manager.keyForEpoch other wanted := by
  have taken := not_importable_iff.not_right.mp importable
  rw [keyForEpoch_eq, keyForEpoch_eq]
  by_cases same : other = conversationId
  · subst same
    by_cases this : wanted = epoch <;> simp [importEpochKey, taken, this]
  · simp [importEpochKey, taken, same]

end Calls

end SenderKeyManager
end Crypto
end VoxDesktop
