import VoxDesktop.Crypto.DoubleRatchetSession
import VoxDesktop.Crypto.ReferenceSodium

/-!
# Rejected messages

`decrypt` moves the receive chain to the counter in the message header before
it opens the message.  The header is not authenticated, so an input that is
rejected afterwards has moved the session, and the genuine messages before
that counter are lost.  The session is left alone exactly by the rejected
inputs whose header is not ahead of it.
-/

namespace VoxDesktop
namespace Crypto
namespace DoubleRatchetSession

open Qt

/-- The header of a message names a counter beyond the receive counter. -/
def HeaderAhead
    (session : DoubleRatchetSession)
    (serializedMessage : QByteArray) : Prop :=
  ∃ parsed,
    RatchetMessage.deserialize serializedMessage = some parsed ∧
      session.m_receiveCounter < parsed.counter

/-- A decrypt call leaves the session as it was, and with it every message
that the session could decrypt. -/
def LeftUntouched
    (sodium : Sodium)
    (session : DoubleRatchetSession)
    (serializedMessage ad : QByteArray) : Prop :=
  (decrypt sodium session serializedMessage ad).2 = session ∧
    ∀ later laterAd plaintext,
      (decrypt sodium session later laterAd).1 = some plaintext →
        (decrypt sodium (decrypt sodium session serializedMessage ad).2
          later laterAd).1 = some plaintext

theorem LeftUntouched.of_eq
    {sodium : Sodium} {session : DoubleRatchetSession}
    {serializedMessage ad : QByteArray}
    (unchanged :
      (decrypt sodium session serializedMessage ad).2 = session) :
    LeftUntouched sodium session serializedMessage ad := by
  refine ⟨unchanged, ?_⟩
  intro later laterAd plaintext opens
  rwa [unchanged]

/-- A rejected input leaves a reachable session untouched if and only if its
header is not ahead of the session. -/
theorem decrypt_rejected_untouched_iff
    (sodium : Sodium)
    (sharedSecret associatedData : QByteArray)
    (calls : List Call)
    (serializedMessage ad : QByteArray)
    (rejected :
      (decrypt sodium (after sodium sharedSecret associatedData calls)
        serializedMessage ad).1 = none) :
    LeftUntouched sodium (after sodium sharedSecret associatedData calls)
        serializedMessage ad ↔
      ¬ HeaderAhead (after sodium sharedSecret associatedData calls)
        serializedMessage := by
  obtain ⟨sent, received, reached⟩ :=
    after_eq_sessionAt sodium sharedSecret associatedData calls
  rw [reached] at rejected ⊢
  have cases := decrypt_cases sodium sharedSecret associatedData sent received
    serializedMessage ad
  rcases cases with
    ⟨short, unchanged⟩ | ⟨parsed, parsedEq, ⟨old, unchanged⟩ |
      ⟨position, counterEq, notOld, ⟨_, moved⟩ | ⟨plaintext, _, accepted⟩⟩⟩
  · refine iff_of_true (.of_eq (congrArg Prod.snd unchanged)) ?_
    rintro ⟨parsed, parsedEq, _⟩
    simp [short] at parsedEq
  · refine iff_of_true (.of_eq (congrArg Prod.snd unchanged)) ?_
    rintro ⟨other, otherEq, ahead⟩
    obtain rfl : parsed = other := by simpa [parsedEq] using otherEq
    change (received : ℤ) < parsed.counter at ahead
    omega
  · -- The input was opened and refused at the counter of its header.
    by_cases same : position = received
    · subst same
      refine iff_of_true (.of_eq (congrArg Prod.snd moved)) ?_
      rintro ⟨other, otherEq, ahead⟩
      obtain rfl : parsed = other := by simpa [parsedEq] using otherEq
      change (position : ℤ) < parsed.counter at ahead
      omega
    · refine iff_of_false ?_ ?_
      · rintro ⟨unchanged, _⟩
        rw [moved] at unchanged
        have counters :=
          congrArg DoubleRatchetSession.m_receiveCounter unchanged
        change (position : ℤ) = (received : ℤ) at counters
        omega
      · intro notAhead
        refine notAhead ⟨parsed, parsedEq, ?_⟩
        change (received : ℤ) < parsed.counter
        omega
  · rw [accepted] at rejected
    exact absurd rejected (by simp)

/-- Thirty-two forged octets with the current counter: their tag is refused,
and the session is as it was. -/
theorem decrypt_forged_tag_untouched :
    LeftUntouched ReferenceSodium.sodium
      (after ReferenceSodium.sodium [1] [2] []) (List.replicate 32 0) [] := by
  have counter :
      (RatchetMessage.deserialize (List.replicate 32 0)).map
        RatchetMessage.counter = some 0 := by
    decide +kernel
  refine (decrypt_rejected_untouched_iff ReferenceSodium.sodium [1] [2] []
    (List.replicate 32 0) [] (by decide +kernel)).mpr ?_
  rintro ⟨parsed, parsedEq, ahead⟩
  rw [parsedEq, Option.map_some, Option.some.injEq] at counter
  rw [counter] at ahead
  exact absurd ahead (by decide +kernel)

/-- Thirty-two forged octets with counter one: they are rejected, and the
genuine first message, which decrypted before, is lost. -/
theorem decrypt_forged_header_moves_session :
    let sodium := ReferenceSodium.sodium
    let session := after sodium [1] [2] []
    let forged := [0, 0, 0, 1] ++ List.replicate 28 (0 : UInt8)
    let genuine := (encrypt sodium session [72, 105] []).1.getD []
    (decrypt sodium session forged []).1 = none ∧
      ¬ LeftUntouched sodium session forged [] ∧
      (decrypt sodium session genuine []).1 = some [72, 105] ∧
      (decrypt sodium (decrypt sodium session forged []).2
        genuine []).1 = none := by
  intro sodium session forged genuine
  refine ⟨by decide +kernel, ?_, by decide +kernel, by decide +kernel⟩
  rintro ⟨unchanged, _⟩
  exact absurd unchanged (by decide +kernel)

end DoubleRatchetSession
end Crypto
end VoxDesktop
