import VoxDesktop.Crypto.RatchetExchange

/-!
# Reflected messages

Both chains of a session start from the same chain key, so what a session has
encrypted at a position is what its own receiving side waits for at that
position.  A message that comes back to its sender is therefore decrypted,
unless the receiving side has already passed the position.
-/

namespace VoxDesktop
namespace Crypto
namespace DoubleRatchetSession

open Qt Library

/-- The session decrypts the message neither now nor after further calls,
whatever the associated data. -/
def NeverAccepts
    (sodium : Sodium) (session : DoubleRatchetSession)
    (serializedMessage : QByteArray) : Prop :=
  ∀ later ad,
    (decrypt sodium (Machine.run (step sodium) session later)
      serializedMessage ad).1 = none

section Positions

variable {sodium : Sodium} {sharedSecret associatedData : QByteArray}
  {sent received : ℕ}

/-- A message of a position that the receiving side has passed is never
accepted. -/
theorem neverAccepts_of_passed
    {serializedMessage : QByteArray} {message : RatchetMessage}
    {position : ℕ}
    (parsedEq :
      RatchetMessage.deserialize serializedMessage = some message)
    (counterEq : message.counter = position)
    (passed : position < received) :
    NeverAccepts sodium
      (sessionAt sodium sharedSecret associatedData sent received)
      serializedMessage := by
  intro later ad
  obtain ⟨sentNow, receivedNow, forward, reached⟩ :=
    @run_sessionAt sodium sharedSecret associatedData sent received later
  rw [reached]
  have old : message.counter <
      (sessionAt sodium sharedSecret associatedData sentNow
        receivedNow).m_receiveCounter := by
    change message.counter < (receivedNow : ℤ)
    omega
  rw [decrypt, parsedEq]
  dsimp only
  rw [if_pos old]

end Positions

/-- A message of a reachable session is never accepted by that session if and
only if the receiving side was beyond the sending side when it was
encrypted. -/
theorem own_message_never_accepted_iff
    (sodium : Sodium)
    (sharedSecret associatedData : QByteArray)
    (calls : List Call)
    (plaintext ad message : QByteArray)
    (initialized : sodium.initialized = true)
    (secretNonempty : sharedSecret ≠ [])
    (correct : sodium.AeadCorrect)
    (counterBound :
      (after sodium sharedSecret associatedData calls).m_sendCounter <
        2147483647)
    (encrypted :
      (encrypt sodium (after sodium sharedSecret associatedData calls)
        plaintext ad).1 = some message) :
    let session := after sodium sharedSecret associatedData calls
    NeverAccepts sodium (encrypt sodium session plaintext ad).2 message ↔
      session.m_sendCounter < session.m_receiveCounter := by
  intro session
  obtain ⟨sent, received, reached⟩ :=
    after_eq_sessionAt sodium sharedSecret associatedData calls
  have sessionEq :
      session =
        sessionAt sodium sharedSecret associatedData sent received := reached
  have sentBound : sent < 2147483647 := by
    rw [reached] at counterBound
    exact Int.ofNat_lt.mp counterBound
  have sealed := encrypt_sessionAt associatedData sent received initialized
    secretNonempty correct.chacha plaintext ad
  rw [reached, sealed] at encrypted
  obtain rfl := Option.some.inj encrypted
  rw [sessionEq, sealed]
  change NeverAccepts _ _ _ ↔ (sent : ℤ) < (received : ℤ)
  constructor
  · intro never
    by_contra notPassed
    have accepted := decrypt_messageAt associatedData initialized
      secretNonempty correct.chacha (sent + 1) sentBound
      (show received ≤ sent by omega) plaintext ad
    have refused := never [] ad
    rw [Machine.run_nil, accepted] at refused
    contradiction
  · intro passed
    exact neverAccepts_of_passed
      (deserialize_messageAt associatedData initialized secretNonempty
        correct.chacha sentBound plaintext ad)
      rfl (Int.ofNat_lt.mp passed)

section Examples

/-- The first message of the other end. -/
def peerMessage : QByteArray :=
  (messageAt ReferenceSodium.sodium [1] [2] 0 [104, 105] []).serialize

/-- A session that has received a message encrypts its first own one, which
it will never accept. -/
theorem own_message_never_accepted_after_receiving :
    let session :=
      after ReferenceSodium.sodium [1] [2] [.decrypt peerMessage []]
    let sealed := encrypt ReferenceSodium.sodium session [72] [7]
    NeverAccepts ReferenceSodium.sodium sealed.2 (sealed.1.getD []) := by
  intro session sealed
  have encrypted : sealed.1 = some (sealed.1.getD []) := by decide +kernel
  exact (own_message_never_accepted_iff ReferenceSodium.sodium [1] [2]
    [.decrypt peerMessage []] [72] [7] (sealed.1.getD []) rfl
    (List.cons_ne_nil 1 []) ReferenceSodium.sodium_aeadCorrect
    (by decide +kernel) encrypted).mpr (by decide +kernel)

/-- A fresh session decrypts the message it has just encrypted. -/
theorem own_message_accepted_by_fresh_session :
    let session := after ReferenceSodium.sodium [1] [2] []
    let sealed := encrypt ReferenceSodium.sodium session [72, 105] [7]
    (decrypt ReferenceSodium.sodium sealed.2 (sealed.1.getD []) [7]).1 =
      some [72, 105] := by
  decide +kernel

end Examples

end DoubleRatchetSession
end Crypto
end VoxDesktop
