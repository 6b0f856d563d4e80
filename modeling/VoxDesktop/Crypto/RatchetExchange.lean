import VoxDesktop.Crypto.DoubleRatchetSession
import VoxDesktop.Crypto.ReferenceSodium

/-!
# Two ends over a lossy network

Both ends encrypt and decrypt, in any interleaving.  The network may lose
messages but hands over genuine ones in the order of their counters.  Every
message handed over decrypts to its plaintext, and the receive counter then
stands right behind it.

The proof keeps both sessions at positions: the sender of a message stood at
the position in its header, and the receiver stands at or before it.
-/

namespace VoxDesktop
namespace Crypto
namespace DoubleRatchetSession

open Qt Library

/-- A message as it was sent: its octets and what went into it. -/
structure SentMessage where
  serialized : QByteArray
  plaintext : QByteArray
  ad : QByteArray
  counter : ℤ
  deriving DecidableEq

/-- The two sessions, all messages each end has sent, and the counter of the
last message handed to each end. -/
structure Exchange where
  session : Endpoint → DoubleRatchetSession
  outbox : Endpoint → List SentMessage
  lastCounter : Endpoint → ℤ

inductive ExchangeEvent
  | encrypt (endpoint : Endpoint) (plaintext ad : QByteArray)
  | decrypt (endpoint : Endpoint) (message : SentMessage)

inductive ExchangeOutcome
  | encrypted (serialized : Option QByteArray)
  | decrypted (message : SentMessage) (returned : Option QByteArray)
      (receiveCounter : ℤ)

/-- The outcome the two ends expect: a message was made, or the plaintext came
back and the receive counter is one past the counter of the message. -/
def ExchangeOutcome.Delivered : ExchangeOutcome → Prop
  | encrypted serialized => serialized ≠ none
  | decrypted message returned receiveCounter =>
      returned = some message.plaintext ∧
        (RatchetMessage.deserialize message.serialized).map
          RatchetMessage.counter = some message.counter ∧
        receiveCounter = message.counter + 1

/-- One call at one end.  Encrypting is permitted while the send counter can
be incremented as an `int`, decrypting for messages of the other end whose
counter is beyond the last one handed over. -/
def exchangeStep
    (sodium : Sodium) (exchange : Exchange) :
    ExchangeEvent → Option (ExchangeOutcome × Exchange)
  | .encrypt endpoint plaintext ad =>
      let session := exchange.session endpoint
      if session.m_sendCounter < 2147483647 then
        let result := encrypt sodium session plaintext ad
        let sent := result.1.toList.map fun serialized =>
          ⟨serialized, plaintext, ad, session.m_sendCounter⟩
        some (.encrypted result.1,
          { exchange with
            session := Function.update exchange.session endpoint result.2
            outbox := Function.update exchange.outbox endpoint
              (exchange.outbox endpoint ++ sent) })
      else none
  | .decrypt endpoint message =>
      if message ∈ exchange.outbox endpoint.peer ∧
          exchange.lastCounter endpoint < message.counter then
        let result := decrypt sodium (exchange.session endpoint)
          message.serialized message.ad
        some (.decrypted message result.1 result.2.m_receiveCounter,
          { exchange with
            session := Function.update exchange.session endpoint result.2
            lastCounter := Function.update exchange.lastCounter endpoint
              message.counter })
      else none

/-- Two sessions from one shared secret and associated data. -/
def freshExchange
    (sodium : Sodium)
    (sharedSecret associatedData : QByteArray) : Exchange where
  session := fun _ => fromSharedSecret sodium sharedSecret associatedData
  outbox := fun _ => []
  lastCounter := fun _ => -1

/-- The message sent at a position. -/
def sentMessageAt
    (sodium : Sodium)
    (sharedSecret associatedData : QByteArray)
    (position : ℕ) (plaintext ad : QByteArray) : SentMessage where
  serialized :=
    (messageAt sodium sharedSecret associatedData position plaintext
      ad).serialize
  plaintext := plaintext
  ad := ad
  counter := position

/-- The sessions stand at positions, every message was sent at a position
below that of its sender, and each end stands right behind the last message
handed to it. -/
structure InStep
    (sodium : Sodium)
    (sharedSecret associatedData : QByteArray)
    (exchange : Exchange)
    (sent received : Endpoint → ℕ) : Prop where
  session : ∀ endpoint,
    exchange.session endpoint =
      sessionAt sodium sharedSecret associatedData (sent endpoint)
        (received endpoint)
  outbox : ∀ endpoint, ∀ message ∈ exchange.outbox endpoint,
    ∃ position plaintext ad,
      position < 2147483647 ∧
        message = sentMessageAt sodium sharedSecret associatedData position
          plaintext ad
  lastCounter : ∀ endpoint,
    exchange.lastCounter endpoint + 1 = received endpoint

variable {sodium : Sodium} {sharedSecret associatedData : QByteArray}

theorem freshExchange_inStep :
    InStep sodium sharedSecret associatedData
      (freshExchange sodium sharedSecret associatedData)
      (fun _ => 0) (fun _ => 0) where
  session _ := rfl
  outbox _ _ member := absurd member List.not_mem_nil
  lastCounter _ := rfl

section Working

variable (associatedData)
  (initialized : sodium.initialized = true)
  (secretNonempty : sharedSecret ≠ [])
  (correct : sodium.chacha20poly1305.Correct
    kChaCha20KeyBytes kChaCha20NonceBytes kChaCha20TagBytes)

include initialized secretNonempty correct

/-- The message of a position keeps its header on the wire. -/
theorem deserialize_messageAt
    {position : ℕ}
    (positionBound : position < 2147483647)
    (plaintext ad : QByteArray) :
    RatchetMessage.deserialize
        (messageAt sodium sharedSecret associatedData position plaintext
          ad).serialize =
      some (messageAt sodium sharedSecret associatedData position plaintext
        ad) := by
  have size := (sealCallAt_opens associatedData initialized secretNonempty
    correct position plaintext ad).1
  refine RatchetMessage.deserialize_serialize ?_ ?_ ?_ ?_
  · change (-2147483648 : ℤ) ≤ (position : ℤ)
    omega
  · change (position : ℤ) < 2147483648
    omega
  · exact length_nextNonce initialized
      (messageKeyAt_ne_nil initialized secretNonempty position)
  · exact (Nat.le_add_left _ _).trans size.symm.le

/-- A receiver at or before the position of a message decrypts it and stands
right behind it. -/
theorem decrypt_messageAt
    (sent : ℕ) {received position : ℕ}
    (positionBound : position < 2147483647)
    (notPassed : received ≤ position)
    (plaintext ad : QByteArray) :
    decrypt sodium
        (sessionAt sodium sharedSecret associatedData sent received)
        (messageAt sodium sharedSecret associatedData position plaintext
          ad).serialize ad =
      (some plaintext,
        sessionAt sodium sharedSecret associatedData sent
          (position + 1)) := by
  have parsedEq := deserialize_messageAt associatedData initialized
    secretNonempty correct positionBound plaintext ad
  have opens := (sealCallAt_opens associatedData initialized secretNonempty
    correct position plaintext ad).2
  rcases decrypt_cases sodium sharedSecret associatedData sent received
      (messageAt sodium sharedSecret associatedData position plaintext
        ad).serialize ad with
    ⟨short, _⟩ | ⟨parsed, parsedHere, rest⟩
  · rw [parsedEq] at short
    contradiction
  · rw [parsedEq] at parsedHere
    obtain rfl := Option.some.inj parsedHere
    rcases rest with ⟨old, _⟩ | ⟨caught, counterEq, _, rejected | accepted⟩
    · change (position : ℤ) < received at old
      omega
    · obtain rfl : position = caught := Int.ofNat.inj counterEq
      exact absurd (opens.symm.trans rejected.1) (by simp)
    · obtain rfl : position = caught := Int.ofNat.inj counterEq
      obtain ⟨returned, opened, moved⟩ := accepted
      obtain rfl : plaintext = returned :=
        Option.some.inj (opens.symm.trans opened)
      exact moved

/-- Encrypting at one end succeeds and keeps the exchange in step. -/
theorem exchangeStep_encrypt
    {exchange next : Exchange} {sent received : Endpoint → ℕ}
    {endpoint : Endpoint} {plaintext ad : QByteArray}
    {outcome : ExchangeOutcome}
    (inStep :
      InStep sodium sharedSecret associatedData exchange sent received)
    (taken :
      exchangeStep sodium exchange (.encrypt endpoint plaintext ad) =
        some (outcome, next)) :
    outcome.Delivered ∧
      InStep sodium sharedSecret associatedData next
        (Function.update sent endpoint (sent endpoint + 1)) received := by
  have encrypted := encrypt_sessionAt associatedData (sent endpoint)
    (received endpoint) initialized secretNonempty correct plaintext ad
  simp only [exchangeStep, inStep.session endpoint, encrypted,
    Option.ite_none_right_eq_some, Option.some.injEq, Prod.mk.injEq]
    at taken
  obtain ⟨permitted, rfl, rfl⟩ := taken
  change (sent endpoint : ℤ) < 2147483647 at permitted
  refine ⟨by simp [ExchangeOutcome.Delivered], ?_, ?_, inStep.lastCounter⟩
  · intro other
    by_cases same : other = endpoint
    · subst same
      simp only [Function.update_self]
    · simp only [Function.update_of_ne same, inStep.session]
  · intro other message member
    by_cases same : other = endpoint
    · subst same
      simp only [Function.update_self, List.mem_append] at member
      rcases member with earlier | new
      · exact inStep.outbox other message earlier
      · refine ⟨sent other, plaintext, ad, by omega, ?_⟩
        exact List.mem_singleton.mp new
    · simp only [Function.update_of_ne same] at member
      exact inStep.outbox other message member

/-- Decrypting a message handed over in order returns its plaintext and keeps
the exchange in step. -/
theorem exchangeStep_decrypt
    {exchange next : Exchange} {sent received : Endpoint → ℕ}
    {endpoint : Endpoint} {message : SentMessage}
    {outcome : ExchangeOutcome}
    (inStep :
      InStep sodium sharedSecret associatedData exchange sent received)
    (taken :
      exchangeStep sodium exchange (.decrypt endpoint message) =
        some (outcome, next)) :
    outcome.Delivered ∧
      ∃ position,
        InStep sodium sharedSecret associatedData next sent
          (Function.update received endpoint (position + 1)) := by
  simp only [exchangeStep, Option.ite_none_right_eq_some, Option.some.injEq,
    Prod.mk.injEq] at taken
  obtain ⟨⟨member, inOrder⟩, rfl, rfl⟩ := taken
  obtain ⟨position, plaintext, ad, positionBound, rfl⟩ :=
    inStep.outbox _ message member
  have standing := inStep.lastCounter endpoint
  have notPassed : received endpoint ≤ position := by
    change exchange.lastCounter endpoint < (position : ℤ) at inOrder
    omega
  have decrypted := decrypt_messageAt associatedData initialized
    secretNonempty correct (sent endpoint) positionBound notPassed plaintext
    ad
  have parsedEq := deserialize_messageAt associatedData initialized
    secretNonempty correct positionBound plaintext ad
  rw [inStep.session endpoint]
  simp only [sentMessageAt, decrypted]
  refine ⟨⟨rfl, by rw [parsedEq]; rfl, rfl⟩, position, ?_,
    inStep.outbox, ?_⟩
  · intro other
    by_cases same : other = endpoint
    · subst same
      simp only [Function.update_self]
    · simp only [Function.update_of_ne same, inStep.session]
  · intro other
    by_cases same : other = endpoint
    · subst same
      simp only [Function.update_self]
      rfl
    · simp only [Function.update_of_ne same, inStep.lastCounter]

end Working

/-- In every interleaving of the two ends, every message handed over is
decrypted to what was encrypted. -/
theorem exchange_delivered
    (sodium : Sodium)
    (sharedSecret associatedData : QByteArray)
    (events : List ExchangeEvent)
    (outcomes : List ExchangeOutcome)
    (final : Exchange)
    (initialized : sodium.initialized = true)
    (secretNonempty : sharedSecret ≠ [])
    (correct : sodium.AeadCorrect)
    (executed :
      Machine.execute (exchangeStep sodium)
        (freshExchange sodium sharedSecret associatedData) events =
          some (outcomes, final)) :
    ∀ outcome ∈ outcomes, outcome.Delivered := by
  refine (Machine.execute_invariant
    (fun exchange => ∃ sent received,
      InStep sodium sharedSecret associatedData exchange sent received)
    ExchangeOutcome.Delivered ?_ ⟨_, _, freshExchange_inStep⟩ executed).1
  rintro exchange event outcome next ⟨sent, received, inStep⟩ taken
  cases event with
  | encrypt endpoint plaintext ad =>
      obtain ⟨delivered, inStepNext⟩ := exchangeStep_encrypt associatedData
        initialized secretNonempty correct.chacha inStep taken
      exact ⟨delivered, _, _, inStepNext⟩
  | decrypt endpoint message =>
      obtain ⟨delivered, position, inStepNext⟩ := exchangeStep_decrypt
        associatedData initialized secretNonempty correct.chacha inStep taken
      exact ⟨delivered, _, _, inStepNext⟩

/-- Three messages one way of which the second is lost, and an empty one the
other way in between. -/
theorem exchange_delivered_with_loss :
    let message := sentMessageAt ReferenceSodium.sodium [1] [2]
    let result := Machine.execute (exchangeStep ReferenceSodium.sodium)
      (freshExchange ReferenceSodium.sodium [1] [2])
      [.encrypt .alice [72] [7], .encrypt .alice [105] [8],
        .encrypt .bob [] [9], .decrypt .bob (message 0 [72] [7]),
        .encrypt .alice [33] [], .decrypt .alice (message 0 [] [9]),
        .decrypt .bob (message 2 [33] [])]
    result.isSome = true ∧
      ∀ outcome ∈ (result.map Prod.fst).getD [], outcome.Delivered := by
  intro message result
  have permitted : result.isSome = true := by decide +kernel
  obtain ⟨⟨outcomes, final⟩, executed⟩ := Option.isSome_iff_exists.mp permitted
  refine ⟨permitted, ?_⟩
  rw [executed]
  exact exchange_delivered ReferenceSodium.sodium [1] [2] _ outcomes final
    rfl (by simp) ReferenceSodium.sodium_aeadCorrect executed

end DoubleRatchetSession
end Crypto
end VoxDesktop
