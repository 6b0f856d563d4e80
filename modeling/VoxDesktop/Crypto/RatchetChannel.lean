import VoxDesktop.Crypto.DoubleRatchetSession
import VoxDesktop.Crypto.ReferenceSodium

/-!
# One direction over an adversarial network

One end only encrypts, the other only decrypts, and the network hands the
receiver arbitrary octets in any order.  The receiver only moves forward on
the key chain of the sender, also when it rejects an input, and a ciphertext
that opens at a position was sealed at that position.  What it accepts is
therefore a sublist of what was sent.
-/

namespace VoxDesktop
namespace Crypto
namespace DoubleRatchetSession

open Qt CryptoHelpers Library

/-- What the sending session hands to `aeadEncrypt` for a list of plaintexts
with their associated data. -/
def sealedCalls
    (sodium : Sodium)
    (session : DoubleRatchetSession)
    (sent : List (QByteArray × QByteArray)) : List AeadCall :=
  Machine.collect
    (fun current message =>
      (sealCall sodium current message.1 message.2,
        (encrypt sodium current message.1 message.2).2))
    session sent

/-- What the receiving session hands to `aeadDecrypt` for a list of inputs
with their associated data. -/
def openedCalls
    (sodium : Sodium)
    (session : DoubleRatchetSession)
    (inputs : List (QByteArray × QByteArray)) : List AeadCall :=
  Machine.collect
    (fun current input =>
      (openedCall sodium current input.1 input.2,
        (decrypt sodium current input.1 input.2).2))
    session inputs

/-- Plaintexts the receiving session returns, with the associated data it was
given. -/
def accepted
    (sodium : Sodium)
    (session : DoubleRatchetSession)
    (inputs : List (QByteArray × QByteArray)) :
    List (QByteArray × QByteArray) :=
  Machine.collect
    (fun current input =>
      ((decrypt sodium current input.1 input.2).1.map
          fun plaintext => (plaintext, input.2),
        (decrypt sodium current input.1 input.2).2))
    session inputs

/-- Every ciphertext that opens was made by one of the given calls, under the
same key, nonce and associated data. -/
def Unforged (sodium : Sodium) (made opened : List AeadCall) : Prop :=
  ∀ openCall ∈ opened, ∀ plaintext,
    aeadDecrypt sodium openCall.key openCall.nonce openCall.text
        openCall.ad = some plaintext →
      ∃ sealCall ∈ made,
        sealCall.key = openCall.key ∧ sealCall.nonce = openCall.nonce ∧
          sealCall.ad = openCall.ad ∧
          aeadEncrypt sodium sealCall.key sealCall.nonce sealCall.text
            sealCall.ad = openCall.text

theorem Unforged.of_append_right
    {sodium : Sodium} {made first second : List AeadCall}
    (unforged : Unforged sodium made (first ++ second)) :
    Unforged sodium made second :=
  fun openCall member =>
    unforged openCall (List.mem_append_right first member)

variable {sodium : Sodium} {sharedSecret associatedData : QByteArray}
  {sent received : ℕ}

section Working

variable
  (initialized : sodium.initialized = true)
  (secretNonempty : sharedSecret ≠ [])
  (correct : sodium.chacha20poly1305.Correct
    kChaCha20KeyBytes kChaCha20NonceBytes kChaCha20TagBytes)

include initialized secretNonempty correct

/-- The sender seals its messages at consecutive positions. -/
theorem mem_sealedCalls_sessionAt
    {messages : List (QByteArray × QByteArray)} {call : AeadCall}
    (member :
      call ∈ sealedCalls sodium
        (sessionAt sodium sharedSecret associatedData sent received)
        messages) :
    ∃ index plaintext ad,
      messages[index]? = some (plaintext, ad) ∧
        call = sealCallAt sodium sharedSecret associatedData (sent + index)
          plaintext ad := by
  induction messages generalizing sent with
  | nil => simp [sealedCalls] at member
  | cons message messages inductionHypothesis =>
      obtain ⟨plaintext, ad⟩ := message
      have handed := sealCall_eq_sealCallAt associatedData sent received
        initialized secretNonempty plaintext ad
      have moved := encrypt_sessionAt associatedData sent received
        initialized secretNonempty correct plaintext ad
      unfold sealedCalls at member inductionHypothesis
      rw [Machine.collect_cons, handed, moved] at member
      rcases List.mem_cons.mp member with rfl | later
      · exact ⟨0, plaintext, ad, rfl, rfl⟩
      · obtain ⟨index, laterPlaintext, laterAd, found, rfl⟩ :=
          inductionHypothesis later
        refine ⟨index + 1, laterPlaintext, laterAd, found, ?_⟩
        rw [show sent + (index + 1) = sent + 1 + index by omega]

/-- A ciphertext that opens at a position, and was made by the sender, is the
message the sender sealed at that position. -/
theorem opened_eq_sent
    {messages : List (QByteArray × QByteArray)} {bound position : ℕ}
    {parsed : RatchetMessage} {plaintext ad : QByteArray}
    (collisionFree : (ratchetChain sodium).CollisionFreeOn
      ((ratchetChain sodium).messageInputs
        (baseChainKey sodium sharedSecret) bound))
    (messagesBound : messages.length ≤ bound)
    (positionBound : position < bound)
    (opened :
      aeadDecrypt sodium (messageKeyAt sodium sharedSecret position)
        parsed.nonce parsed.ciphertext (associatedData ++ ad) =
          some plaintext)
    (made :
      ∃ call ∈ sealedCalls sodium
          (sessionAt sodium sharedSecret associatedData 0 0) messages,
        call.key = messageKeyAt sodium sharedSecret position ∧
          call.nonce = parsed.nonce ∧ call.ad = associatedData ++ ad ∧
          aeadEncrypt sodium call.key call.nonce call.text call.ad =
            parsed.ciphertext) :
    messages[position]? = some (plaintext, ad) := by
  obtain ⟨call, member, keyEq, nonceEq, adEq, textEq⟩ := made
  obtain ⟨index, sentPlaintext, sentAd, found, rfl⟩ :=
    mem_sealedCalls_sessionAt initialized secretNonempty correct member
  rw [Nat.zero_add] at keyEq nonceEq adEq textEq
  obtain ⟨indexInRange, _⟩ := List.getElem?_eq_some_iff.mp found
  -- Distinct positions have distinct keys, so the position is the sender's.
  obtain rfl : index = position :=
    (ratchetChain sodium).messageKey_inj intLabel_msg_injective
      collisionFree (by omega) positionBound keyEq
  obtain rfl : sentAd = ad := List.append_cancel_left adEq
  have opens := (sealCallAt_opens associatedData initialized secretNonempty
    correct index sentPlaintext sentAd).2
  rw [textEq, keyEq, nonceEq, adEq, opened] at opens
  rw [found, Option.some.inj opens]

/-- A message that is accepted at a position is the one that was sent
there. -/
theorem accepted_eq_sent
    {received position bound : ℕ}
    {messages : List (QByteArray × QByteArray)}
    {parsed : RatchetMessage} {serializedMessage plaintext ad : QByteArray}
    (collisionFree : (ratchetChain sodium).CollisionFreeOn
      ((ratchetChain sodium).messageInputs
        (baseChainKey sodium sharedSecret) bound))
    (messagesBound : messages.length ≤ bound)
    (parsedEq :
      RatchetMessage.deserialize serializedMessage = some parsed)
    (counterEq : parsed.counter = position)
    (positionBound : position < bound)
    (notOld : received ≤ position)
    (opened :
      let call :=
        openCall sodium
          (sessionAt sodium sharedSecret associatedData 0 position) parsed ad
      aeadDecrypt sodium call.key call.nonce call.text call.ad =
        some plaintext)
    (unforged : Unforged sodium
      (sealedCalls sodium
        (sessionAt sodium sharedSecret associatedData 0 0) messages)
      (openedCall sodium
        (sessionAt sodium sharedSecret associatedData 0 received)
        serializedMessage ad).toList) :
    messages[position]? = some (plaintext, ad) := by
  have handed :
      openedCall sodium
          (sessionAt sodium sharedSecret associatedData 0 received)
          serializedMessage ad =
        some
          { key := messageKeyAt sodium sharedSecret position
            nonce := parsed.nonce
            text := parsed.ciphertext
            ad := associatedData ++ ad } :=
    openedCall_sessionAt parsedEq counterEq notOld
  have openedAt :
      aeadDecrypt sodium (messageKeyAt sodium sharedSecret position)
        parsed.nonce parsed.ciphertext (associatedData ++ ad) =
          some plaintext := by
    simp only [openCall, counterEq] at opened
    exact opened
  rw [handed] at unforged
  exact opened_eq_sent initialized secretNonempty correct collisionFree
    messagesBound positionBound openedAt
    (unforged _ List.mem_cons_self plaintext openedAt)

/-- From a position on, the receiver accepts a sublist of the messages from
that position on. -/
theorem accepted_sublist_drop
    (received : ℕ) {messages inputs : List (QByteArray × QByteArray)}
    {bound : ℕ}
    (collisionFree : (ratchetChain sodium).CollisionFreeOn
      ((ratchetChain sodium).messageInputs
        (baseChainKey sodium sharedSecret) bound))
    (messagesBound : messages.length ≤ bound)
    (headersBound : ∀ input ∈ inputs, ∀ parsed,
      RatchetMessage.deserialize input.1 = some parsed →
        parsed.counter < bound)
    (unforged : Unforged sodium
      (sealedCalls sodium
        (sessionAt sodium sharedSecret associatedData 0 0) messages)
      (openedCalls sodium
        (sessionAt sodium sharedSecret associatedData 0 received) inputs)) :
    (accepted sodium
        (sessionAt sodium sharedSecret associatedData 0 received)
        inputs).Sublist (messages.drop received) := by
  induction inputs generalizing received with
  | nil => exact List.nil_sublist _
  | cons input inputs inductionHypothesis =>
      obtain ⟨serializedMessage, ad⟩ := input
      have headersBoundRest : ∀ other ∈ inputs, ∀ parsed,
          RatchetMessage.deserialize other.1 = some parsed →
            parsed.counter < bound :=
        fun other member => headersBound other (List.mem_cons_of_mem _ member)
      rw [openedCalls, Machine.collect_cons] at unforged
      rw [accepted, Machine.collect_cons]
      have unforgedRest := unforged.of_append_right
      rcases decrypt_cases sodium sharedSecret associatedData 0 received
          serializedMessage ad with
        ⟨_, unchanged⟩ | ⟨parsed, parsedEq, ⟨_, unchanged⟩ |
          ⟨position, counterEq, notOld, ⟨_, moved⟩ |
            ⟨plaintext, opened, moved⟩⟩⟩
      · rw [unchanged] at unforgedRest ⊢
        exact inductionHypothesis _ headersBoundRest unforgedRest
      · rw [unchanged] at unforgedRest ⊢
        exact inductionHypothesis _ headersBoundRest unforgedRest
      · rw [moved] at unforgedRest ⊢
        exact (inductionHypothesis _ headersBoundRest unforgedRest).trans
          (List.drop_sublist_drop_left messages notOld)
      · rw [moved] at unforgedRest ⊢
        have headerBound :=
          headersBound _ List.mem_cons_self parsed parsedEq
        have found :=
          accepted_eq_sent initialized secretNonempty correct collisionFree
            messagesBound parsedEq counterEq (by omega) notOld opened
            fun openCall member =>
              unforged openCall (List.mem_append_left _ member)
        exact cons_sublist_drop notOld found
          (inductionHypothesis _ headersBoundRest unforgedRest)

end Working

/-- Whatever the network hands to the receiver, it accepts a subsequence of
the messages sent. -/
theorem accepted_sublist_sent
    (sodium : Sodium)
    (sharedSecret associatedData : QByteArray)
    (messages inputs : List (QByteArray × QByteArray))
    (bound : ℕ)
    (initialized : sodium.initialized = true)
    (secretNonempty : sharedSecret ≠ [])
    (correct : sodium.AeadCorrect)
    (collisionFree : (ratchetChain sodium).CollisionFreeOn
      ((ratchetChain sodium).messageInputs
        (baseChainKey sodium sharedSecret) bound))
    (messagesBound : messages.length ≤ bound)
    (headersBound : ∀ input ∈ inputs, ∀ parsed,
      RatchetMessage.deserialize input.1 = some parsed →
        parsed.counter < bound)
    (unforged : Unforged sodium
      (sealedCalls sodium
        (fromSharedSecret sodium sharedSecret associatedData) messages)
      (openedCalls sodium
        (fromSharedSecret sodium sharedSecret associatedData) inputs)) :
    (accepted sodium (fromSharedSecret sodium sharedSecret associatedData)
      inputs).Sublist messages :=
  accepted_sublist_drop initialized secretNonempty correct.chacha 0
    collisionFree messagesBound headersBound unforged

/-- The first message is lost, the second arrives twice with forged octets in
between. -/
theorem accepted_sublist_sent_replay :
    let second :=
      (messageAt ReferenceSodium.sodium [1] [2] 1 [105] [8]).serialize
    (accepted ReferenceSodium.sodium
      (fromSharedSecret ReferenceSodium.sodium [1] [2])
      [(second, [8]), (0 :: 0 :: 0 :: List.replicate 30 1, [7]),
        (second, [8])]).Sublist [([72], [7]), ([105], [8])] := by
  intro second
  have headers :
      ∀ input ∈ [(second, [8]), (0 :: 0 :: 0 :: List.replicate 30 1, [7]),
        (second, ([8] : QByteArray))],
      ((RatchetMessage.deserialize input.1).all
        fun parsed => parsed.counter < 2) = true := by
    decide +kernel
  have matched :
      ∀ openCall ∈ openedCalls ReferenceSodium.sodium
          (fromSharedSecret ReferenceSodium.sodium [1] [2])
          [(second, [8]), (0 :: 0 :: 0 :: List.replicate 30 1, [7]),
            (second, [8])],
        (aeadDecrypt ReferenceSodium.sodium openCall.key openCall.nonce
            openCall.text openCall.ad).isSome = true →
          ∃ sealCall ∈ sealedCalls ReferenceSodium.sodium
              (fromSharedSecret ReferenceSodium.sodium [1] [2])
              [([72], [7]), ([105], [8])],
            sealCall.key = openCall.key ∧ sealCall.nonce = openCall.nonce ∧
              sealCall.ad = openCall.ad ∧
              aeadEncrypt ReferenceSodium.sodium sealCall.key sealCall.nonce
                sealCall.text sealCall.ad = openCall.text := by
    decide +kernel
  refine accepted_sublist_sent ReferenceSodium.sodium [1] [2]
    [([72], [7]), ([105], [8])] _ 2 rfl (List.cons_ne_nil 1 [])
    ReferenceSodium.sodium_aeadCorrect ?_ (Nat.le_refl 2) ?_ ?_
  · exact (ratchetChain ReferenceSodium.sodium).collisionFreeOn_of_nodup
      (by decide +kernel)
  · intro input member parsed parsedEq
    have below := headers input member
    rw [parsedEq] at below
    exact of_decide_eq_true below
  · intro openCall member plaintext opened
    exact matched openCall member (by rw [opened]; rfl)

end DoubleRatchetSession
end Crypto
end VoxDesktop
