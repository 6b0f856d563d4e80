import VoxDesktop.Crypto.DoubleRatchetSession
import VoxDesktop.Crypto.ReferenceSodium

/-!
# Keys and nonces handed to the AEAD

Both ends of a conversation build their session with `fromSharedSecret`, which
starts the sending chain of either end from the same base key.  The pair that
a call of `encrypt` hands to `aeadEncrypt` is therefore a function of the
position of the call among the calls of its own end.  Pairs never repeat
within one end, and always repeat once both ends have sent.
-/

namespace VoxDesktop
namespace Crypto
namespace DoubleRatchetSession

open Qt

/-- One call of `encrypt` at one of the ends. -/
structure EncryptCall where
  endpoint : Endpoint
  plaintext : QByteArray
  ad : QByteArray

/-- The sessions of the two ends. -/
abbrev Conversation := Endpoint → DoubleRatchetSession

/-- Both ends built from one shared secret, each with its own associated
data. -/
def freshConversation
    (sodium : Sodium)
    (sharedSecret : QByteArray)
    (associatedData : Endpoint → QByteArray) : Conversation :=
  fun endpoint =>
    fromSharedSecret sodium sharedSecret (associatedData endpoint)

/-- One `encrypt` call, reporting the key and nonce it hands to
`aeadEncrypt`. -/
def encryptStep
    (sodium : Sodium)
    (conversation : Conversation)
    (call : EncryptCall) :
    Option (QByteArray × QByteArray) × Conversation :=
  let session := conversation call.endpoint
  ((sealCall sodium session call.plaintext call.ad).map
      fun handed => (handed.key, handed.nonce),
    Function.update conversation call.endpoint
      (encrypt sodium session call.plaintext call.ad).2)

/-- All pairs handed to `aeadEncrypt` in a run of calls, in order. -/
def handedPairs
    (sodium : Sodium)
    (conversation : Conversation)
    (calls : List EncryptCall) : List (QByteArray × QByteArray) :=
  Library.Machine.collect (encryptStep sodium) conversation calls

/-! ## Positions of calls -/

/-- Number the calls of every end separately, from the given counts on. -/
def callPositions : (Endpoint → ℕ) → List EncryptCall → List ℕ
  | _, [] => []
  | counts, call :: calls =>
      counts call.endpoint ::
        callPositions
          (Function.update counts call.endpoint (counts call.endpoint + 1))
          calls

theorem callPositions_lt
    {counts : Endpoint → ℕ} {calls : List EncryptCall} {bound : ℕ}
    (below : ∀ endpoint, counts endpoint + calls.length ≤ bound) :
    ∀ position ∈ callPositions counts calls, position < bound := by
  induction calls generalizing counts with
  | nil => simp [callPositions]
  | cons call calls inductionHypothesis =>
      have belowHead := below call.endpoint
      rw [List.length_cons] at belowHead
      intro position member
      rcases List.mem_cons.mp member with rfl | later
      · omega
      · refine inductionHypothesis ?_ position later
        intro endpoint
        have belowHere := below endpoint
        rw [List.length_cons] at belowHere
        by_cases same : endpoint = call.endpoint
        · subst same
          rw [Function.update_self]
          omega
        · rw [Function.update_of_ne same]
          omega

/-- An end that calls at all calls from its own count. -/
theorem count_mem_callPositions
    (counts : Endpoint → ℕ) {calls : List EncryptCall} {endpoint : Endpoint}
    (callsHere : ∃ call ∈ calls, call.endpoint = endpoint) :
    counts endpoint ∈ callPositions counts calls := by
  induction calls generalizing counts with
  | nil => simp at callsHere
  | cons call calls inductionHypothesis =>
      by_cases same : call.endpoint = endpoint
      · subst same
        exact List.mem_cons_self
      · have callsLater : ∃ call ∈ calls, call.endpoint = endpoint := by
          obtain ⟨other, member, otherHere⟩ := callsHere
          rcases List.mem_cons.mp member with rfl | later
          · exact absurd otherHere same
          · exact ⟨other, later, otherHere⟩
        refine List.mem_cons_of_mem _ ?_
        have kept := inductionHypothesis
          (Function.update counts call.endpoint (counts call.endpoint + 1))
          callsLater
        rwa [Function.update_of_ne (Ne.symm same)] at kept

/-- The calls of a single end are numbered consecutively. -/
theorem callPositions_of_oneSided
    {counts : Endpoint → ℕ} {calls : List EncryptCall} {endpoint : Endpoint}
    (oneSided : ∀ call ∈ calls, call.endpoint = endpoint) :
    callPositions counts calls =
      List.range' (counts endpoint) calls.length := by
  induction calls generalizing counts with
  | nil => rfl
  | cons call calls inductionHypothesis =>
      obtain rfl := oneSided call List.mem_cons_self
      rw [callPositions, List.length_cons, List.range'_succ,
        inductionHypothesis fun other member =>
          oneSided other (List.mem_cons_of_mem _ member),
        Function.update_self]

/-- Starting both ends at the same count, positions are distinct exactly when
only one of the ends calls. -/
theorem callPositions_nodup_iff
    (start : ℕ) (calls : List EncryptCall) :
    (callPositions (fun _ => start) calls).Nodup ↔
      ∃ endpoint, ∀ call ∈ calls, call.endpoint = endpoint := by
  constructor
  · intro distinct
    cases calls with
    | nil => exact ⟨.alice, by simp⟩
    | cons first rest =>
        refine ⟨first.endpoint, ?_⟩
        by_contra mixed
        push Not at mixed
        obtain ⟨other, member, differs⟩ := mixed
        have otherLater : ∃ call ∈ rest, call.endpoint = other.endpoint := by
          rcases List.mem_cons.mp member with rfl | later
          · exact absurd rfl differs
          · exact ⟨other, later, rfl⟩
        have repeated := count_mem_callPositions
          (Function.update (fun _ => start) first.endpoint (start + 1))
          otherLater
        rw [Function.update_of_ne differs] at repeated
        exact (List.nodup_cons.mp distinct).1 repeated
  · rintro ⟨endpoint, oneSided⟩
    rw [callPositions_of_oneSided oneSided]
    exact List.nodup_range'

/-! ## Pairs are a function of positions -/

/-- The pair handed to the AEAD for the message at a position. -/
def pairAt
    (sodium : Sodium) (sharedSecret : QByteArray) (position : ℕ) :
    QByteArray × QByteArray :=
  (messageKeyAt sodium sharedSecret position,
    nextNonce sodium (messageKeyAt sodium sharedSecret position))

/-- The ends of a conversation that have sent the given numbers of
messages. -/
def conversationAt
    (sodium : Sodium)
    (sharedSecret : QByteArray)
    (associatedData : Endpoint → QByteArray)
    (counts : Endpoint → ℕ) : Conversation :=
  fun endpoint => sessionAt sodium sharedSecret (associatedData endpoint)
    (counts endpoint) 0

section Working

variable {sodium : Sodium} {sharedSecret : QByteArray}
  (associatedData : Endpoint → QByteArray)
  (initialized : sodium.initialized = true)
  (secretNonempty : sharedSecret ≠ [])
  (correct : sodium.AeadCorrect)

include initialized secretNonempty correct

theorem encryptStep_conversationAt
    (counts : Endpoint → ℕ) (call : EncryptCall) :
    encryptStep sodium
        (conversationAt sodium sharedSecret associatedData counts) call =
      (some (pairAt sodium sharedSecret (counts call.endpoint)),
        conversationAt sodium sharedSecret associatedData
          (Function.update counts call.endpoint
            (counts call.endpoint + 1))) := by
  have handed := sealCall_eq_sealCallAt (associatedData call.endpoint)
    (counts call.endpoint) 0 initialized secretNonempty call.plaintext
    call.ad
  have moved := encrypt_sessionAt (associatedData call.endpoint)
    (counts call.endpoint) 0 initialized secretNonempty correct.chacha
    call.plaintext call.ad
  refine Prod.ext ?_ ?_
  · simp only [encryptStep, conversationAt, handed, Option.map_some]
    rfl
  · simp only [encryptStep, conversationAt, moved]
    funext endpoint
    by_cases same : endpoint = call.endpoint
    · subst same
      simp only [Function.update_self, conversationAt]
    · simp only [Function.update_of_ne same, conversationAt]

theorem handedPairs_conversationAt
    (counts : Endpoint → ℕ) (calls : List EncryptCall) :
    handedPairs sodium
        (conversationAt sodium sharedSecret associatedData counts) calls =
      (callPositions counts calls).map (pairAt sodium sharedSecret) := by
  induction calls generalizing counts with
  | nil => rfl
  | cons call calls inductionHypothesis =>
      unfold handedPairs at inductionHypothesis ⊢
      rw [Library.Machine.collect_cons,
        encryptStep_conversationAt associatedData initialized secretNonempty
          correct, callPositions, List.map_cons, inductionHypothesis]
      rfl

end Working

/-- No two `encrypt` calls of a conversation hand the AEAD the same key and
nonce if and only if all calls come from one end. -/
theorem handedPairs_nodup_iff
    (sodium : Sodium)
    (sharedSecret : QByteArray)
    (associatedData : Endpoint → QByteArray)
    (calls : List EncryptCall)
    (initialized : sodium.initialized = true)
    (secretNonempty : sharedSecret ≠ [])
    (correct : sodium.AeadCorrect)
    (collisionFree : (ratchetChain sodium).CollisionFreeOn
      ((ratchetChain sodium).messageInputs
        (baseChainKey sodium sharedSecret) calls.length)) :
    (handedPairs sodium
        (freshConversation sodium sharedSecret associatedData)
        calls).Nodup ↔
      ∃ endpoint, ∀ call ∈ calls, call.endpoint = endpoint := by
  have pairs := handedPairs_conversationAt associatedData initialized
    secretNonempty correct (fun _ => 0) calls
  have fresh :
      freshConversation sodium sharedSecret associatedData =
        conversationAt sodium sharedSecret associatedData (fun _ => 0) := rfl
  have positionsBelow :
      ∀ position ∈ callPositions (fun _ => 0) calls,
        position < calls.length :=
    callPositions_lt (by simp)
  rw [fresh, pairs, ← callPositions_nodup_iff 0 calls]
  refine ⟨List.Nodup.of_map _, fun distinct => distinct.map_on ?_⟩
  intro first firstMember second secondMember equal
  exact (ratchetChain sodium).messageKey_inj intLabel_msg_injective
    collisionFree (positionsBelow first firstMember)
    (positionsBelow second secondMember) (congrArg Prod.fst equal)

/-- Two messages of one end satisfy the premises. -/
theorem handedPairs_nodup_iff_two :
    (handedPairs ReferenceSodium.sodium
        (freshConversation ReferenceSodium.sodium [1] fun _ => [2])
        [⟨.alice, [72], []⟩, ⟨.alice, [105], []⟩]).Nodup ↔
      ∃ endpoint,
        ∀ call ∈ [(⟨.alice, [72], []⟩ : EncryptCall), ⟨.alice, [105], []⟩],
          call.endpoint = endpoint := by
  refine handedPairs_nodup_iff ReferenceSodium.sodium [1] (fun _ => [2])
    [⟨.alice, [72], []⟩, ⟨.alice, [105], []⟩] rfl (by simp)
    ReferenceSodium.sodium_aeadCorrect ?_
  exact (ratchetChain ReferenceSodium.sodium).collisionFreeOn_of_nodup
    (by decide +kernel)

/-- The first message of either end is sealed under one key and nonce. -/
theorem handedPairs_first_messages_collide :
    ¬ (handedPairs ReferenceSodium.sodium
        (freshConversation ReferenceSodium.sodium [1] fun _ => [2])
        [⟨.alice, [72], []⟩, ⟨.bob, [105], []⟩]).Nodup := by
  decide +kernel

end DoubleRatchetSession
end Crypto
end VoxDesktop
