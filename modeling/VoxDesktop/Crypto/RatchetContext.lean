import VoxDesktop.Crypto.RatchetChannel
import VoxDesktop.Crypto.RatchetExchange

/-!
# The context of a message

A message is sealed under the associated data of its session followed by its
own.  What is bound is the concatenation: a receiver with other associated
data accepts the message exactly when the two concatenations are the same,
wherever they are divided.
-/

namespace VoxDesktop
namespace Crypto
namespace DoubleRatchetSession

open Qt CryptoHelpers Library

section Sender

variable {sodium : Sodium} {sharedSecret associatedData : QByteArray}
  {sent received : ℕ} {plaintext ad message : QByteArray}

/-- HMAC refuses the empty chain keys of an empty secret. -/
theorem messageKeyAt_of_empty (position : ℕ) :
    messageKeyAt sodium [] position = [] := by
  have refused : ∀ data, hmacSha256 sodium [] data = [] :=
    fun data => if_pos (Or.inr rfl)
  have chainKeys : chainKeyAt sodium [] position = [] := by
    unfold chainKeyAt
    induction position with
    | zero =>
        change baseChainKey sodium [] = []
        rw [baseChainKey, hkdfSha256, if_pos (Or.inr rfl)]
    | succ position inductionHypothesis =>
        rw [KeyChain.chainKey_succ, inductionHypothesis]
        exact refused _
  unfold messageKeyAt KeyChain.messageKey
  unfold chainKeyAt at chainKeys
  rw [chainKeys]
  exact refused _

/-- A session that encrypts has a library and a secret. -/
theorem working_of_encrypt
    (encrypted :
      (encrypt sodium
        (sessionAt sodium sharedSecret associatedData sent received)
        plaintext ad).1 = some message) :
    sodium.initialized = true ∧ sharedSecret ≠ [] := by
  rcases encrypt_cases sodium sharedSecret associatedData sent received
      plaintext ad with
    unchanged | ⟨call, handed, sealed, _⟩
  · rw [unchanged] at encrypted
    contradiction
  · refine ⟨(sealWith_ne_nil sealed).1, ?_⟩
    rintro rfl
    rw [sealCall_sessionAt, if_pos (messageKeyAt_of_empty sent)] at handed
    contradiction

/-- The message of a position depends on the concatenation only. -/
theorem messageAt_congr
    {otherData otherAd : QByteArray} (position : ℕ)
    (same : associatedData ++ ad = otherData ++ otherAd) :
    messageAt sodium sharedSecret associatedData position plaintext ad =
      messageAt sodium sharedSecret otherData position plaintext
        otherAd := by
  unfold messageAt sealCallAt
  rw [same]

/-- What `decrypt` accepts it has handed to the AEAD, under the associated
data of the session followed by its own. -/
theorem openedCall_of_accepted
    {text : QByteArray}
    (accepted :
      (decrypt sodium
        (sessionAt sodium sharedSecret associatedData sent received)
        message ad).1 = some text) :
    ∃ call,
      openedCall sodium
          (sessionAt sodium sharedSecret associatedData sent received)
          message ad = some call ∧
        call.ad = associatedData ++ ad ∧
        aeadDecrypt sodium call.key call.nonce call.text call.ad =
          some text := by
  rcases decrypt_cases sodium sharedSecret associatedData sent received
      message ad with
    ⟨_, refused⟩ | ⟨parsed, parsedEq, ⟨_, refused⟩ |
      ⟨position, counterEq, notOld, ⟨_, refused⟩ | ⟨opened, opens, result⟩⟩⟩
  · rw [refused] at accepted
    contradiction
  · rw [refused] at accepted
    contradiction
  · rw [refused] at accepted
    contradiction
  · rw [result] at accepted
    obtain rfl := Option.some.inj accepted
    refine ⟨_, openedCall_sessionAt parsedEq counterEq notOld, rfl, ?_⟩
    simp only [openCall, counterEq] at opens
    exact opens

end Sender

/-- A message of a reachable session is accepted by a fresh session of the
same secret if and only if both have the same concatenation of associated
data; sessions whose associated data have the same length then have the same
associated data, and the messages as well. -/
theorem accepted_iff_concatenation_eq
    (sodium : Sodium)
    (sharedSecret associatedData otherData : QByteArray)
    (calls : List Call)
    (plaintext ad otherAd message : QByteArray)
    (correct : sodium.AeadCorrect)
    (counterBound :
      (after sodium sharedSecret associatedData calls).m_sendCounter <
        2147483647)
    (encrypted :
      (encrypt sodium (after sodium sharedSecret associatedData calls)
        plaintext ad).1 = some message)
    (unforged : Unforged sodium
      (sealCall sodium (after sodium sharedSecret associatedData calls)
        plaintext ad).toList
      (openedCall sodium (fromSharedSecret sodium sharedSecret otherData)
        message otherAd).toList) :
    let accepted :=
      (decrypt sodium (fromSharedSecret sodium sharedSecret otherData)
        message otherAd).1.isSome = true
    (accepted ↔ associatedData ++ ad = otherData ++ otherAd) ∧
      (accepted → associatedData.length = otherData.length →
        associatedData = otherData ∧ ad = otherAd) := by
  intro accepted
  obtain ⟨sent, received, reached⟩ :=
    after_eq_sessionAt sodium sharedSecret associatedData calls
  rw [reached] at encrypted counterBound unforged
  obtain ⟨initialized, secretNonempty⟩ := working_of_encrypt encrypted
  have sealed := encrypt_sessionAt associatedData sent received initialized
    secretNonempty correct.chacha plaintext ad
  have handed := sealCall_eq_sealCallAt associatedData sent received
    initialized secretNonempty plaintext ad
  rw [sealed] at encrypted
  obtain rfl := Option.some.inj encrypted
  have exact : accepted ↔ associatedData ++ ad = otherData ++ otherAd := by
    constructor
    · intro opens
      obtain ⟨text, opened⟩ := Option.isSome_iff_exists.mp opens
      obtain ⟨call, callEq, callAd, decrypts⟩ :=
        @openedCall_of_accepted sodium sharedSecret otherData 0 0 otherAd _ _
          opened
      have member : call ∈ (openedCall sodium
          (fromSharedSecret sodium sharedSecret otherData) _
          otherAd).toList :=
        Option.mem_toList.mpr callEq
      obtain ⟨made, madeMember, _, _, sameAd, _⟩ :=
        unforged call member text decrypts
      rw [handed, Option.toList_some, List.mem_singleton] at madeMember
      subst madeMember
      exact sameAd.trans callAd
    · intro same
      have opens := decrypt_messageAt otherData initialized secretNonempty
        correct.chacha 0 (Int.ofNat_lt.mp counterBound)
        (Nat.zero_le sent) plaintext otherAd
      rw [← messageAt_congr sent same] at opens
      exact congrArg (fun result => result.1.isSome) opens
  refine ⟨exact, fun opens sameLength => ?_⟩
  exact List.append_inj (exact.mp opens) sameLength

section Examples

/-- Two ends with the same associated data, where the message is
accepted. -/
theorem accepted_under_same_context :
    let session := after ReferenceSodium.sodium [1] [2, 3] []
    let message :=
      ((encrypt ReferenceSodium.sodium session [72] [4]).1).getD []
    (decrypt ReferenceSodium.sodium
      (fromSharedSecret ReferenceSodium.sodium [1] [2, 3]) message
        [4]).1.isSome = true := by
  intro session message
  have encrypted :
      (encrypt ReferenceSodium.sodium session [72] [4]).1 =
        some message := by
    decide +kernel
  have matched :
      ∀ opened ∈ (openedCall ReferenceSodium.sodium
          (fromSharedSecret ReferenceSodium.sodium [1] [2, 3]) message
          [4]).toList,
        (aeadDecrypt ReferenceSodium.sodium opened.key opened.nonce
            opened.text opened.ad).isSome = true →
          ∃ made ∈ (sealCall ReferenceSodium.sodium session [72]
              [4]).toList,
            made.key = opened.key ∧ made.nonce = opened.nonce ∧
              made.ad = opened.ad ∧
              aeadEncrypt ReferenceSodium.sodium made.key made.nonce
                made.text made.ad = opened.text := by
    decide +kernel
  exact (accepted_iff_concatenation_eq ReferenceSodium.sodium [1] [2, 3]
    [2, 3] [] [72] [4] [4] message ReferenceSodium.sodium_aeadCorrect
    (by decide +kernel) encrypted fun opened member text opens =>
      matched opened member (by rw [opens]; rfl)).1.mpr rfl

/-- A message sealed under `[1]` followed by `[2, 3]` is accepted under
`[1, 2]` followed by `[3]`. -/
theorem accepted_under_divided_context :
    let session := after ReferenceSodium.sodium [7] [1] []
    let message :=
      ((encrypt ReferenceSodium.sodium session [72] [2, 3]).1).getD []
    let receiver := fromSharedSecret ReferenceSodium.sodium [7] [1, 2]
    (encrypt ReferenceSodium.sodium session [72] [2, 3]).1 = some message ∧
      (openedCall ReferenceSodium.sodium receiver message [3]).map
          AeadCall.ad =
        (sealCall ReferenceSodium.sodium session [72] [2, 3]).map
          AeadCall.ad ∧
      (decrypt ReferenceSodium.sodium receiver message [3]).1 = some [72] ∧
      ([1] : QByteArray) ≠ [1, 2] ∧ ([2, 3] : QByteArray) ≠ [3] := by
  decide +kernel

end Examples

end DoubleRatchetSession
end Crypto
end VoxDesktop
