import VoxDesktop.Crypto.HkdfSha256
import VoxDesktop.Crypto.RatchetMessage
import VoxDesktop.Library.KeyChain
import VoxDesktop.Library.Machine
import VoxDesktop.Qt.ByteArray

/-!
# Ratchet sessions

The functions of `crypto/DoubleRatchetSession` over explicit session states.
Counters are integers; results about the wire bound them by the range of a C++
`int` where that matters.

The second half is the abstract view.  A session built from a shared secret is
always at a pair of positions, one on the sending and one on the receiving
side of the same key chain: `sessionAt` is that session, and every operation
maps positions to positions.  All further results start from these step
lemmas and do not unfold the operations again.
-/

namespace VoxDesktop
namespace Crypto

open Qt CryptoHelpers

/-- The label `prefix:value`. -/
def intLabel (labelPrefix : String) (value : ℤ) : QByteArray :=
  QByteArray.literal labelPrefix ++ QByteArray.literal ":" ++ number value

structure DoubleRatchetSession where
  m_rootKey : QByteArray
  m_sendChainKey : QByteArray
  m_receiveChainKey : QByteArray
  m_associatedData : QByteArray
  m_sendCounter : ℤ
  m_receiveCounter : ℤ
  deriving DecidableEq

/-- Arguments of one call of `aeadEncrypt` or `aeadDecrypt`. -/
structure AeadCall where
  key : QByteArray
  nonce : QByteArray
  text : QByteArray
  ad : QByteArray
  deriving DecidableEq

namespace DoubleRatchetSession

/-- The HKDF call of `fromSharedSecret`. -/
def baseChainKey (sodium : Sodium) (rootKey : QByteArray) : QByteArray :=
  hkdfSha256 sodium rootKey (QByteArray.literal "vox-ratchet-chain")
    (QByteArray.literal "vox-e2ee-v1/chain") kChaCha20KeyBytes

def fromSharedSecret
    (sodium : Sodium)
    (sharedSecret associatedData : QByteArray) : DoubleRatchetSession where
  m_rootKey := sharedSecret
  m_sendChainKey := baseChainKey sodium sharedSecret
  m_receiveChainKey := baseChainKey sodium sharedSecret
  m_associatedData := associatedData
  m_sendCounter := 0
  m_receiveCounter := 0

section Operations

variable (sodium : Sodium) (session : DoubleRatchetSession)

def nextMessageKey (sending : Bool) (counter : ℤ) : QByteArray :=
  let chain :=
    if sending then session.m_sendChainKey else session.m_receiveChainKey
  hmacSha256 sodium chain (intLabel "msg" counter)

def nextNonce (messageKey : QByteArray) : QByteArray :=
  (hmacSha256 sodium messageKey (QByteArray.literal "nonce")).take
    kChaCha20NonceBytes

def advanceChain (sending : Bool) (counter : ℤ) : DoubleRatchetSession :=
  if sending then
    { session with
      m_sendChainKey :=
        hmacSha256 sodium session.m_sendChainKey (intLabel "chain" counter) }
  else
    { session with
      m_receiveChainKey :=
        hmacSha256 sodium session.m_receiveChainKey
          (intLabel "chain" counter) }

/-- What `encrypt` hands to `aeadEncrypt`; nothing when there is no message
key. -/
def sealCall (plaintext ad : QByteArray) : Option AeadCall :=
  let messageKey := nextMessageKey sodium session true session.m_sendCounter
  if messageKey = [] then none
  else
    some
      { key := messageKey
        nonce := nextNonce sodium messageKey
        text := plaintext
        ad := session.m_associatedData ++ ad }

def encrypt
    (plaintext ad : QByteArray) : Option QByteArray × DoubleRatchetSession :=
  match sealCall sodium session plaintext ad with
  | none => (none, session)
  | some call =>
      let ciphertext :=
        aeadEncrypt sodium call.key call.nonce call.text call.ad
      if ciphertext = [] then (none, session)
      else
        let message : RatchetMessage :=
          ⟨session.m_sendCounter, call.nonce, ciphertext⟩
        let advanced := advanceChain sodium session true session.m_sendCounter
        (some message.serialize,
          { advanced with m_sendCounter := session.m_sendCounter + 1 })

/-- The catch-up loop of `decrypt`, run while the receive counter is below the
target. -/
def catchUp
    (target : ℤ) : ℕ → DoubleRatchetSession → DoubleRatchetSession
  | 0, session => session
  | fuel + 1, session =>
      if session.m_receiveCounter < target then
        let advanced :=
          advanceChain sodium session false session.m_receiveCounter
        catchUp target fuel
          { advanced with m_receiveCounter := session.m_receiveCounter + 1 }
      else session

/-- What `decrypt` hands to `aeadDecrypt` once it has caught up. -/
def openCall (parsed : RatchetMessage) (ad : QByteArray) : AeadCall where
  key := nextMessageKey sodium session false parsed.counter
  nonce := parsed.nonce
  text := parsed.ciphertext
  ad := session.m_associatedData ++ ad

def decrypt
    (serializedMessage ad : QByteArray) :
    Option QByteArray × DoubleRatchetSession :=
  match RatchetMessage.deserialize serializedMessage with
  | none => (none, session)
  | some parsed =>
      if parsed.counter < session.m_receiveCounter then (none, session)
      else
        let caughtUp := catchUp sodium parsed.counter
          (parsed.counter - session.m_receiveCounter).toNat session
        let call := openCall sodium caughtUp parsed ad
        match aeadDecrypt sodium call.key call.nonce call.text call.ad with
        | none => (none, caughtUp)
        | some plaintext =>
            let advanced := advanceChain sodium caughtUp false parsed.counter
            (some plaintext,
              { advanced with m_receiveCounter := parsed.counter + 1 })

/-- What a `decrypt` call hands to `aeadDecrypt`; nothing when it returns
before. -/
def openedCall (serializedMessage ad : QByteArray) : Option AeadCall :=
  match RatchetMessage.deserialize serializedMessage with
  | none => none
  | some parsed =>
      if parsed.counter < session.m_receiveCounter then none
      else
        let caughtUp := catchUp sodium parsed.counter
          (parsed.counter - session.m_receiveCounter).toNat session
        some (openCall sodium caughtUp parsed ad)

end Operations

/-- The two ends of a conversation. -/
inductive Endpoint
  | alice
  | bob
  deriving DecidableEq

def Endpoint.peer : Endpoint → Endpoint
  | alice => bob
  | bob => alice

/-! ## Runs of one session -/

/-- A call of one of the two operations. -/
inductive Call
  | encrypt (plaintext ad : QByteArray)
  | decrypt (serializedMessage ad : QByteArray)

def step
    (sodium : Sodium) (session : DoubleRatchetSession) :
    Call → Option QByteArray × DoubleRatchetSession
  | .encrypt plaintext ad => encrypt sodium session plaintext ad
  | .decrypt serializedMessage ad =>
      decrypt sodium session serializedMessage ad

/-- The session after a sequence of calls on a fresh session. -/
def after
    (sodium : Sodium)
    (sharedSecret associatedData : QByteArray)
    (calls : List Call) : DoubleRatchetSession :=
  Library.Machine.run (step sodium)
    (fromSharedSecret sodium sharedSecret associatedData) calls

/-! ## Positions on the key chain -/

/-- The key chain of the ratchet. -/
def ratchetChain (sodium : Sodium) :
    Library.KeyChain QByteArray QByteArray where
  keyed := hmacSha256 sodium
  advanceLabel := fun position => intLabel "chain" position
  messageLabel := fun position => intLabel "msg" position

/-- Chain key at a position of the chain of a shared secret. -/
def chainKeyAt
    (sodium : Sodium) (sharedSecret : QByteArray) (position : ℕ) :
    QByteArray :=
  (ratchetChain sodium).chainKey (baseChainKey sodium sharedSecret) position

/-- Message key at a position of the chain of a shared secret. -/
def messageKeyAt
    (sodium : Sodium) (sharedSecret : QByteArray) (position : ℕ) :
    QByteArray :=
  (ratchetChain sodium).messageKey (baseChainKey sodium sharedSecret) position

/-- The session that has sent `sent` messages and stands before message
`received` of the other side. -/
def sessionAt
    (sodium : Sodium)
    (sharedSecret associatedData : QByteArray)
    (sent received : ℕ) : DoubleRatchetSession where
  m_rootKey := sharedSecret
  m_sendChainKey := chainKeyAt sodium sharedSecret sent
  m_receiveChainKey := chainKeyAt sodium sharedSecret received
  m_associatedData := associatedData
  m_sendCounter := sent
  m_receiveCounter := received

variable {sodium : Sodium} {sharedSecret associatedData : QByteArray}
  {sent received : ℕ}

theorem fromSharedSecret_eq_sessionAt :
    fromSharedSecret sodium sharedSecret associatedData =
      sessionAt sodium sharedSecret associatedData 0 0 := rfl

theorem intLabel_msg_injective :
    Function.Injective fun position : ℕ => intLabel "msg" position := by
  intro first second equal
  exact number_natCast_injective (List.append_cancel_left equal)

/-- A message key is empty only when HMAC refuses its empty chain key. -/
theorem length_messageKeyAt
    (initialized : sodium.initialized = true)
    (secretNonempty : sharedSecret ≠ [])
    (position : ℕ) :
    (messageKeyAt sodium sharedSecret position).length =
      kChaCha20KeyBytes := by
  have chainKeyNonempty :
      chainKeyAt sodium sharedSecret position ≠ [] := by
    have saltNonempty : QByteArray.literal "vox-ratchet-chain" ≠ [] := by
      decide
    have keyed : ∀ {key : QByteArray} (data : QByteArray),
        key ≠ [] → hmacSha256 sodium key data ≠ [] := by
      intro key data keyNonempty empty
      have size := length_hmacSha256 data initialized keyNonempty
      simp [empty] at size
    unfold chainKeyAt
    induction position with
    | zero =>
        change baseChainKey sodium sharedSecret ≠ []
        unfold baseChainKey
        rw [hkdfSha256_one_block _ initialized secretNonempty saltNonempty]
        exact keyed _ (keyed _ saltNonempty)
    | succ position inductionHypothesis =>
        rw [Library.KeyChain.chainKey_succ]
        exact keyed _ inductionHypothesis
  exact length_hmacSha256 _ initialized chainKeyNonempty

theorem advanceChain_receiving :
    advanceChain sodium
        (sessionAt sodium sharedSecret associatedData sent received) false
        received =
      { sessionAt sodium sharedSecret associatedData sent (received + 1) with
        m_receiveCounter := received } := rfl

/-- The loop reaches its target: fuel for the whole gap is enough. -/
theorem catchUp_sessionAt (gap : ℕ) :
    catchUp sodium ((received + gap : ℕ) : ℤ) gap
        (sessionAt sodium sharedSecret associatedData sent received) =
      sessionAt sodium sharedSecret associatedData sent
        (received + gap) := by
  induction gap generalizing received with
  | zero => rfl
  | succ gap inductionHypothesis =>
      have below :
          (sessionAt sodium sharedSecret associatedData sent
            received).m_receiveCounter < ((received + (gap + 1) : ℕ) : ℤ) := by
        change (received : ℤ) < ((received + (gap + 1) : ℕ) : ℤ)
        omega
      have next :
          { sessionAt sodium sharedSecret associatedData sent
              (received + 1) with
            m_receiveCounter := (received : ℤ) + 1 } =
          sessionAt sodium sharedSecret associatedData sent
            (received + 1) := rfl
      have counterEq :
          (sessionAt sodium sharedSecret associatedData sent
            received).m_receiveCounter = received := rfl
      rw [catchUp, if_pos below, counterEq, advanceChain_receiving]
      dsimp only
      rw [next, show received + (gap + 1) = received + 1 + gap by omega]
      exact inductionHypothesis

/-- What `encrypt` hands to the AEAD at a position. -/
theorem sealCall_sessionAt (plaintext ad : QByteArray) :
    sealCall sodium
        (sessionAt sodium sharedSecret associatedData sent received)
        plaintext ad =
      if messageKeyAt sodium sharedSecret sent = [] then none
      else
        some
          { key := messageKeyAt sodium sharedSecret sent
            nonce := nextNonce sodium (messageKeyAt sodium sharedSecret sent)
            text := plaintext
            ad := associatedData ++ ad } := rfl

/-- Encryption either fails and changes nothing, or seals under the message
key of the current position and moves the sending side by one. -/
theorem encrypt_cases
    (sodium : Sodium)
    (sharedSecret associatedData : QByteArray)
    (sent received : ℕ)
    (plaintext ad : QByteArray) :
    (encrypt sodium
        (sessionAt sodium sharedSecret associatedData sent received)
        plaintext ad =
      (none, sessionAt sodium sharedSecret associatedData sent received)) ∨
    ∃ call,
      sealCall sodium
          (sessionAt sodium sharedSecret associatedData sent received)
          plaintext ad = some call ∧
        aeadEncrypt sodium call.key call.nonce call.text call.ad ≠ [] ∧
        encrypt sodium
            (sessionAt sodium sharedSecret associatedData sent received)
            plaintext ad =
          (some (RatchetMessage.serialize
            ⟨sent, call.nonce,
              aeadEncrypt sodium call.key call.nonce call.text call.ad⟩),
          sessionAt sodium sharedSecret associatedData (sent + 1)
            received) := by
  cases handed : sealCall sodium
      (sessionAt sodium sharedSecret associatedData sent received)
      plaintext ad with
  | none =>
      left
      simp [encrypt, handed]
  | some call =>
      by_cases refused :
          aeadEncrypt sodium call.key call.nonce call.text call.ad = []
      · left
        simp [encrypt, handed, refused]
      · right
        refine ⟨call, rfl, refused, ?_⟩
        simp only [encrypt, handed, refused, if_false]
        rfl

/-- The AEAD call of the message at a position. -/
def sealCallAt
    (sodium : Sodium)
    (sharedSecret associatedData : QByteArray)
    (position : ℕ) (plaintext ad : QByteArray) : AeadCall where
  key := messageKeyAt sodium sharedSecret position
  nonce := nextNonce sodium (messageKeyAt sodium sharedSecret position)
  text := plaintext
  ad := associatedData ++ ad

/-- The message at a position. -/
def messageAt
    (sodium : Sodium)
    (sharedSecret associatedData : QByteArray)
    (position : ℕ) (plaintext ad : QByteArray) : RatchetMessage :=
  let call :=
    sealCallAt sodium sharedSecret associatedData position plaintext ad
  ⟨position, call.nonce,
    aeadEncrypt sodium call.key call.nonce call.text call.ad⟩

theorem length_nextNonce
    {messageKey : QByteArray}
    (initialized : sodium.initialized = true)
    (keyNonempty : messageKey ≠ []) :
    (nextNonce sodium messageKey).length = kChaCha20NonceBytes := by
  have digestSize := length_hmacSha256
    (QByteArray.literal "nonce") initialized keyNonempty
  simp [nextNonce, digestSize, kSha256Bytes, kChaCha20NonceBytes]

section Working

variable (associatedData sent received)
  (initialized : sodium.initialized = true)
  (secretNonempty : sharedSecret ≠ [])
  (correct : sodium.chacha20poly1305.Correct
    kChaCha20KeyBytes kChaCha20NonceBytes kChaCha20TagBytes)

include initialized secretNonempty

theorem messageKeyAt_ne_nil (position : ℕ) :
    messageKeyAt sodium sharedSecret position ≠ [] := by
  intro empty
  have size := length_messageKeyAt initialized secretNonempty position
  simp [empty] at size

theorem sealCall_eq_sealCallAt (plaintext ad : QByteArray) :
    sealCall sodium
        (sessionAt sodium sharedSecret associatedData sent received)
        plaintext ad =
      some (sealCallAt sodium sharedSecret associatedData sent
        plaintext ad) := by
  rw [sealCall_sessionAt,
    if_neg (messageKeyAt_ne_nil initialized secretNonempty sent)]
  rfl

include correct

/-- With a correct AEAD the call of a position seals and opens again. -/
theorem sealCallAt_opens
    (position : ℕ) (plaintext ad : QByteArray) :
    let call :=
      sealCallAt sodium sharedSecret associatedData position plaintext ad
    (aeadEncrypt sodium call.key call.nonce call.text call.ad).length =
        plaintext.length + kChaCha20TagBytes ∧
      aeadDecrypt sodium call.key call.nonce
        (aeadEncrypt sodium call.key call.nonce call.text call.ad) call.ad =
          some plaintext :=
  openWith_sealWith plaintext (associatedData ++ ad) correct initialized
    (length_messageKeyAt initialized secretNonempty position)
    (length_nextNonce initialized
      (messageKeyAt_ne_nil initialized secretNonempty position))

/-- With a correct AEAD every encryption succeeds and moves the sending side
by one. -/
theorem encrypt_sessionAt (plaintext ad : QByteArray) :
    encrypt sodium
        (sessionAt sodium sharedSecret associatedData sent received)
        plaintext ad =
      (some (messageAt sodium sharedSecret associatedData sent
        plaintext ad).serialize,
      sessionAt sodium sharedSecret associatedData (sent + 1) received) := by
  have handed := sealCall_eq_sealCallAt associatedData sent received
    initialized secretNonempty plaintext ad
  have size := (sealCallAt_opens associatedData initialized secretNonempty
    correct sent plaintext ad).1
  have sealed :
      aeadEncrypt sodium
        (sealCallAt sodium sharedSecret associatedData sent plaintext ad).key
        (sealCallAt sodium sharedSecret associatedData sent
          plaintext ad).nonce
        (sealCallAt sodium sharedSecret associatedData sent
          plaintext ad).text
        (sealCallAt sodium sharedSecret associatedData sent
          plaintext ad).ad ≠ [] := by
    intro empty
    simp [empty] at size
  simp only [encrypt, handed, sealed, if_false]
  rfl

end Working

/-- The loop of `decrypt` ends at the position the header names. -/
theorem catchUp_to_position
    {position : ℕ}
    (notOld : received ≤ position) :
    catchUp sodium position ((position : ℤ) - received).toNat
        (sessionAt sodium sharedSecret associatedData sent received) =
      sessionAt sodium sharedSecret associatedData sent position := by
  obtain ⟨gap, rfl⟩ := Nat.exists_eq_add_of_le notOld
  rw [show (((received + gap : ℕ) : ℤ) - received).toNat = gap by omega]
  exact catchUp_sessionAt gap

/-- The key handed to the AEAD is the message key of the position in the
header. -/
theorem openedCall_sessionAt
    {serializedMessage ad : QByteArray} {parsed : RatchetMessage}
    {position : ℕ}
    (parsedEq : RatchetMessage.deserialize serializedMessage = some parsed)
    (counterEq : parsed.counter = position)
    (notOld : received ≤ position) :
    openedCall sodium
        (sessionAt sodium sharedSecret associatedData sent received)
        serializedMessage ad =
      some
        { key := messageKeyAt sodium sharedSecret position
          nonce := parsed.nonce
          text := parsed.ciphertext
          ad := associatedData ++ ad } := by
  have counterHere :
      (sessionAt sodium sharedSecret associatedData sent
        received).m_receiveCounter = received := rfl
  have notOldHere : ¬ (position : ℤ) < received := by omega
  simp only [openedCall, parsedEq, counterHere, counterEq, notOldHere,
    if_false, catchUp_to_position notOld]
  simp only [openCall, counterEq]
  rfl

/-- What `decrypt` does at a position: it drops short and old messages,
otherwise it moves to the position named by the header before it opens the
message, and one further when the message opens. -/
theorem decrypt_cases
    (sodium : Sodium)
    (sharedSecret associatedData : QByteArray)
    (sent received : ℕ)
    (serializedMessage ad : QByteArray) :
    let session :=
      sessionAt sodium sharedSecret associatedData sent received
    let result := decrypt sodium session serializedMessage ad
    (RatchetMessage.deserialize serializedMessage = none ∧
      result = (none, session)) ∨
    ∃ parsed,
      RatchetMessage.deserialize serializedMessage = some parsed ∧
      ((parsed.counter < received ∧ result = (none, session)) ∨
      ∃ position : ℕ, parsed.counter = position ∧ received ≤ position ∧
        let caughtUp :=
          sessionAt sodium sharedSecret associatedData sent position
        let call := openCall sodium caughtUp parsed ad
        (aeadDecrypt sodium call.key call.nonce call.text call.ad = none ∧
          result = (none, caughtUp)) ∨
        ∃ plaintext,
          aeadDecrypt sodium call.key call.nonce call.text call.ad =
            some plaintext ∧
          result = (some plaintext,
            sessionAt sodium sharedSecret associatedData sent
              (position + 1))) := by
  intro session result
  cases parsedEq : RatchetMessage.deserialize serializedMessage with
  | none =>
      left
      exact ⟨rfl, by simp [result, decrypt, parsedEq]⟩
  | some parsed =>
      right
      refine ⟨parsed, rfl, ?_⟩
      by_cases old : parsed.counter < (received : ℤ)
      · left
        refine ⟨old, ?_⟩
        have oldHere : parsed.counter < session.m_receiveCounter := old
        simp [result, decrypt, parsedEq, oldHere]
      · right
        obtain ⟨position, counterEq⟩ : ∃ position : ℕ,
            parsed.counter = position :=
          ⟨parsed.counter.toNat, by omega⟩
        have notOld : received ≤ position := by omega
        refine ⟨position, counterEq, notOld, ?_⟩
        have notOldHere : ¬ parsed.counter < session.m_receiveCounter := old
        have caughtUpEq :
            catchUp sodium parsed.counter
                (parsed.counter - session.m_receiveCounter).toNat session =
              sessionAt sodium sharedSecret associatedData sent position := by
          rw [counterEq]
          exact catchUp_to_position notOld
        intro caughtUp call
        cases opened :
            aeadDecrypt sodium call.key call.nonce call.text call.ad with
        | none =>
            left
            refine ⟨rfl, ?_⟩
            simp only [result, decrypt, parsedEq, notOldHere, if_false,
              caughtUpEq]
            simp only [call, caughtUp] at opened
            rw [opened]
        | some plaintext =>
            right
            refine ⟨plaintext, rfl, ?_⟩
            simp only [result, decrypt, parsedEq, notOldHere, if_false,
              caughtUpEq]
            simp only [call, caughtUp] at opened
            rw [opened]
            simp only [counterEq, advanceChain_receiving]
            rfl

/-- Every call moves positions to positions and no call moves the receiving
side back. -/
theorem step_sessionAt (call : Call) :
    ∃ sentNext receivedNext, received ≤ receivedNext ∧
      (step sodium
          (sessionAt sodium sharedSecret associatedData sent received)
          call).2 =
        sessionAt sodium sharedSecret associatedData sentNext
          receivedNext := by
  cases call with
  | encrypt plaintext ad =>
      rcases encrypt_cases sodium sharedSecret associatedData sent received
          plaintext ad with
        unchanged | ⟨call, _, _, advanced⟩
      · exact ⟨sent, received, le_rfl, congrArg Prod.snd unchanged⟩
      · exact ⟨sent + 1, received, le_rfl, congrArg Prod.snd advanced⟩
  | decrypt serializedMessage ad =>
      rcases decrypt_cases sodium sharedSecret associatedData sent received
          serializedMessage ad with
        ⟨_, unchanged⟩ | ⟨parsed, _, ⟨_, unchanged⟩ |
          ⟨position, _, notOld, ⟨_, moved⟩ | ⟨plaintext, _, moved⟩⟩⟩
      · exact ⟨sent, received, le_rfl, congrArg Prod.snd unchanged⟩
      · exact ⟨sent, received, le_rfl, congrArg Prod.snd unchanged⟩
      · exact ⟨sent, position, notOld, congrArg Prod.snd moved⟩
      · exact ⟨sent, position + 1, by omega, congrArg Prod.snd moved⟩

theorem run_sessionAt (sent received : ℕ) (calls : List Call) :
    ∃ sentNext receivedNext, received ≤ receivedNext ∧
      Library.Machine.run (step sodium)
          (sessionAt sodium sharedSecret associatedData sent received)
          calls =
        sessionAt sodium sharedSecret associatedData sentNext
          receivedNext := by
  refine Library.Machine.run_invariant
    (fun session => ∃ sentNext receivedNext, received ≤ receivedNext ∧
      session =
        sessionAt sodium sharedSecret associatedData sentNext receivedNext)
    ?_ ⟨sent, received, le_rfl, rfl⟩ calls
  rintro session call ⟨sentNow, receivedNow, forward, rfl⟩
  obtain ⟨sentNext, receivedNext, further, moved⟩ := step_sessionAt call
  exact ⟨sentNext, receivedNext, forward.trans further, moved⟩

/-- Every session reached from a shared secret stands at some pair of
positions. -/
theorem after_eq_sessionAt
    (sodium : Sodium)
    (sharedSecret associatedData : QByteArray)
    (calls : List Call) :
    ∃ sent received,
      after sodium sharedSecret associatedData calls =
        sessionAt sodium sharedSecret associatedData sent received := by
  obtain ⟨sent, received, _, reached⟩ :=
    @run_sessionAt sodium sharedSecret associatedData 0 0 calls
  refine ⟨sent, received, ?_⟩
  rw [after, fromSharedSecret_eq_sessionAt]
  exact reached

end DoubleRatchetSession
end Crypto
end VoxDesktop
