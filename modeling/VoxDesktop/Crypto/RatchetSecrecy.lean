import VoxDesktop.Crypto.DoubleRatchetSession
import VoxDesktop.Crypto.ReferenceSodium
import VoxDesktop.Library.Derivation

/-!
# What a captured session gives away

An observer who has captured a session object knows all of its fields and the
public labels, and may apply HMAC and HKDF.  Chain keys are overwritten as the
chains move, but `m_rootKey` stays in the object for its whole life although
no operation reads it again.  It is the secret both chains start from, so
every message key of either direction can be derived from a captured session,
however far the session has moved.
-/

namespace VoxDesktop
namespace Crypto
namespace DoubleRatchetSession

open Qt CryptoHelpers Library

/-- The strings the session code uses as salts, infos and labels. -/
inductive PublicLabel : QByteArray → Prop
  | chainSalt : PublicLabel (QByteArray.literal "vox-ratchet-chain")
  | chainInfo : PublicLabel (QByteArray.literal "vox-e2ee-v1/chain")
  | nonce : PublicLabel (QByteArray.literal "nonce")
  | message (counter : ℤ) : PublicLabel (intLabel "msg" counter)
  | chain (counter : ℤ) : PublicLabel (intLabel "chain" counter)

/-- What the observer may compute: HMAC, and HKDF to any length. -/
def observerRules (sodium : Sodium) : RuleSet QByteArray :=
  { rule | ∃ key data, rule = ([key, data], hmacSha256 sodium key data) } ∪
  { rule | ∃ ikm salt info outputLen,
      rule = ([ikm, salt, info], hkdfSha256 sodium ikm salt info outputLen) }

/-- The observer knows the octet strings held by the session, its counters in
print and the labels. -/
def captured (session : DoubleRatchetSession) : Set QByteArray :=
  { value | value = session.m_rootKey ∨ value = session.m_sendChainKey ∨
      value = session.m_receiveChainKey ∨
      value = session.m_associatedData ∨
      value = number session.m_sendCounter ∨
      value = number session.m_receiveCounter ∨ PublicLabel value }

/-- The message key of a call that sent or received a message. -/
def usedKey
    (sodium : Sodium) (session : DoubleRatchetSession) :
    Call → Option QByteArray
  | .encrypt plaintext ad =>
      if (encrypt sodium session plaintext ad).1 = none then none
      else (sealCall sodium session plaintext ad).map AeadCall.key
  | .decrypt serializedMessage ad =>
      if (decrypt sodium session serializedMessage ad).1 = none then none
      else (openedCall sodium session serializedMessage ad).map AeadCall.key

/-- Message keys of all messages sent or received in a run. -/
def usedKeys
    (sodium : Sodium)
    (session : DoubleRatchetSession)
    (calls : List Call) : List QByteArray :=
  Machine.collect
    (fun current call =>
      (usedKey sodium current call, (step sodium current call).2))
    session calls

variable {sodium : Sodium} {sharedSecret associatedData : QByteArray}
  {sent received : ℕ}

/-- A call that uses a key uses the message key of some position. -/
theorem usedKey_sessionAt
    {call : Call} {key : QByteArray}
    (used :
      usedKey sodium
        (sessionAt sodium sharedSecret associatedData sent received) call =
          some key) :
    ∃ position, key = messageKeyAt sodium sharedSecret position := by
  cases call with
  | encrypt plaintext ad =>
      simp only [usedKey, sealCall_sessionAt] at used
      split at used
      · contradiction
      · split at used
        · contradiction
        · exact ⟨sent, (Option.some.inj used).symm⟩
  | decrypt serializedMessage ad =>
      rcases decrypt_cases sodium sharedSecret associatedData sent received
          serializedMessage ad with
        ⟨_, dropped⟩ | ⟨parsed, parsedEq, ⟨_, dropped⟩ |
          ⟨position, counterEq, notOld, _⟩⟩
      · simp [usedKey, dropped] at used
      · simp [usedKey, dropped] at used
      · simp only [usedKey,
          openedCall_sessionAt parsedEq counterEq notOld] at used
        split at used
        · contradiction
        · exact ⟨position, (Option.some.inj used).symm⟩

theorem usedKeys_fresh
    {calls : List Call} {key : QByteArray}
    (used :
      key ∈ usedKeys sodium
        (fromSharedSecret sodium sharedSecret associatedData) calls) :
    ∃ position, key = messageKeyAt sodium sharedSecret position := by
  refine Machine.collect_forall
    (fun session => ∃ sent received,
      session = sessionAt sodium sharedSecret associatedData sent received)
    (fun key => ∃ position,
      key = messageKeyAt sodium sharedSecret position)
    ?_ ⟨0, 0, fromSharedSecret_eq_sessionAt⟩ calls key used
  rintro session call ⟨sent, received, rfl⟩
  obtain ⟨sentNext, receivedNext, _, moved⟩ := step_sessionAt call
  exact ⟨fun key used => usedKey_sessionAt used, sentNext, receivedNext,
    moved⟩

/-- The secret of the session is enough to derive every message key. -/
theorem messageKeyAt_derivable
    {known : Set QByteArray}
    (secretKnown : sharedSecret ∈ known)
    (labelsKnown : ∀ label, PublicLabel label → label ∈ known)
    (position : ℕ) :
    Derivable (observerRules sodium) known
      (messageKeyAt sodium sharedSecret position) := by
  have derivedLabel : ∀ {label}, PublicLabel label →
      Derivable (observerRules sodium) known label :=
    fun isLabel => .known (labelsKnown _ isLabel)
  have keyedRule : ∀ key label,
      ([key, label], (ratchetChain sodium).keyed key label) ∈
        observerRules sodium :=
    fun key label => Or.inl ⟨key, label, rfl⟩
  have baseRule :
      ([sharedSecret, QByteArray.literal "vox-ratchet-chain",
          QByteArray.literal "vox-e2ee-v1/chain"],
        baseChainKey sodium sharedSecret) ∈ observerRules sodium :=
    Or.inr ⟨_, _, _, _, rfl⟩
  refine KeyChain.messageKey_derivable keyedRule ?_
    (fun position => derivedLabel (.chain position))
    (fun position => derivedLabel (.message position)) position
  refine .apply baseRule ?_
  intro premise member
  simp only [List.mem_cons, List.not_mem_nil, or_false] at member
  rcases member with rfl | rfl | rfl
  · exact .known secretKnown
  · exact derivedLabel .chainSalt
  · exact derivedLabel .chainInfo

/-- Every reachable session still holds the secret it was built from. -/
theorem secret_mem_captured (calls : List Call) :
    sharedSecret ∈
      captured (after sodium sharedSecret associatedData calls) := by
  obtain ⟨sent, received, reached⟩ :=
    after_eq_sessionAt sodium sharedSecret associatedData calls
  rw [reached]
  exact Or.inl rfl

theorem label_mem_captured
    {session : DoubleRatchetSession} {label : QByteArray}
    (isLabel : PublicLabel label) :
    label ∈ captured session :=
  Or.inr (Or.inr (Or.inr (Or.inr (Or.inr (Or.inr isLabel)))))

/-- The key of every message that a session has sent or received can be
derived from the session as it stands afterwards. -/
theorem usedKeys_derivable_from_captured
    (sodium : Sodium)
    (sharedSecret associatedData : QByteArray)
    (calls : List Call) :
    ∀ key ∈ usedKeys sodium
        (fromSharedSecret sodium sharedSecret associatedData) calls,
      Derivable (observerRules sodium)
        (captured (after sodium sharedSecret associatedData calls)) key := by
  intro key used
  obtain ⟨position, rfl⟩ := usedKeys_fresh used
  exact messageKeyAt_derivable (secret_mem_captured calls)
    (fun _ => label_mem_captured) position

/-- The key of the first message of a session, from the session after it. -/
theorem usedKeys_derivable_from_captured_first :
    messageKeyAt ReferenceSodium.sodium [1] 0 ∈
        usedKeys ReferenceSodium.sodium
          (fromSharedSecret ReferenceSodium.sodium [1] [2])
          [.encrypt [72, 105] []] ∧
      Derivable (observerRules ReferenceSodium.sodium)
        (captured (after ReferenceSodium.sodium [1] [2]
          [.encrypt [72, 105] []]))
        (messageKeyAt ReferenceSodium.sodium [1] 0) := by
  have used :
      messageKeyAt ReferenceSodium.sodium [1] 0 ∈
        usedKeys ReferenceSodium.sodium
          (fromSharedSecret ReferenceSodium.sodium [1] [2])
          [.encrypt [72, 105] []] := by
    decide +kernel
  exact ⟨used, usedKeys_derivable_from_captured ReferenceSodium.sodium
    [1] [2] [.encrypt [72, 105] []] _ used⟩

/-- One message sent, and its key follows from what is left in the object. -/
theorem usedKeys_first_message_exposed :
    let calls := [Call.encrypt [72, 105] []]
    ¬ ∀ key ∈ usedKeys ReferenceSodium.sodium
        (fromSharedSecret ReferenceSodium.sodium [1] [2]) calls,
      ¬ Derivable (observerRules ReferenceSodium.sodium)
        (captured (after ReferenceSodium.sodium [1] [2] calls)) key := by
  intro calls secrecy
  have used :
      messageKeyAt ReferenceSodium.sodium [1] 0 ∈
        usedKeys ReferenceSodium.sodium
          (fromSharedSecret ReferenceSodium.sodium [1] [2]) calls := by
    decide +kernel
  exact secrecy _ used (messageKeyAt_derivable (secret_mem_captured calls)
    (fun _ => label_mem_captured) 0)

end DoubleRatchetSession
end Crypto
end VoxDesktop
