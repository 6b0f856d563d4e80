import VoxDesktop.Crypto.CryptoHelpers

/-!
# Wire format of ratchet messages

A message is a four-octet big-endian counter, a twelve-octet nonce and the
ciphertext with its tag.  The counter is a signed 32-bit integer that crosses
the wire as its unsigned two's-complement word.
-/

namespace VoxDesktop
namespace Crypto

open Qt

abbrev kRatchetCounterBytes : ℕ := 4
abbrev kRatchetHeaderBytes : ℕ := kRatchetCounterBytes + kChaCha20NonceBytes
abbrev kRatchetMinSerializedBytes : ℕ :=
  kRatchetHeaderBytes + kChaCha20TagBytes

/-- Big-endian octets of a 32-bit word. -/
def qToBigEndian (word : ℕ) : QByteArray :=
  [UInt8.ofNat (word / 16777216), UInt8.ofNat (word / 65536 % 256),
    UInt8.ofNat (word / 256 % 256), UInt8.ofNat (word % 256)]

/-- The word held by big-endian octets. -/
def qFromBigEndian (octets : QByteArray) : ℕ :=
  octets.foldl (fun word octet => word * 256 + octet.toNat) 0

/-- `static_cast<quint32>` of an `int`. -/
def toQuint32 (value : ℤ) : ℕ := (value % 4294967296).toNat

/-- `static_cast<int>` of a `quint32`. -/
def ofQuint32 (word : ℕ) : ℤ :=
  if word < 2147483648 then word else (word : ℤ) - 4294967296

structure RatchetMessage where
  counter : ℤ
  nonce : QByteArray
  ciphertext : QByteArray
  deriving DecidableEq

namespace RatchetMessage

def serialize (message : RatchetMessage) : QByteArray :=
  qToBigEndian (toQuint32 message.counter) ++ message.nonce ++
    message.ciphertext

def deserialize (bytes : QByteArray) : Option RatchetMessage :=
  if bytes.length < kRatchetMinSerializedBytes then none
  else
    some
      { counter :=
          ofQuint32 (qFromBigEndian (bytes.take kRatchetCounterBytes))
        nonce :=
          (bytes.drop kRatchetCounterBytes).take kChaCha20NonceBytes
        ciphertext := bytes.drop kRatchetHeaderBytes }

theorem qFromBigEndian_qToBigEndian
    {word : ℕ}
    (isWord : word < 4294967296) :
    qFromBigEndian (qToBigEndian word) = word := by
  simp only [qFromBigEndian, qToBigEndian, List.foldl_cons, List.foldl_nil,
    UInt8.toNat_ofNat']
  omega

theorem ofQuint32_toQuint32
    {value : ℤ}
    (lower : -2147483648 ≤ value)
    (upper : value < 2147483648) :
    ofQuint32 (toQuint32 value) = value := by
  unfold ofQuint32 toQuint32
  split <;> omega

/-- A number below 256 that is congruent to an octet's value names it. -/
private theorem ofNat_eq_octet
    {value : ℕ} {octet : UInt8}
    (same : value = octet.toNat) :
    UInt8.ofNat value = octet := by
  rw [same]
  exact UInt8.ofNat_toNat

/-- Four octets are the big-endian form of the word they hold. -/
theorem qToBigEndian_qFromBigEndian
    {octets : QByteArray}
    (size : octets.length = 4) :
    qToBigEndian (qFromBigEndian octets) = octets := by
  obtain ⟨first, second, third, fourth, rfl⟩ := List.length_eq_four.mp size
  have firstBound := first.toNat_lt
  have secondBound := second.toNat_lt
  have thirdBound := third.toNat_lt
  have fourthBound := fourth.toNat_lt
  simp only [qFromBigEndian, qToBigEndian, List.foldl_cons, List.foldl_nil,
    List.cons.injEq, and_true]
  refine ⟨?_, ?_, ?_, ?_⟩ <;>
    exact ofNat_eq_octet (by omega)

theorem qFromBigEndian_lt
    {octets : QByteArray}
    (size : octets.length = 4) :
    qFromBigEndian octets < 4294967296 := by
  obtain ⟨first, second, third, fourth, rfl⟩ := List.length_eq_four.mp size
  have firstBound := first.toNat_lt
  have secondBound := second.toNat_lt
  have thirdBound := third.toNat_lt
  have fourthBound := fourth.toNat_lt
  simp only [qFromBigEndian, List.foldl_cons, List.foldl_nil]
  omega

theorem toQuint32_ofQuint32
    {word : ℕ}
    (isWord : word < 4294967296) :
    toQuint32 (ofQuint32 word) = word := by
  unfold ofQuint32 toQuint32
  split <;> omega

/-- Every message with a 32-bit counter, a full nonce and a tag survives the
wire. -/
theorem deserialize_serialize
    {message : RatchetMessage}
    (lower : -2147483648 ≤ message.counter)
    (upper : message.counter < 2147483648)
    (nonceSize : message.nonce.length = kChaCha20NonceBytes)
    (tagged : kChaCha20TagBytes ≤ message.ciphertext.length) :
    deserialize message.serialize = some message := by
  obtain ⟨counter, nonce, ciphertext⟩ := message
  have wordBound : toQuint32 counter < 4294967296 := by
    unfold toQuint32
    omega
  have headerSize : (qToBigEndian (toQuint32 counter)).length = 4 := rfl
  have headerAndNonce :
      (qToBigEndian (toQuint32 counter) ++ nonce).length =
        kRatchetHeaderBytes := by
    simp only [List.length_append, headerSize, nonceSize]
  have longEnough :
      ¬ (qToBigEndian (toQuint32 counter) ++ nonce ++ ciphertext).length <
        kRatchetMinSerializedBytes := by
    rw [List.length_append, headerAndNonce]
    exact Nat.not_lt.mpr (Nat.add_le_add_left tagged _)
  have takeCounter :
      (qToBigEndian (toQuint32 counter) ++ nonce ++ ciphertext).take
        kRatchetCounterBytes = qToBigEndian (toQuint32 counter) := by
    rw [List.append_assoc]
    exact List.take_left' headerSize
  have takeNonce :
      ((qToBigEndian (toQuint32 counter) ++ nonce ++ ciphertext).drop
        kRatchetCounterBytes).take kChaCha20NonceBytes = nonce := by
    rw [List.append_assoc, List.drop_left' headerSize]
    exact List.take_left' nonceSize
  have dropHeader :
      (qToBigEndian (toQuint32 counter) ++ nonce ++ ciphertext).drop
        kRatchetHeaderBytes = ciphertext :=
    List.drop_left' headerAndNonce
  have serializedEq :
      serialize ⟨counter, nonce, ciphertext⟩ =
        qToBigEndian (toQuint32 counter) ++ nonce ++ ciphertext := rfl
  rw [deserialize, serializedEq, if_neg longEnough, takeCounter, takeNonce,
    dropHeader, qFromBigEndian_qToBigEndian wordBound,
    ofQuint32_toQuint32 lower upper]

/-- The only octets that are refused are those too short for a header and a
tag. -/
theorem deserialize_eq_none_iff (bytes : QByteArray) :
    deserialize bytes = none ↔ bytes.length < kRatchetMinSerializedBytes := by
  unfold deserialize
  split
  · rename_i short
    exact ⟨fun _ => short, fun _ => rfl⟩
  · rename_i long
    exact ⟨fun refused => absurd refused (by simp), fun short =>
      absurd short long⟩

/-- A message that was read is written back as the octets it came from. -/
theorem serialize_of_deserialize
    {bytes : QByteArray} {message : RatchetMessage}
    (accepted : deserialize bytes = some message) :
    message.serialize = bytes := by
  unfold deserialize at accepted
  split at accepted
  · contradiction
  · rename_i long
    have atLeast : kRatchetCounterBytes ≤ bytes.length :=
      le_trans (by decide) (Nat.not_lt.mp long)
    have counterSize : (bytes.take kRatchetCounterBytes).length = 4 :=
      List.length_take_of_le atLeast
    rw [← Option.some.inj accepted, serialize,
      toQuint32_ofQuint32 (qFromBigEndian_lt counterSize),
      qToBigEndian_qFromBigEndian counterSize]
    have headerOctets :
        bytes.take kRatchetCounterBytes ++
            (bytes.drop kRatchetCounterBytes).take kChaCha20NonceBytes =
          bytes.take kRatchetHeaderBytes :=
      List.take_add.symm
    rw [headerOctets]
    exact List.take_append_drop _ _

/-- Both directions of the wire format, with the exact shortest length. -/
theorem wireFormat :
    (∀ message : RatchetMessage,
      -2147483648 ≤ message.counter → message.counter < 2147483648 →
        message.nonce.length = kChaCha20NonceBytes →
        kChaCha20TagBytes ≤ message.ciphertext.length →
        deserialize message.serialize = some message) ∧
      ∀ bytes : QByteArray,
        (deserialize bytes = none ↔ bytes.length < 32) ∧
          ∀ message, deserialize bytes = some message →
            message.serialize = bytes :=
  ⟨fun _ lower upper nonceSize tagged =>
      deserialize_serialize lower upper nonceSize tagged,
    fun bytes => ⟨deserialize_eq_none_iff bytes, fun _ accepted =>
      serialize_of_deserialize accepted⟩⟩

/-- A negative counter and a bare tag cross the wire, and thirty-one octets
do not. -/
theorem wireFormat_negative :
    deserialize
        (serialize ⟨-1, List.replicate 12 7, List.replicate 16 9⟩) =
          some ⟨-1, List.replicate 12 7, List.replicate 16 9⟩ ∧
      deserialize (List.replicate 31 0) = none :=
  ⟨wireFormat.1 ⟨-1, List.replicate 12 7, List.replicate 16 9⟩
      (by decide) (by decide) (by decide) (by decide),
    (wireFormat.2 (List.replicate 31 0)).1.mpr (by decide)⟩

end RatchetMessage
end Crypto
end VoxDesktop
