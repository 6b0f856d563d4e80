import VoxDesktop.Crypto.CryptoHelpers

/-!
# A reference instance of the library parameter

A small executable stand-in for libsodium with the documented behaviour the
results of this development ask for: fixed output sizes, AEADs that decrypt
what they encrypted and reject other keys, nonces and associated data.  It is
no cryptography; it shows that the assumptions can be met together and lets
concrete sessions be evaluated.
-/

namespace VoxDesktop
namespace Crypto
namespace ReferenceSodium

open Qt

/-- Absorb octets into a 256-bit state. -/
def absorb (seed : ℕ) (octets : QByteArray) : ℕ :=
  octets.foldl
    (fun state octet => (state * 257 + octet.toNat + 1) % 2 ^ 256) seed

/-- Low-order octets of a state. -/
def squeeze (size state : ℕ) : List.Vector UInt8 size :=
  ⟨(List.range size).map fun index => UInt8.ofNat (state / 256 ^ index % 256),
    by simp⟩

/-- Sixteen octets: a check of the key and a digest of everything. -/
def tag (key nonce associated plaintext : QByteArray) : QByteArray :=
  key.take 8 ++
    (squeeze 8 (absorb 2
      (key ++ nonce ++ UInt8.ofNat associated.length :: associated ++
        plaintext))).toList

/-- Prefix the plaintext with its tag; verify the tag to get it back. -/
def aead : Library.Aead UInt8 where
  encrypt key nonce plaintext associated :=
    if key.length = kChaCha20KeyBytes then
      some (tag key nonce associated plaintext ++ plaintext)
    else none
  decrypt key nonce ciphertext associated :=
    if ciphertext.take kChaCha20TagBytes =
        tag key nonce associated (ciphertext.drop kChaCha20TagBytes) then
      some (ciphertext.drop kChaCha20TagBytes)
    else none

def sodium : Sodium where
  initialized := true
  hmacSha256 key data := squeeze kSha256Bytes (absorb 1 (key ++ 0 :: data))
  chacha20poly1305 := aead
  xchacha20poly1305 := aead
  pwhash outLen password salt _ _ :=
    some (squeeze outLen (absorb 3 (salt ++ password)))
  signDetached message secretKey :=
    some (squeeze kSignBytes (absorb 4 (secretKey ++ message)))

theorem length_tag
    {key : QByteArray} (nonce associated plaintext : QByteArray)
    (keySize : key.length = kChaCha20KeyBytes) :
    (tag key nonce associated plaintext).length = kChaCha20TagBytes := by
  simp [tag, keySize, kChaCha20KeyBytes]

/-- A ciphertext is the tagged plaintext. -/
theorem encrypt_eq_some
    {key nonce plaintext associated ciphertext : QByteArray}
    (encrypted : aead.encrypt key nonce plaintext associated =
      some ciphertext) :
    key.length = kChaCha20KeyBytes ∧
      ciphertext = tag key nonce associated plaintext ++ plaintext := by
  simp only [aead, Option.ite_none_right_eq_some, Option.some.injEq]
    at encrypted
  exact ⟨encrypted.1, encrypted.2.symm⟩

/-- Decryption compares the tags made under the two keys. -/
theorem decrypt_tagged
    {key : QByteArray} (other nonce associated plaintext : QByteArray)
    (keySize : key.length = kChaCha20KeyBytes) :
    aead.decrypt other nonce
        (tag key nonce associated plaintext ++ plaintext) associated =
      if tag key nonce associated plaintext =
          tag other nonce associated plaintext then some plaintext
      else none := by
  have size := length_tag nonce associated plaintext keySize
  simp only [aead, List.take_left' size, List.drop_left' size]

theorem aead_correct (nonceBytes : ℕ) :
    aead.Correct kChaCha20KeyBytes nonceBytes kChaCha20TagBytes where
  encrypts key nonce plaintext associated keySize _ := by
    refine ⟨tag key nonce associated plaintext ++ plaintext, ?_, ?_⟩
    · simp [aead, keySize]
    · rw [List.length_append,
        length_tag nonce associated plaintext keySize, Nat.add_comm]
  decrypts key nonce plaintext associated ciphertext encrypted := by
    obtain ⟨keySize, rfl⟩ := encrypt_eq_some encrypted
    rw [decrypt_tagged key nonce associated plaintext keySize, if_pos rfl]

/-- Both AEADs of the reference instance are correct. -/
theorem sodium_aeadCorrect : sodium.AeadCorrect where
  chacha := aead_correct kChaCha20NonceBytes
  xchacha := aead_correct kXChaCha20NonceBytes

/-- Keys that differ in their first eight octets reject each other's
ciphertexts. -/
theorem aead_rejectsUnder
    {key other : QByteArray}
    (otherSize : other.length = kChaCha20KeyBytes)
    (distinct : key.take 8 ≠ other.take 8) :
    aead.RejectsUnder key other := by
  intro nonce plaintext associated ciphertext encrypted
  obtain ⟨keySize, rfl⟩ := encrypt_eq_some encrypted
  rw [decrypt_tagged other nonce associated plaintext keySize, if_neg]
  intro equal
  have checksEqual := congrArg (List.take 8) equal
  rw [tag, tag, List.take_left' (by simp [keySize, kChaCha20KeyBytes]),
    List.take_left' (by simp [otherSize, kChaCha20KeyBytes])] at checksEqual
  exact distinct checksEqual

end ReferenceSodium
end Crypto
end VoxDesktop
