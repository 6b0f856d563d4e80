import Mathlib.Data.Vector.Basic
import VoxDesktop.Library.Aead
import VoxDesktop.Qt.Text

/-!
# Cryptographic helpers

libsodium is a parameter: a record of its functions, with the sizes of its
fixed output buffers in their types.  The helpers of `crypto/CryptoHelpers`
add the argument checks the client makes before it calls the library; a failed
check or call yields the empty byte string, or nothing when decrypting.
-/

namespace VoxDesktop
namespace Crypto

open Qt

/-! ## Sizes -/

abbrev kChaCha20KeyBytes : ℕ := 32
abbrev kChaCha20NonceBytes : ℕ := 12
abbrev kChaCha20TagBytes : ℕ := 16
abbrev kXChaCha20NonceBytes : ℕ := 24
abbrev kSha256Bytes : ℕ := 32
abbrev kHkdfDefaultSaltBytes : ℕ := kSha256Bytes
abbrev kPwhashSaltBytes : ℕ := 16
abbrev kSignSecretKeyBytes : ℕ := 64
abbrev kSignBytes : ℕ := 64

/-- The libsodium functions the client calls.  `none` stands for a nonzero
return code. -/
structure Sodium where
  /-- `sodium_init() >= 0`. -/
  initialized : Bool
  hmacSha256 : (key data : QByteArray) → List.Vector UInt8 kSha256Bytes
  chacha20poly1305 : Library.Aead UInt8
  xchacha20poly1305 : Library.Aead UInt8
  pwhash : (outLen : ℕ) → (password salt : QByteArray) →
    (opslimit memlimit : ℕ) → Option (List.Vector UInt8 outLen)
  signDetached : (message secretKey : QByteArray) →
    Option (List.Vector UInt8 kSignBytes)

/-- Documented behaviour of the two AEAD constructions. -/
structure Sodium.AeadCorrect (sodium : Sodium) : Prop where
  chacha : sodium.chacha20poly1305.Correct
    kChaCha20KeyBytes kChaCha20NonceBytes kChaCha20TagBytes
  xchacha : sodium.xchacha20poly1305.Correct
    kChaCha20KeyBytes kXChaCha20NonceBytes kChaCha20TagBytes

namespace CryptoHelpers

variable (sodium : Sodium)

/-- `randomBytes(size)`; `drawn` is what `randombytes_buf` writes. -/
def randomBytes {size : ℕ} (drawn : List.Vector UInt8 size) : QByteArray :=
  if size = 0 ∨ sodium.initialized = false then [] else drawn.toList

def hmacSha256 (key data : QByteArray) : QByteArray :=
  if sodium.initialized = false ∨ key = [] then []
  else (sodium.hmacSha256 key data).toList

/-- The checks shared by the two encryption helpers. -/
def sealWith
    (aead : Library.Aead UInt8) (nonceBytes : ℕ)
    (key nonce plaintext ad : QByteArray) : QByteArray :=
  if sodium.initialized = false ∨ key.length ≠ kChaCha20KeyBytes ∨
      nonce.length ≠ nonceBytes then []
  else (aead.encrypt key nonce plaintext ad).getD []

/-- The checks shared by the two decryption helpers. -/
def openWith
    (aead : Library.Aead UInt8) (nonceBytes : ℕ)
    (key nonce ciphertext ad : QByteArray) : Option QByteArray :=
  if sodium.initialized = false ∨ key.length ≠ kChaCha20KeyBytes ∨
      nonce.length ≠ nonceBytes ∨ ciphertext.length < kChaCha20TagBytes then
    none
  else aead.decrypt key nonce ciphertext ad

def aeadEncrypt (key nonce12 plaintext ad : QByteArray) : QByteArray :=
  sealWith sodium sodium.chacha20poly1305 kChaCha20NonceBytes
    key nonce12 plaintext ad

def aeadDecrypt
    (key nonce12 ciphertext ad : QByteArray) : Option QByteArray :=
  openWith sodium sodium.chacha20poly1305 kChaCha20NonceBytes
    key nonce12 ciphertext ad

def xchachaEncryptLocal
    (key nonce24 plaintext ad : QByteArray) : QByteArray :=
  sealWith sodium sodium.xchacha20poly1305 kXChaCha20NonceBytes
    key nonce24 plaintext ad

def xchachaDecryptLocal
    (key nonce24 ciphertext ad : QByteArray) : Option QByteArray :=
  openWith sodium sodium.xchacha20poly1305 kXChaCha20NonceBytes
    key nonce24 ciphertext ad

def ed25519Sign (priv msg : QByteArray) : QByteArray :=
  if sodium.initialized = false ∨ priv.length ≠ kSignSecretKeyBytes then []
  else ((sodium.signDetached msg priv).map List.Vector.toList).getD []

def argon2idKdf
    (password salt : QByteArray)
    (opslimit memlimit outLen : ℕ) : QByteArray :=
  if sodium.initialized = false ∨ outLen = 0 ∨
      salt.length ≠ kPwhashSaltBytes ∨ password = [] then []
  else
    ((sodium.pwhash outLen password salt opslimit memlimit).map
      List.Vector.toList).getD []

/-! ## What the helpers return -/

/-- A buffer of a positive size is not empty. -/
theorem toList_ne_nil
    {size : ℕ} (octets : List.Vector UInt8 size) (positive : 0 < size) :
    octets.toList ≠ [] := by
  intro empty
  have length := octets.toList_length
  rw [empty] at length
  exact absurd length (Nat.ne_of_lt positive)

variable {sodium}

theorem length_hmacSha256
    {key : QByteArray} (data : QByteArray)
    (initialized : sodium.initialized = true)
    (keyNonempty : key ≠ []) :
    (hmacSha256 sodium key data).length = kSha256Bytes := by
  simp [hmacSha256, initialized, keyNonempty]

section Aead

variable {aead : Library.Aead UInt8} {nonceBytes : ℕ}
  {key nonce plaintext ciphertext ad : QByteArray}

/-- A correct AEAD seals every plaintext under a well-sized key and nonce,
and the result opens again. -/
theorem openWith_sealWith
    (plaintext ad : QByteArray)
    (correct : aead.Correct kChaCha20KeyBytes nonceBytes kChaCha20TagBytes)
    (initialized : sodium.initialized = true)
    (keySize : key.length = kChaCha20KeyBytes)
    (nonceSize : nonce.length = nonceBytes) :
    (sealWith sodium aead nonceBytes key nonce plaintext ad).length =
        plaintext.length + kChaCha20TagBytes ∧
      openWith sodium aead nonceBytes key nonce
        (sealWith sodium aead nonceBytes key nonce plaintext ad) ad =
          some plaintext := by
  obtain ⟨sealed, encrypted, size⟩ :=
    correct.encrypts key nonce plaintext ad keySize nonceSize
  have sealedEq :
      sealWith sodium aead nonceBytes key nonce plaintext ad = sealed := by
    simp [sealWith, initialized, keySize, nonceSize, encrypted]
  rw [sealedEq]
  refine ⟨size, ?_⟩
  have longEnough : ¬ sealed.length < kChaCha20TagBytes := by omega
  simp only [openWith, initialized, keySize, nonceSize, longEnough,
    Bool.true_eq_false, ne_eq, not_true_eq_false, or_self, if_false]
  exact correct.decrypts key nonce plaintext ad sealed encrypted

/-- A nonempty sealed text has passed every check of the helper and comes from
a successful call of the library. -/
theorem sealWith_ne_nil
    (sealed : sealWith sodium aead nonceBytes key nonce plaintext ad ≠ []) :
    sodium.initialized = true ∧ key.length = kChaCha20KeyBytes ∧
      nonce.length = nonceBytes ∧
      aead.encrypt key nonce plaintext ad =
        some (sealWith sodium aead nonceBytes key nonce plaintext ad) := by
  unfold sealWith at sealed ⊢
  split at sealed
  · contradiction
  · rename_i checks
    rw [if_neg checks]
    simp only [not_or, not_not, Bool.not_eq_false] at checks
    refine ⟨checks.1, checks.2.1, checks.2.2, ?_⟩
    cases encrypted : aead.encrypt key nonce plaintext ad with
    | none => simp [encrypted] at sealed
    | some ciphertext => rfl

/-- What a correct AEAD has sealed opens again. -/
theorem openWith_of_sealWith
    (correct : aead.Correct kChaCha20KeyBytes nonceBytes kChaCha20TagBytes)
    (sealed : sealWith sodium aead nonceBytes key nonce plaintext ad ≠ []) :
    openWith sodium aead nonceBytes key nonce
      (sealWith sodium aead nonceBytes key nonce plaintext ad) ad =
        some plaintext := by
  obtain ⟨initialized, keySize, nonceSize, _⟩ := sealWith_ne_nil sealed
  exact (openWith_sealWith plaintext ad correct initialized keySize
    nonceSize).2

/-- What was sealed under one key does not open under a key that rejects
it. -/
theorem openWith_of_rejectsUnder
    {other : QByteArray}
    (rejects : aead.RejectsUnder key other)
    (sealed : sealWith sodium aead nonceBytes key nonce plaintext ad ≠ []) :
    openWith sodium aead nonceBytes other nonce
      (sealWith sodium aead nonceBytes key nonce plaintext ad) ad = none := by
  obtain ⟨_, _, _, encrypted⟩ := sealWith_ne_nil sealed
  unfold openWith
  split
  · rfl
  · exact rejects nonce plaintext ad _ encrypted

end Aead

end CryptoHelpers
end Crypto
end VoxDesktop
