import Mathlib.Data.List.Basic

/-!
# Authenticated encryption with associated data

An AEAD is a pair of partial functions on octet strings.  The two properties
below are the documented behaviour a caller relies on: encryption with a key
and a nonce of the right sizes yields a ciphertext that is longer by one tag
and that decrypts to the plaintext, and a ciphertext is not accepted under
another key.  The second one is stated for two given keys, since no function
on fixed-size keys and tags can have it for all of them at once.
-/

namespace Library

/-- An AEAD over octets of some type; `none` is a failed call. -/
structure Aead (Octet : Type*) where
  encrypt : (key nonce plaintext associated : List Octet) →
    Option (List Octet)
  decrypt : (key nonce ciphertext associated : List Octet) →
    Option (List Octet)

namespace Aead

variable {Octet : Type*}

/-- Encryption is total on well-sized keys and nonces, lengthens by one tag,
and is undone by decryption. -/
structure Correct
    (aead : Aead Octet)
    (keyBytes nonceBytes tagBytes : ℕ) : Prop where
  encrypts : ∀ key nonce plaintext associated,
    key.length = keyBytes → nonce.length = nonceBytes →
      ∃ ciphertext,
        aead.encrypt key nonce plaintext associated = some ciphertext ∧
          ciphertext.length = plaintext.length + tagBytes
  decrypts : ∀ key nonce plaintext associated ciphertext,
    aead.encrypt key nonce plaintext associated = some ciphertext →
      aead.decrypt key nonce ciphertext associated = some plaintext

/-- Ciphertexts made under one key are rejected under another. -/
def RejectsUnder (aead : Aead Octet) (key other : List Octet) : Prop :=
  ∀ nonce plaintext associated ciphertext,
    aead.encrypt key nonce plaintext associated = some ciphertext →
      aead.decrypt other nonce ciphertext associated = none

end Aead
end Library
