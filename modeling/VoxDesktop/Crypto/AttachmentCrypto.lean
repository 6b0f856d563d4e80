import VoxDesktop.Crypto.FingerprintService

/-!
# Encryption of attachments

`crypto/AttachmentCrypto`: a chunk is sealed under a nonce of its own, which
goes with it.
-/

namespace VoxDesktop
namespace Crypto

open Qt

structure EncryptedAttachmentChunk where
  nonce : QByteArray
  ciphertext : QByteArray
  sha256 : QByteArray

namespace AttachmentCrypto

variable (sodium : Sodium)

/-- `drawn` is what is drawn for the nonce. -/
def encryptChunk
    (hash : QByteArray → List.Vector UInt8 kSha256Bytes)
    (drawn : List.Vector UInt8 kChaCha20NonceBytes)
    (key32 plaintext ad : QByteArray) : Option EncryptedAttachmentChunk :=
  if key32.length ≠ kChaCha20KeyBytes then none
  else
    let nonce := CryptoHelpers.randomBytes sodium drawn
    if nonce.length ≠ kChaCha20NonceBytes then none
    else
      let ciphertext :=
        CryptoHelpers.aeadEncrypt sodium key32 nonce plaintext ad
      if ciphertext = [] then none
      else
        some ⟨nonce, ciphertext, CryptoHelpers.sha256 sodium hash ciphertext⟩

def decryptChunk (key32 nonce ciphertext ad : QByteArray) :
    Option QByteArray :=
  CryptoHelpers.aeadDecrypt sodium key32 nonce ciphertext ad

variable {sodium}

/-- A chunk is not empty, and its plaintext comes back under its key, its
nonce and its associated data. -/
theorem decryptChunk_of_encryptChunk
    {hash : QByteArray → List.Vector UInt8 kSha256Bytes}
    {drawn : List.Vector UInt8 kChaCha20NonceBytes}
    {key32 plaintext ad : QByteArray} {chunk : EncryptedAttachmentChunk}
    (correct : sodium.AeadCorrect)
    (encrypted :
      encryptChunk sodium hash drawn key32 plaintext ad = some chunk) :
    chunk.ciphertext ≠ [] ∧
      decryptChunk sodium key32 chunk.nonce chunk.ciphertext ad =
        some plaintext := by
  unfold encryptChunk at encrypted
  dsimp only at encrypted
  split at encrypted
  · contradiction
  split at encrypted
  · contradiction
  split at encrypted
  · contradiction
  rename_i nonempty
  obtain rfl := Option.some.inj encrypted
  exact ⟨nonempty, CryptoHelpers.openWith_of_sealWith correct.chacha nonempty⟩

end AttachmentCrypto
end Crypto
end VoxDesktop
