import VoxDesktop.Crypto.CryptoHelpers
import VoxDesktop.Qt.Json

/-!
# Wrapping the sync master key

`crypto/SyncCrypto`: the sync master key is sealed under a key derived from a
password value, and the bundle of nonce and ciphertext, salt and derivation
parameters opens again under the same value.
-/

namespace VoxDesktop
namespace Crypto

open Qt CryptoHelpers

def kBytesPerKiB : ℕ := 1024

/-- The fields are `int`s. -/
structure SyncWrapParams where
  memoryKiB : ℤ := 65536
  iterations : ℤ := 3
  parallelism : ℤ := 1
  deriving DecidableEq

namespace SyncWrapParams

def toJson (params : SyncWrapParams) : QJsonObject :=
  .ofMembers
    [(QString.literal "algorithm", .string (QString.literal "argon2id")),
      (QString.literal "memory_kib", .double params.memoryKiB),
      (QString.literal "iterations", .double params.iterations),
      (QString.literal "parallelism", .double params.parallelism)]

def fromJson (object : QJsonObject) : SyncWrapParams :=
  let params : SyncWrapParams := {}
  { memoryKiB :=
      (object.value (QString.literal "memory_kib")).toInt params.memoryKiB
    iterations :=
      (object.value (QString.literal "iterations")).toInt params.iterations
    parallelism :=
      (object.value (QString.literal "parallelism")).toInt
        params.parallelism }

/-- `static_cast<quint64>(params.iterations)`. -/
def opsLimit (params : SyncWrapParams) : ℕ :=
  (params.iterations % 2 ^ 64).toNat

/-- `static_cast<size_t>(params.memoryKiB) * kBytesPerKiB` in 64 bits. -/
def memLimit (params : SyncWrapParams) : ℕ :=
  (params.memoryKiB % 2 ^ 64).toNat * kBytesPerKiB % 2 ^ 64

/-- Every field is a value of `int`. -/
structure InRange (params : SyncWrapParams) : Prop where
  memoryKiB : -2147483648 ≤ params.memoryKiB ∧ params.memoryKiB < 2147483648
  iterations :
    -2147483648 ≤ params.iterations ∧ params.iterations < 2147483648
  parallelism :
    -2147483648 ≤ params.parallelism ∧ params.parallelism < 2147483648

/-- Parameters are read back as they were written. -/
theorem fromJson_toJson
    {params : SyncWrapParams}
    (inRange : params.InRange) :
    fromJson params.toJson = params := by
  have members :
      params.toJson =
        [(QString.literal "algorithm", .string (QString.literal "argon2id")),
          (QString.literal "memory_kib", .double params.memoryKiB),
          (QString.literal "iterations", .double params.iterations),
          (QString.literal "parallelism", .double params.parallelism)] := rfl
  have memoryKiB :
      params.toJson.value (QString.literal "memory_kib") =
        .double params.memoryKiB := by
    rw [members]
    rfl
  have iterations :
      params.toJson.value (QString.literal "iterations") =
        .double params.iterations := by
    rw [members]
    rfl
  have parallelism :
      params.toJson.value (QString.literal "parallelism") =
        .double params.parallelism := by
    rw [members]
    rfl
  rw [fromJson, memoryKiB, iterations, parallelism,
    QJsonValue.toInt_double _ inRange.memoryKiB.1 inRange.memoryKiB.2,
    QJsonValue.toInt_double _ inRange.iterations.1 inRange.iterations.2,
    QJsonValue.toInt_double _ inRange.parallelism.1 inRange.parallelism.2]

end SyncWrapParams

structure WrappedSyncKeyBundle where
  wrappedSyncKey : QByteArray
  salt : QByteArray
  params : SyncWrapParams

/-- What `randombytes_buf` writes during one call of `wrapSyncMasterKey`. -/
structure WrapDraws where
  salt : List.Vector UInt8 kPwhashSaltBytes
  nonce : List.Vector UInt8 kXChaCha20NonceBytes

namespace SyncCrypto

def syncAd : QByteArray := QByteArray.literal "vox-sync-v1"

variable (sodium : Sodium)

/-- The key-encryption key of both functions. -/
def kekOf
    (passwordDerived salt : QByteArray) (params : SyncWrapParams) :
    QByteArray :=
  argon2idKdf sodium passwordDerived salt params.opsLimit params.memLimit
    kChaCha20KeyBytes

def wrapSyncMasterKey
    (passwordDerived syncMasterKey : QByteArray)
    (params : SyncWrapParams) (draws : WrapDraws) :
    Option WrappedSyncKeyBundle :=
  if passwordDerived = [] ∨ syncMasterKey.length ≠ kChaCha20KeyBytes then none
  else
    let salt := randomBytes sodium draws.salt
    if salt.length ≠ kPwhashSaltBytes then none
    else
      let kek := kekOf sodium passwordDerived salt params
      if kek.length ≠ kChaCha20KeyBytes then none
      else
        let nonce := randomBytes sodium draws.nonce
        if nonce.length ≠ kXChaCha20NonceBytes then none
        else
          let wrapped :=
            xchachaEncryptLocal sodium kek nonce syncMasterKey syncAd
          if wrapped = [] then none else some ⟨nonce ++ wrapped, salt, params⟩

def unwrapSyncMasterKey
    (passwordDerived : QByteArray) (bundle : WrappedSyncKeyBundle) :
    Option QByteArray :=
  if passwordDerived = [] ∨
      bundle.wrappedSyncKey.length <
        kXChaCha20NonceBytes + kChaCha20TagBytes then none
  else
    let kek := kekOf sodium passwordDerived bundle.salt bundle.params
    if kek.length ≠ kChaCha20KeyBytes then none
    else
      xchachaDecryptLocal sodium kek
        (bundle.wrappedSyncKey.take kXChaCha20NonceBytes)
        (bundle.wrappedSyncKey.drop kXChaCha20NonceBytes) syncAd

variable {sodium}

/-- A bundle holds its parameters and, after the nonce, the sealed key. -/
theorem wrapSyncMasterKey_eq_some
    {passwordDerived syncMasterKey : QByteArray}
    {params : SyncWrapParams} {draws : WrapDraws}
    {bundle : WrappedSyncKeyBundle}
    (wrapped :
      wrapSyncMasterKey sodium passwordDerived syncMasterKey params draws =
        some bundle) :
    passwordDerived ≠ [] ∧
      syncMasterKey.length = kChaCha20KeyBytes ∧
      bundle.params = params ∧
      ∃ nonce,
        nonce.length = kXChaCha20NonceBytes ∧
          let kek := kekOf sodium passwordDerived bundle.salt params
          let sealed :=
            xchachaEncryptLocal sodium kek nonce syncMasterKey syncAd
          kek.length = kChaCha20KeyBytes ∧ sealed ≠ [] ∧
            bundle.wrappedSyncKey = nonce ++ sealed := by
  unfold wrapSyncMasterKey at wrapped
  dsimp only at wrapped
  split_ifs at wrapped with arguments saltSize keySize nonceSize notSealed
  obtain rfl := Option.some.inj wrapped
  rw [not_or, not_not] at arguments
  exact ⟨arguments.1, arguments.2, rfl, randomBytes sodium draws.nonce,
    not_not.mp nonceSize, not_not.mp keySize, notSealed, rfl⟩

/-- Unwrapping with the password value of the bundle yields the key. -/
theorem unwrapSyncMasterKey_of_wrap
    {passwordDerived syncMasterKey : QByteArray}
    {params : SyncWrapParams} {draws : WrapDraws}
    {bundle : WrappedSyncKeyBundle}
    (correct : sodium.AeadCorrect)
    (wrapped :
      wrapSyncMasterKey sodium passwordDerived syncMasterKey params draws =
        some bundle) :
    unwrapSyncMasterKey sodium passwordDerived bundle =
      some syncMasterKey := by
  obtain ⟨passwordNonempty, _, sameParams, nonce, nonceSize, keySize, sealed,
    contents⟩ := wrapSyncMasterKey_eq_some wrapped
  obtain ⟨initialized, _⟩ := sealWith_ne_nil sealed
  have sealedSize := (openWith_sealWith syncMasterKey syncAd correct.xchacha
    initialized keySize nonceSize).1
  have longEnough :
      ¬ (passwordDerived = [] ∨
        bundle.wrappedSyncKey.length <
          kXChaCha20NonceBytes + kChaCha20TagBytes) := by
    rw [not_or, contents, List.length_append, nonceSize]
    refine ⟨passwordNonempty, ?_⟩
    rw [xchachaEncryptLocal, sealedSize]
    omega
  rw [unwrapSyncMasterKey, if_neg longEnough, sameParams]
  dsimp only
  rw [if_neg (not_not.mpr keySize), contents, List.take_left' nonceSize,
    List.drop_left' nonceSize]
  exact openWith_of_sealWith correct.xchacha sealed

end SyncCrypto
end Crypto
end VoxDesktop
