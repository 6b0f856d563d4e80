import VoxDesktop.Crypto.IdentityKeyStore
import VoxDesktop.Crypto.ReferenceSodium
import VoxDesktop.Library.Grouping
import VoxDesktop.Qt.ByteArray

/-!
# Fingerprints

`crypto/FingerprintService`: the SHA-256 digest of the two public keys of a
device, in upper-case hexadecimal digits in groups of four.
-/

namespace VoxDesktop
namespace Crypto

open Library Qt

/-- `CryptoHelpers::sha256`; `hash` is `crypto_hash_sha256`. -/
def CryptoHelpers.sha256
    (sodium : Sodium) (hash : QByteArray → List.Vector UInt8 kSha256Bytes)
    (data : QByteArray) : QByteArray :=
  if sodium.initialized = false then [] else (hash data).toList

namespace FingerprintService

/-- `QChar::toUpper` on ASCII. -/
def toUpper (unit : UInt16) : UInt16 :=
  if 0x61 ≤ unit ∧ unit ≤ 0x7A then unit - 0x20 else unit

/-- The loop of `fingerprint` from a position of the digest on. -/
def groupDigits (size : ℕ) : (i : ℕ) → QByteArray → QString
  | _, [] => []
  | i, digit :: digits =>
      toUpper (UInt16.ofNat digit.toNat) ::
        ((if (i + 1) % 4 = 0 ∧ i + 1 < size then [0x3A] else []) ++
          groupDigits size (i + 1) digits)

def fingerprint
    (sodium : Sodium) (hash : QByteArray → List.Vector UInt8 kSha256Bytes)
    (signingPublicKey dhPublicKey : QByteArray) : QString :=
  let digest :=
    toHex
      (CryptoHelpers.sha256 sodium hash (signingPublicKey ++ dhPublicKey))
  groupDigits digest.length 0 digest

/-! ## Upper-case hexadecimal -/

def upperHexDigit (value : ℕ) : UInt16 :=
  UInt16.ofNat (if value < 10 then 0x30 + value else 0x41 + (value - 10))

/-- Two upper-case digits an octet. -/
def upperHex (bytes : QByteArray) : QString :=
  bytes.flatMap fun octet =>
    [upperHexDigit (octet.toNat / 16), upperHexDigit (octet.toNat % 16)]

def IsUpperHexDigit (unit : UInt16) : Prop :=
  (0x30 ≤ unit ∧ unit ≤ 0x39) ∨ (0x41 ≤ unit ∧ unit ≤ 0x46)

instance (unit : UInt16) : Decidable (IsUpperHexDigit unit) :=
  inferInstanceAs (Decidable (_ ∨ _))

theorem toUpper_hexDigit :
    ∀ value < 16,
      toUpper (UInt16.ofNat (hexDigit value).toNat) = upperHexDigit value := by
  decide

theorem isUpperHexDigit_upperHexDigit :
    ∀ value < 16, IsUpperHexDigit (upperHexDigit value) := by
  decide

theorem upperHexDigit_inj :
    ∀ value < 16, ∀ other < 16,
      upperHexDigit value = upperHexDigit other → value = other := by
  decide

/-- The two digits of an octet are below sixteen. -/
theorem digit_lt (octet : UInt8) :
    octet.toNat / 16 < 16 ∧ octet.toNat % 16 < 16 := by
  have bound := octet.toNat_lt
  omega

theorem map_toHex (bytes : QByteArray) :
    (toHex bytes).map (fun digit => toUpper (UInt16.ofNat digit.toNat)) =
      upperHex bytes := by
  rw [toHex, upperHex, List.map_flatMap]
  congr 1
  funext octet
  obtain ⟨high, low⟩ := digit_lt octet
  rw [List.map_cons, List.map_cons, List.map_nil, toUpper_hexDigit _ high,
    toUpper_hexDigit _ low]

theorem length_upperHex (bytes : QByteArray) :
    (upperHex bytes).length = 2 * bytes.length := by
  rw [upperHex, List.length_flatMap]
  simp [Nat.mul_comm]

theorem isUpperHexDigit_of_mem_upperHex
    {bytes : QByteArray} {unit : UInt16} (within : unit ∈ upperHex bytes) :
    IsUpperHexDigit unit := by
  obtain ⟨octet, -, digit⟩ := List.mem_flatMap.mp within
  obtain ⟨high, low⟩ := digit_lt octet
  simp only [List.mem_cons, List.not_mem_nil, or_false] at digit
  rcases digit with rfl | rfl
  · exact isUpperHexDigit_upperHexDigit _ high
  · exact isUpperHexDigit_upperHexDigit _ low

theorem upperHex_injective : Function.Injective upperHex := by
  intro left
  induction left with
  | nil =>
      intro right equal
      cases right with
      | nil => rfl
      | cons octet right => contradiction
  | cons octet left inductionHypothesis =>
      intro right equal
      cases right with
      | nil => contradiction
      | cons other right =>
          simp only [upperHex, List.flatMap_cons, List.cons_append,
            List.nil_append, List.cons.injEq] at equal
          obtain ⟨high, low, rest⟩ := equal
          have upper := upperHexDigit_inj _ (digit_lt octet).1 _
            (digit_lt other).1 high
          have lower := upperHexDigit_inj _ (digit_lt octet).2 _
            (digit_lt other).2 low
          have same : octet = other := by
            apply UInt8.toNat_inj.mp
            omega
          rw [same, inductionHypothesis rest]

/-! ## The groups -/

theorem groupDigits_eq_separate (size i : ℕ) (digits : QByteArray) :
    groupDigits size i digits =
      Grouping.separate 4 size 0x3A i
        (digits.map fun digit => toUpper (UInt16.ofNat digit.toNat)) := by
  induction digits generalizing i with
  | nil => rfl
  | cons digit digits inductionHypothesis =>
      rw [groupDigits, inductionHypothesis, List.map_cons, Grouping.separate]

section Fingerprint

variable {sodium : Sodium}
  {hash : QByteArray → List.Vector UInt8 kSha256Bytes}
  {signingPublicKey dhPublicKey : QByteArray}

theorem fingerprint_eq_separate (initialized : sodium.initialized = true) :
    let digits := upperHex (hash (signingPublicKey ++ dhPublicKey)).toList
    fingerprint sodium hash signingPublicKey dhPublicKey =
      Grouping.separate 4 digits.length 0x3A 0 digits := by
  have hashed :
      CryptoHelpers.sha256 sodium hash (signingPublicKey ++ dhPublicKey) =
        (hash (signingPublicKey ++ dhPublicKey)).toList := by
    rw [CryptoHelpers.sha256, if_neg (by simp [initialized])]
  have sized : ∀ bytes : QByteArray,
      (toHex bytes).length = (upperHex bytes).length := by
    intro bytes
    rw [← map_toHex, List.length_map]
  rw [fingerprint, hashed]
  dsimp only
  rw [groupDigits_eq_separate, map_toHex, sized]

theorem colon_notMem_upperHex (bytes : QByteArray) :
    0x3A ∉ upperHex bytes := by
  intro within
  have digit := isUpperHexDigit_of_mem_upperHex within
  exact absurd digit (by decide)

/-- Removing the colons gives the digest. -/
theorem filter_fingerprint (initialized : sodium.initialized = true) :
    (fingerprint sodium hash signingPublicKey dhPublicKey).filter
        (fun unit => decide (unit ≠ 0x3A)) =
      upperHex (hash (signingPublicKey ++ dhPublicKey)).toList := by
  rw [fingerprint_eq_separate initialized]
  exact Grouping.filter_separate (colon_notMem_upperHex _)

/-- Sixteen groups of four digits with a colon between them. -/
theorem exists_fingerprint_groups
    (initialized : sodium.initialized = true) :
    ∃ groups : List QString, groups.length = 16 ∧
      (∀ group ∈ groups,
        group.length = 4 ∧ ∀ unit ∈ group, IsUpperHexDigit unit) ∧
      fingerprint sodium hash signingPublicKey dhPublicKey =
        [0x3A].intercalate groups := by
  have sized :
      (upperHex (hash (signingPublicKey ++ dhPublicKey)).toList).length =
        4 * 16 := by
    rw [length_upperHex, List.Vector.toList_length]
    rfl
  obtain ⟨groups, counted, grouped, flat⟩ := Grouping.exists_groups sized
  refine ⟨groups, counted, fun group within => ⟨grouped group within, ?_⟩, ?_⟩
  · intro unit inside
    apply isUpperHexDigit_of_mem_upperHex
    rw [← flat]
    exact List.mem_flatten_of_mem within inside
  · rw [fingerprint_eq_separate initialized, ← flat]
    exact Grouping.separate_flatten (by decide) rfl grouped
      (Nat.zero_add _).symm

end Fingerprint

/-- The fingerprint of a pair of public keys: its shape, the digest it shows,
and that it tells pairs apart whose digests do not collide. -/
theorem fingerprint_spec
    (sodium : Sodium)
    (hash : QByteArray → List.Vector UInt8 kSha256Bytes)
    (initialized : sodium.initialized = true)
    (signingPublicKey : List.Vector UInt8 kSignPublicKeyBytes)
    (dhPublicKey : List.Vector UInt8 kKxPublicKeyBytes) :
    let shown :=
      fingerprint sodium hash signingPublicKey.toList dhPublicKey.toList
    let data := signingPublicKey.toList ++ dhPublicKey.toList
    (∃ groups : List QString, groups.length = 16 ∧
        (∀ group ∈ groups,
          group.length = 4 ∧ ∀ unit ∈ group, IsUpperHexDigit unit) ∧
        shown = [0x3A].intercalate groups) ∧
      shown.filter (fun unit => decide (unit ≠ 0x3A)) =
        upperHex (hash data).toList ∧
      ∀ (otherSigning : List.Vector UInt8 kSignPublicKeyBytes)
        (otherDh : List.Vector UInt8 kKxPublicKeyBytes),
        (hash data = hash (otherSigning.toList ++ otherDh.toList) →
          data = otherSigning.toList ++ otherDh.toList) →
        (shown =
            fingerprint sodium hash otherSigning.toList otherDh.toList ↔
          signingPublicKey = otherSigning ∧ dhPublicKey = otherDh) := by
  intro shown data
  refine ⟨exists_fingerprint_groups initialized,
    filter_fingerprint initialized, ?_⟩
  intro otherSigning otherDh collisionFree
  constructor
  · intro same
    have digests :
        hash data = hash (otherSigning.toList ++ otherDh.toList) := by
      apply List.Vector.eq
      apply upperHex_injective
      rw [← filter_fingerprint initialized, ← filter_fingerprint initialized]
      exact congrArg _ same
    have sized :
        signingPublicKey.toList.length = otherSigning.toList.length := by
      rw [List.Vector.toList_length, List.Vector.toList_length]
    obtain ⟨signing, dh⟩ := List.append_inj (collisionFree digests) sized
    exact ⟨List.Vector.eq _ _ signing, List.Vector.eq _ _ dh⟩
  · rintro ⟨rfl, rfl⟩
    rfl

/-! ## Two devices -/

section Examples

/-- A stand-in for SHA-256. -/
def exampleHash (data : QByteArray) : List.Vector UInt8 kSha256Bytes :=
  ReferenceSodium.squeeze kSha256Bytes (ReferenceSodium.absorb 5 data)

/-- Exchanging the two keys of a device gives another fingerprint, with the
digest of the exchanged keys. -/
theorem fingerprint_exchanged :
    let one : List.Vector UInt8 32 := List.Vector.replicate 32 1
    let two : List.Vector UInt8 32 := List.Vector.replicate 32 2
    let shown :=
      fingerprint ReferenceSodium.sodium exampleHash one.toList two.toList
    shown ≠
        fingerprint ReferenceSodium.sodium exampleHash two.toList
          one.toList ∧
      shown.filter (fun unit => decide (unit ≠ 0x3A)) =
        upperHex (exampleHash (one.toList ++ two.toList)).toList := by
  intro one two shown
  obtain ⟨-, digest, apart⟩ :=
    fingerprint_spec ReferenceSodium.sodium exampleHash rfl one two
  have differ :
      exampleHash (one.toList ++ two.toList) ≠
        exampleHash (two.toList ++ one.toList) := by decide +kernel
  refine ⟨fun same => ?_, digest⟩
  have equal :=
    (apart two one fun collides => absurd collides differ).mp same
  exact absurd equal.1 (by decide +kernel)

end Examples

end FingerprintService
end Crypto
end VoxDesktop
