import VoxDesktop.Crypto.ReferenceSodium
import VoxDesktop.Library.Hkdf

/-!
# HKDF-SHA256

The extract-and-expand loop of `crypto/HkdfSha256`, with its one-octet block
counter.  The loop is bounded by 255 blocks because it gives up when the
counter wraps around.  It gives up as soon as the counter has wrapped, which is
after the last permitted block was already appended.
-/

namespace VoxDesktop
namespace Crypto

open Qt CryptoHelpers

/-- The expansion loop.  Each round either leaves it or moves the counter
closer to zero, so 256 rounds of fuel are never used up. -/
def hkdfExpandLoop
    (sodium : Sodium) (prk info : QByteArray) (outputLen : ℕ) :
    ℕ → (t out : QByteArray) → (counter : UInt8) → QByteArray
  | 0, _, _, _ => []
  | fuel + 1, t, out, counter =>
      if out.length < outputLen then
        let block := hmacSha256 sodium prk (t ++ info ++ [counter])
        if block = [] then []
        else if counter + 1 = 0 then []
        else hkdfExpandLoop sodium prk info outputLen fuel
          block (out ++ block) (counter + 1)
      else out.take outputLen

def hkdfSha256
    (sodium : Sodium)
    (ikm salt info : QByteArray) (outputLen : ℤ) : QByteArray :=
  if outputLen ≤ 0 ∨ ikm = [] then []
  else
    let normalizedSalt :=
      if salt = [] then List.replicate kHkdfDefaultSaltBytes 0 else salt
    let prk := hmacSha256 sodium normalizedSalt ikm
    if prk = [] then []
    else hkdfExpandLoop sodium prk info outputLen.toNat 256 [] [] 1

/-! ## The loop without fuel -/

/-- What the `while` loop returns from a state, as the source runs it. -/
inductive HkdfExpandReturns
    (sodium : Sodium) (prk info : QByteArray) (outputLen : ℕ) :
    (t out : QByteArray) → UInt8 → QByteArray → Prop
  | reached
      {t out : QByteArray} {counter : UInt8}
      (enough : ¬out.length < outputLen) :
      HkdfExpandReturns sodium prk info outputLen t out counter
        (out.take outputLen)
  | refused
      {t out : QByteArray} {counter : UInt8}
      (short : out.length < outputLen)
      (failed : hmacSha256 sodium prk (t ++ info ++ [counter]) = []) :
      HkdfExpandReturns sodium prk info outputLen t out counter []
  | wrapped
      {t out : QByteArray} {counter : UInt8}
      (short : out.length < outputLen)
      (worked : hmacSha256 sodium prk (t ++ info ++ [counter]) ≠ [])
      (wraps : counter + 1 = 0) :
      HkdfExpandReturns sodium prk info outputLen t out counter []
  | again
      {t out : QByteArray} {counter : UInt8} {result : QByteArray}
      (short : out.length < outputLen)
      (worked : hmacSha256 sodium prk (t ++ info ++ [counter]) ≠ [])
      (counts : counter + 1 ≠ 0)
      (rest :
        HkdfExpandReturns sodium prk info outputLen
          (hmacSha256 sodium prk (t ++ info ++ [counter]))
          (out ++ hmacSha256 sodium prk (t ++ info ++ [counter]))
          (counter + 1) result) :
      HkdfExpandReturns sodium prk info outputLen t out counter result

private theorem toNat_succ
    {counter : UInt8}
    (counts : counter + 1 ≠ 0) :
    (counter + 1).toNat = counter.toNat + 1 := by
  have bound := counter.toNat_lt
  have notLast : counter.toNat + 1 ≠ 256 := by
    intro last
    refine counts (UInt8.toNat_inj.mp ?_)
    rw [UInt8.toNat_add, UInt8.toNat_one, last]
    rfl
  rw [UInt8.toNat_add, UInt8.toNat_one]
  omega

/-- The counter leaves room for fewer rounds than there is fuel, so the loop
returns, and the bounded loop gives its value. -/
theorem hkdfExpandLoop_returns
    (sodium : Sodium) (prk info : QByteArray) (outputLen : ℕ)
    (fuel : ℕ) (t out : QByteArray) (counter : UInt8)
    (enough : 256 ≤ counter.toNat + fuel) :
    HkdfExpandReturns sodium prk info outputLen t out counter
      (hkdfExpandLoop sodium prk info outputLen fuel t out counter) := by
  induction fuel generalizing t out counter with
  | zero =>
      have bound := counter.toNat_lt
      omega
  | succ fuel continued =>
      rw [hkdfExpandLoop]
      split
      next short =>
        dsimp only
        split
        next failed => exact .refused short failed
        next worked =>
          split
          next wraps => exact .wrapped short worked wraps
          next counts =>
            refine .again short worked counts (continued _ _ _ ?_)
            rw [toNat_succ counts]
            omega
      next reached => exact .reached reached

/-! ## What is returned -/

/-- The keyed function of the derivation. -/
def hmac (sodium : Sodium) (key text : QByteArray) : QByteArray :=
  (sodium.hmacSha256 key text).toList

/-- Output of RFC 5869 for the admitted arguments and nothing for others. -/
def rfc5869Output
    (sodium : Sodium)
    (ikm salt info : QByteArray) (outputLen : ℤ) : QByteArray :=
  if ikm ≠ [] ∧ 1 ≤ outputLen ∧ outputLen ≤ 255 * kSha256Bytes then
    Library.Hkdf.derive (hmac sodium) UInt8.ofNat kSha256Bytes 0
      ikm salt info outputLen.toNat
  else []

variable {sodium : Sodium}

/-- A single block of output is one HMAC under the extracted key. -/
theorem hkdfSha256_one_block
    {ikm salt : QByteArray} (info : QByteArray)
    (initialized : sodium.initialized = true)
    (ikmNonempty : ikm ≠ [])
    (saltNonempty : salt ≠ []) :
    hkdfSha256 sodium ikm salt info kChaCha20KeyBytes =
      hmacSha256 sodium (hmacSha256 sodium salt ikm) (info ++ [1]) := by
  have prkSize := length_hmacSha256 ikm initialized saltNonempty
  have prkNonempty : hmacSha256 sodium salt ikm ≠ [] := by
    intro empty
    simp [empty] at prkSize
  have blockSize :=
    length_hmacSha256 (info ++ [1]) initialized prkNonempty
  have blockNonempty :
      hmacSha256 sodium (hmacSha256 sodium salt ikm) (info ++ [1]) ≠ [] := by
    intro empty
    simp [empty] at blockSize
  simp [hkdfSha256, ikmNonempty, saltNonempty, prkNonempty, hkdfExpandLoop,
    blockNonempty, blockSize, List.take_of_length_le]

theorem hmacSha256_eq_hmac
    {key : QByteArray} (text : QByteArray)
    (initialized : sodium.initialized = true)
    (keyNonempty : key ≠ []) :
    hmacSha256 sodium key text = hmac sodium key text := by
  simp [hmacSha256, hmac, initialized, keyNonempty]

theorem length_hmac (sodium : Sodium) (key text : QByteArray) :
    (hmac sodium key text).length = kSha256Bytes :=
  (sodium.hmacSha256 key text).toList_length

theorem hmac_ne_nil (sodium : Sodium) (key text : QByteArray) :
    hmac sodium key text ≠ [] :=
  toList_ne_nil _ (by decide)

private theorem numeral_succ_eq_zero_iff
    {count : ℕ}
    (bound : count ≤ 254) :
    UInt8.ofNat (count + 1) + 1 = 0 ↔ count = 254 := by
  rw [← UInt8.toNat_inj, UInt8.toNat_add, UInt8.toNat_one, UInt8.toNat_ofNat',
    UInt8.toNat_zero]
  omega

private theorem numeral_succ (count : ℕ) :
    UInt8.ofNat (count + 1) + 1 = UInt8.ofNat (count + 1 + 1) := by
  rw [UInt8.ofNat_add (count + 1) 1]
  rfl

/-- After some whole blocks the loop goes on to the expansion, unless it would
have to append the block numbered 255: then the counter has wrapped. -/
theorem hkdfExpandLoop_blocks
    {prk : QByteArray} (info : QByteArray) (outputLen : ℕ)
    (initialized : sodium.initialized = true)
    (prkNonempty : prk ≠ [])
    (fuel count : ℕ)
    (bound : count ≤ 254)
    (enough : 255 ≤ count + fuel) :
    hkdfExpandLoop sodium prk info outputLen fuel
        (Library.Hkdf.block (hmac sodium) UInt8.ofNat prk info count)
        (Library.Hkdf.blocks (hmac sodium) UInt8.ofNat prk info count)
        (UInt8.ofNat (count + 1)) =
      if outputLen ≤ 254 * kSha256Bytes then
        Library.Hkdf.expand (hmac sodium) UInt8.ofNat kSha256Bytes
          prk info outputLen
      else [] := by
  induction fuel generalizing count with
  | zero => omega
  | succ fuel continued =>
      have written :=
        Library.Hkdf.length_blocks UInt8.ofNat prk info
          (length_hmac sodium prk) count
      rw [hkdfExpandLoop, written,
        hmacSha256_eq_hmac _ initialized prkNonempty]
      split
      next short =>
        dsimp only
        rw [if_neg (hmac_ne_nil _ _ _)]
        by_cases last : count = 254
        · rw [if_pos ((numeral_succ_eq_zero_iff bound).mpr last),
            if_neg (by subst last; exact Nat.not_le.mpr short)]
        · rw [if_neg ((numeral_succ_eq_zero_iff bound).not.mpr last),
            numeral_succ]
          exact continued (count + 1) (by omega) (by omega)
      next reached =>
        have covered : outputLen ≤ count * kSha256Bytes :=
          Nat.not_lt.mp reached
        rw [if_pos (le_trans covered (Nat.mul_le_mul_right _ bound))]
        exact Library.Hkdf.take_blocks UInt8.ofNat prk info
          (length_hmac sodium prk) (by decide) covered

/-- Every call that passes the checks is a derivation of up to 254 blocks, and
nothing beyond them. -/
theorem hkdfSha256_eq
    {ikm : QByteArray} (salt info : QByteArray) {outputLen : ℤ}
    (initialized : sodium.initialized = true)
    (ikmNonempty : ikm ≠ [])
    (positive : 0 < outputLen) :
    hkdfSha256 sodium ikm salt info outputLen =
      if outputLen ≤ 254 * kSha256Bytes then
        Library.Hkdf.derive (hmac sodium) UInt8.ofNat kSha256Bytes 0
          ikm salt info outputLen.toNat
      else [] := by
  have saltNonempty :
      (if salt = [] then List.replicate kHkdfDefaultSaltBytes (0 : UInt8)
        else salt) ≠ [] := by
    split
    next => exact List.cons_ne_nil _ _
    next given => exact given
  have checked : ¬(outputLen ≤ 0 ∨ ikm = []) := by
    rintro (notPositive | empty)
    · omega
    · exact ikmNonempty empty
  have sameBound :
      outputLen.toNat ≤ 254 * kSha256Bytes ↔
        outputLen ≤ 254 * kSha256Bytes := by
    omega
  rw [hkdfSha256, if_neg checked]
  dsimp only
  rw [hmacSha256_eq_hmac _ initialized saltNonempty,
    if_neg (hmac_ne_nil _ _ _)]
  have looped :=
    hkdfExpandLoop_blocks info outputLen.toNat initialized
      (hmac_ne_nil sodium
        (if salt = [] then List.replicate kHkdfDefaultSaltBytes (0 : UInt8)
          else salt) ikm)
      256 0 (by decide) (by decide)
  simp only [sameBound] at looped
  exact looped

/-- Without the library nothing is derived. -/
theorem hkdfSha256_uninitialized
    (ikm salt info : QByteArray) (outputLen : ℤ)
    (uninitialized : sodium.initialized = false) :
    hkdfSha256 sodium ikm salt info outputLen = [] := by
  have extracted :
      ∀ key, hmacSha256 sodium key ikm = [] := by
    intro key
    rw [hmacSha256, if_pos (Or.inl uninitialized)]
  rw [hkdfSha256]
  split
  next => rfl
  next =>
    dsimp only
    rw [if_pos (extracted _)]

/-- Nothing is returned from the 255th block on. -/
theorem hkdfSha256_eq_nil
    {ikm : QByteArray} (salt info : QByteArray) {outputLen : ℤ}
    (refused :
      ikm = [] ∨ outputLen ≤ 0 ∨ 254 * kSha256Bytes < outputLen ∨
        sodium.initialized = false) :
    hkdfSha256 sodium ikm salt info outputLen = [] := by
  by_cases checks : outputLen ≤ 0 ∨ ikm = []
  · rw [hkdfSha256, if_pos checks]
  rw [not_or] at checks
  cases initialized : sodium.initialized with
  | false => exact hkdfSha256_uninitialized _ _ _ _ initialized
  | true =>
      have long : ¬outputLen ≤ 254 * kSha256Bytes := by
        simpa only [checks, initialized, Bool.true_eq_false, false_or,
          or_false, not_le] using refused
      rw [hkdfSha256_eq salt info initialized checks.2
        (Int.not_le.mp checks.1), if_neg long]

theorem length_rfc5869Output
    (sodium : Sodium) {ikm : QByteArray} (salt info : QByteArray)
    {outputLen : ℤ}
    (ikmNonempty : ikm ≠ [])
    (positive : 1 ≤ outputLen)
    (bounded : outputLen ≤ 255 * kSha256Bytes) :
    (rfc5869Output sodium ikm salt info outputLen).length =
      outputLen.toNat := by
  rw [rfc5869Output, if_pos ⟨ikmNonempty, positive, bounded⟩]
  exact Library.Hkdf.length_expand UInt8.ofNat _ info (length_hmac sodium _)
    (by decide) _

/-- A permitted length has a nonempty output. -/
theorem rfc5869Output_ne_nil
    (sodium : Sodium) {ikm : QByteArray} (salt info : QByteArray)
    {outputLen : ℤ}
    (ikmNonempty : ikm ≠ [])
    (positive : 1 ≤ outputLen)
    (bounded : outputLen ≤ 255 * kSha256Bytes) :
    rfc5869Output sodium ikm salt info outputLen ≠ [] := by
  intro empty
  have size :=
    length_rfc5869Output sodium salt info ikmNonempty positive bounded
  rw [empty, List.length_nil] at size
  omega

/-- The loop always returns.  The derivation is the one of RFC 5869 except
where its last block is needed, and where the library could not be
initialised. -/
theorem hkdfSha256_eq_rfc5869Output_iff
    (sodium : Sodium) (ikm salt info : QByteArray) (outputLen : ℤ) :
    (∀ prk,
      HkdfExpandReturns sodium prk info outputLen.toNat [] [] 1
        (hkdfExpandLoop sodium prk info outputLen.toNat 256 [] [] 1)) ∧
      (hkdfSha256 sodium ikm salt info outputLen =
          rfc5869Output sodium ikm salt info outputLen ↔
        ikm = [] ∨ outputLen ≤ 0 ∨ 255 * kSha256Bytes < outputLen ∨
          (sodium.initialized = true ∧
            outputLen ≤ 254 * kSha256Bytes)) := by
  refine ⟨fun prk => hkdfExpandLoop_returns _ _ _ _ _ _ _ _ (by decide), ?_⟩
  by_cases admitted :
      ikm ≠ [] ∧ 1 ≤ outputLen ∧ outputLen ≤ 255 * kSha256Bytes
  · obtain ⟨ikmNonempty, positive, bounded⟩ := admitted
    have promised :=
      rfc5869Output_ne_nil sodium salt info ikmNonempty positive bounded
    constructor
    · intro same
      refine Or.inr (Or.inr (Or.inr ?_))
      by_contra outside
      rw [not_and_or, Bool.not_eq_true, not_le] at outside
      refine promised (same.symm.trans ?_)
      exact hkdfSha256_eq_nil salt info (Or.inr (Or.inr outside.symm))
    · rintro (empty | notPositive | tooLong | ⟨initialized, within⟩)
      · exact absurd empty ikmNonempty
      · omega
      · exact absurd bounded (Int.not_le.mpr tooLong)
      · rw [hkdfSha256_eq salt info initialized ikmNonempty positive,
          if_pos within, rfc5869Output,
          if_pos ⟨ikmNonempty, positive, bounded⟩]
  · have refused :
        ikm = [] ∨ outputLen ≤ 0 ∨ 255 * kSha256Bytes < outputLen := by
      by_contra none
      simp only [not_or, not_le, not_lt] at none
      exact admitted ⟨none.1, none.2.1, none.2.2⟩
    have nothing : hkdfSha256 sodium ikm salt info outputLen = [] := by
      refine hkdfSha256_eq_nil salt info ?_
      rcases refused with empty | notPositive | tooLong
      · exact Or.inl empty
      · exact Or.inr (Or.inl notPositive)
      · exact Or.inr (Or.inr (Or.inl (by omega)))
    rw [nothing, rfc5869Output, if_neg admitted]
    refine ⟨fun _ => ?_, fun _ => rfl⟩
    rcases refused with empty | notPositive | tooLong
    · exact Or.inl empty
    · exact Or.inr (Or.inl notPositive)
    · exact Or.inr (Or.inr (Or.inl tooLong))

/-- The last permitted length is refused, though the derivation has that many
octets. -/
theorem hkdfSha256_255_blocks :
    hkdfSha256 ReferenceSodium.sodium [1] [] [] (255 * kSha256Bytes) = [] ∧
      (rfc5869Output ReferenceSodium.sodium [1] [] []
        (255 * kSha256Bytes)).length = 255 * kSha256Bytes :=
  ⟨hkdfSha256_eq_nil [] [] (Or.inr (Or.inr (Or.inl (by decide)))),
    length_rfc5869Output _ [] [] (by decide) (by decide) (by decide)⟩

end Crypto
end VoxDesktop
