import Mathlib.Data.List.Basic
import Mathlib.Tactic.Ring

/-!
# Extract-and-expand key derivation

The construction of RFC 5869 over an arbitrary keyed function on strings of
symbols: a pseudorandom key is extracted from the input, and blocks that are
chained and numbered are cut to the length that is asked for.
-/

namespace Library
namespace Hkdf

variable {Symbol : Type*}
  (mac : (key text : List Symbol) → List Symbol)
  (numeral : ℕ → Symbol)

/-- The chained block `T(n)`; `T(0)` is empty. -/
def block (prk info : List Symbol) : ℕ → List Symbol
  | 0 => []
  | position + 1 =>
      mac prk (block prk info position ++ info ++ [numeral (position + 1)])

/-- The first blocks one after the other, `T(1) ‖ … ‖ T(count)`. -/
def blocks (prk info : List Symbol) : ℕ → List Symbol
  | 0 => []
  | count + 1 =>
      blocks prk info count ++ block mac numeral prk info (count + 1)

/-- The shortest row of blocks that reaches a length, cut to it. -/
def expand
    (macLength : ℕ) (prk info : List Symbol) (length : ℕ) : List Symbol :=
  (blocks mac numeral prk info
    ((length + macLength - 1) / macLength)).take length

/-- The whole derivation.  A missing salt is as many zeros as the keyed
function has outputs. -/
def derive
    [DecidableEq Symbol] (macLength : ℕ) (zero : Symbol)
    (ikm salt info : List Symbol) (length : ℕ) : List Symbol :=
  expand mac numeral macLength
    (mac (if salt = [] then List.replicate macLength zero else salt) ikm)
    info length

section Lengths

variable {mac} {macLength : ℕ} (prk info : List Symbol)
  (size : ∀ text, (mac prk text).length = macLength)

include size

theorem length_blocks (count : ℕ) :
    (blocks mac numeral prk info count).length = count * macLength := by
  induction count with
  | zero => rw [blocks, List.length_nil, Nat.zero_mul]
  | succ count previous =>
      rw [blocks, List.length_append, previous, block, size]
      ring

/-- Further blocks do not change the octets that were already reached. -/
theorem take_blocks_of_le
    {fewer more length : ℕ}
    (enough : length ≤ fewer * macLength)
    (ordered : fewer ≤ more) :
    (blocks mac numeral prk info more).take length =
      (blocks mac numeral prk info fewer).take length := by
  induction more, ordered using Nat.le_induction with
  | base => rfl
  | succ more ordered same =>
      have reached :
          length ≤ (blocks mac numeral prk info more).length := by
        rw [length_blocks numeral prk info size]
        exact le_trans enough (Nat.mul_le_mul_right _ ordered)
      rw [blocks, List.take_append_of_le_length reached, same]

/-- Any row of blocks that reaches the length gives the expansion. -/
theorem take_blocks
    {count length : ℕ}
    (positive : 0 < macLength)
    (enough : length ≤ count * macLength) :
    (blocks mac numeral prk info count).take length =
      expand mac numeral macLength prk info length := by
  have shortest : (length + macLength - 1) / macLength ≤ count := by
    rw [Nat.div_le_iff_le_mul_add_pred positive, Nat.mul_comm]
    omega
  have reaches :
      length ≤ (length + macLength - 1) / macLength * macLength := by
    have divided :=
      Nat.lt_mul_div_succ (length + macLength - 1) positive
    rw [Nat.mul_add, Nat.mul_one, Nat.mul_comm] at divided
    omega
  exact take_blocks_of_le numeral prk info size reaches shortest

theorem length_expand
    (positive : 0 < macLength)
    (length : ℕ) :
    (expand mac numeral macLength prk info length).length = length := by
  have reached : length ≤ length * macLength :=
    Nat.le_mul_of_pos_right length positive
  rw [← take_blocks numeral prk info size positive reached,
    List.length_take, length_blocks numeral prk info size]
  exact Nat.min_eq_left reached

end Lengths
end Hkdf
end Library
