import Mathlib.Algebra.Group.Nat.Defs
import Mathlib.Data.List.Basic
import Mathlib.Data.Nat.Basic

/-!
# Regrouping octets into sextets

The arithmetic core of every base-64 format.  Three octets become four
sextets; a final group of one or two octets becomes two or three sextets whose
unused low bits are zero.  The inverse direction shifts sextets through a bit
buffer and emits an octet whenever eight bits are present, so it needs no
padding and drops the unused bits of the final group.
-/

namespace Library
namespace Radix64

/-- Sextets of an octet string, most significant bits first. -/
def toSextets : List UInt8 → List ℕ
  | [] => []
  | [first] => [first.toNat / 4, first.toNat % 4 * 16]
  | [first, second] =>
      [first.toNat / 4,
        first.toNat % 4 * 16 + second.toNat / 16,
        second.toNat % 16 * 4]
  | first :: second :: third :: rest =>
      first.toNat / 4 ::
        (first.toNat % 4 * 16 + second.toNat / 16) ::
        (second.toNat % 16 * 4 + third.toNat / 64) ::
        third.toNat % 64 :: toSextets rest

/-- Shift sextets through a buffer holding `pending` bits. -/
def shiftIn (buffer pending : ℕ) : List ℕ → List UInt8
  | [] => []
  | sextet :: sextets =>
      if 8 ≤ pending + 6 then
        UInt8.ofNat ((buffer * 64 + sextet) / 2 ^ (pending + 6 - 8)) ::
          shiftIn ((buffer * 64 + sextet) % 2 ^ (pending + 6 - 8))
            (pending + 6 - 8) sextets
      else
        shiftIn (buffer * 64 + sextet) (pending + 6) sextets

/-- Octets carried by a string of sextets. -/
def ofSextets (sextets : List ℕ) : List UInt8 :=
  shiftIn 0 0 sextets

/-- Every sextet is a six-bit number. -/
theorem toSextets_lt (octets : List UInt8) :
    ∀ sextet ∈ toSextets octets, sextet < 64 := by
  induction octets using toSextets.induct with
  | case1 => simp [toSextets]
  | case2 first =>
      have := first.toNat_lt
      simp only [toSextets, List.mem_cons, List.not_mem_nil, or_false]
      rintro sextet (rfl | rfl) <;> omega
  | case3 first second =>
      have := first.toNat_lt
      have := second.toNat_lt
      simp only [toSextets, List.mem_cons, List.not_mem_nil, or_false]
      rintro sextet (rfl | rfl | rfl) <;> omega
  | case4 first second third rest inductionHypothesis =>
      have := first.toNat_lt
      have := second.toNat_lt
      have := third.toNat_lt
      simp only [toSextets, List.mem_cons]
      rintro sextet (rfl | rfl | rfl | rfl | later)
      · omega
      · omega
      · omega
      · omega
      · exact inductionHypothesis sextet later

/-! ## Shifting through the buffer

The buffer only ever holds zero, two, four or six bits. -/

@[simp] theorem shiftIn_nil (buffer pending : ℕ) :
    shiftIn buffer pending [] = [] := rfl

theorem shiftIn_zero (buffer sextet : ℕ) (sextets : List ℕ) :
    shiftIn buffer 0 (sextet :: sextets) =
      shiftIn (buffer * 64 + sextet) 6 sextets := rfl

theorem shiftIn_six (buffer sextet : ℕ) (sextets : List ℕ) :
    shiftIn buffer 6 (sextet :: sextets) =
      UInt8.ofNat ((buffer * 64 + sextet) / 16) ::
        shiftIn ((buffer * 64 + sextet) % 16) 4 sextets := rfl

theorem shiftIn_four (buffer sextet : ℕ) (sextets : List ℕ) :
    shiftIn buffer 4 (sextet :: sextets) =
      UInt8.ofNat ((buffer * 64 + sextet) / 4) ::
        shiftIn ((buffer * 64 + sextet) % 4) 2 sextets := rfl

theorem shiftIn_two (buffer sextet : ℕ) (sextets : List ℕ) :
    shiftIn buffer 2 (sextet :: sextets) =
      UInt8.ofNat (buffer * 64 + sextet) :: shiftIn 0 0 sextets := by
  simp [shiftIn, Nat.mod_one]

private theorem ofNat_eq_of_toNat
    {octet : UInt8} {value : ℕ}
    (equal : value = octet.toNat) :
    UInt8.ofNat value = octet := by
  rw [equal, UInt8.ofNat_toNat]

/-- Decoding the sextets of an octet string gives the octets back. -/
theorem ofSextets_toSextets (octets : List UInt8) :
    ofSextets (toSextets octets) = octets := by
  unfold ofSextets
  induction octets using toSextets.induct with
  | case1 => rfl
  | case2 first =>
      have firstBound := first.toNat_lt
      simp only [toSextets, shiftIn_zero, shiftIn_six, shiftIn_nil,
        List.cons.injEq, and_true]
      exact ofNat_eq_of_toNat (by omega)
  | case3 first second =>
      have firstBound := first.toNat_lt
      have secondBound := second.toNat_lt
      simp only [toSextets, shiftIn_zero, shiftIn_six, shiftIn_four,
        shiftIn_nil, List.cons.injEq, and_true]
      exact ⟨ofNat_eq_of_toNat (by omega), ofNat_eq_of_toNat (by omega)⟩
  | case4 first second third rest inductionHypothesis =>
      have firstBound := first.toNat_lt
      have secondBound := second.toNat_lt
      have thirdBound := third.toNat_lt
      simp only [toSextets, shiftIn_zero, shiftIn_six, shiftIn_four,
        shiftIn_two, List.cons.injEq]
      exact ⟨ofNat_eq_of_toNat (by omega), ofNat_eq_of_toNat (by omega),
        ofNat_eq_of_toNat (by omega), inductionHypothesis⟩

end Radix64
end Library
