import Mathlib.Data.List.Basic
import Mathlib.Data.Nat.Notation

/-!
# Elements in groups

A loop over the elements of a list that writes a separator after every
`width`-th of them unless it is the last.  On groups of that width it writes
the groups with the separator between them.
-/

namespace Library
namespace Grouping

variable {α : Type*}

/-- The loop, from a position on, over the rest of a list of some size. -/
def separate (width size : ℕ) (separator : α) :
    (position : ℕ) → List α → List α
  | _, [] => []
  | position, element :: rest =>
      element ::
        ((if (position + 1) % width = 0 ∧ position + 1 < size then
            [separator]
          else []) ++
          separate width size separator (position + 1) rest)

variable {width size : ℕ} {separator : α}

/-- The elements up to the end of a group. -/
theorem separate_append
    {position : ℕ} {block rest : List α}
    (fills : position % width + block.length = width)
    (nonempty : block ≠ [])
    (sized : size = position + block.length + rest.length) :
    separate width size separator position (block ++ rest) =
      block ++
        (if rest = [] then []
          else separator ::
            separate width size separator (position + block.length) rest) := by
  induction block generalizing position with
  | nil => contradiction
  | cons element block inductionHypothesis =>
      rw [List.length_cons] at fills sized
      rw [List.cons_append, separate, List.cons_append]
      congr 1
      have wrapped :
          (position + 1) % width = (position % width + 1) % width :=
        Nat.add_mod_eq_add_mod_right 1 (Nat.mod_mod position width).symm
      by_cases last : block = []
      · subst last
        rw [List.length_nil, Nat.zero_add] at fills sized
        have ends : (position + 1) % width = 0 := by
          rw [wrapped, fills, Nat.mod_self]
        cases rest with
        | nil => simp [separate, sized]
        | cons next rest => simp [ends, sized]
      · have inside : (position + 1) % width = position % width + 1 := by
          have more := List.length_pos_of_ne_nil last
          rw [wrapped]
          exact Nat.mod_eq_of_lt (by omega)
        rw [if_neg (by omega), List.nil_append,
          inductionHypothesis (by omega) last (by omega)]
        simp only [List.length_cons, Nat.add_assoc, Nat.add_comm 1]

/-- On groups of its width the loop puts the separator between them. -/
theorem separate_flatten
    {position : ℕ} {groups : List (List α)}
    (positive : 0 < width)
    (starts : position % width = 0)
    (grouped : ∀ group ∈ groups, group.length = width)
    (sized : size = position + groups.flatten.length) :
    separate width size separator position groups.flatten =
      [separator].intercalate groups := by
  induction groups generalizing position with
  | nil => rfl
  | cons group groups inductionHypothesis =>
      rw [List.forall_mem_cons] at grouped
      rw [List.flatten_cons, List.length_append] at sized
      have nonempty : group ≠ [] := by
        rintro rfl
        simp at grouped
        omega
      rw [List.flatten_cons,
        separate_append (by omega) nonempty (by omega)]
      cases groups with
      | nil => simp [List.intercalate]
      | cons next groups =>
          have filled : (next :: groups).flatten ≠ [] := by
            have wide := grouped.2 next List.mem_cons_self
            apply List.ne_nil_of_length_pos
            rw [List.flatten_cons, List.length_append]
            omega
          rw [if_neg filled, inductionHypothesis ?_ grouped.2 (by omega)]
          · simp [List.intercalate]
          · rw [grouped.1, Nat.add_mod_right, starts]

/-- Without the separators the list is left. -/
theorem filter_separate
    [DecidableEq α] {position : ℕ} {list : List α}
    (absent : separator ∉ list) :
    (separate width size separator position list).filter
        (fun element => decide (element ≠ separator)) = list := by
  induction list generalizing position with
  | nil => rfl
  | cons element list inductionHypothesis =>
      rw [List.mem_cons, not_or] at absent
      have kept : decide (element ≠ separator) = true :=
        decide_eq_true (Ne.symm absent.1)
      rw [separate, List.filter_cons, if_pos kept, List.filter_append,
        inductionHypothesis absent.2]
      split
      · simp
      · rfl

/-- A list is made of as many groups as its length says. -/
theorem exists_groups
    {count : ℕ} {list : List α}
    (length : list.length = width * count) :
    ∃ groups : List (List α), groups.length = count ∧
      (∀ group ∈ groups, group.length = width) ∧ groups.flatten = list := by
  induction count generalizing list with
  | zero =>
      refine ⟨[], rfl, by simp, ?_⟩
      exact (List.length_eq_zero_iff.mp length).symm
  | succ count inductionHypothesis =>
      rw [Nat.mul_succ] at length
      have rest : (list.drop width).length = width * count := by
        rw [List.length_drop, length, Nat.add_sub_cancel]
      obtain ⟨groups, counted, grouped, flat⟩ := inductionHypothesis rest
      refine ⟨list.take width :: groups, by simp [counted], ?_, ?_⟩
      · rw [List.forall_mem_cons]
        refine ⟨?_, grouped⟩
        rw [List.length_take, length]
        exact Nat.min_eq_left (Nat.le_add_left _ _)
      · rw [List.flatten_cons, flat, List.take_append_drop]

end Grouping
end Library
