import Mathlib.Data.List.DropRight

/-!
# Trimming in two steps

Elements of one kind are dropped at both ends of a list, then elements of
another kind at its right end.  The second step can uncover elements of the
first kind, so the two steps together are not always idempotent.
-/

namespace Library
namespace Trimming

variable {α : Type*} (outer inner : α → Bool)

/-- Drop at both ends. -/
def trim (list : List α) : List α :=
  (list.dropWhile outer).rdropWhile outer

/-- Drop at both ends, then at the right end. -/
def normalize (list : List α) : List α :=
  (trim outer list).rdropWhile inner

/-- An element of the first kind directly before those of the second kind at
the right end. -/
def Uncovers (list : List α) : Prop :=
  ∃ front last run, run ≠ [] ∧ (∀ element ∈ run, inner element = true) ∧
    inner last = false ∧ outer last = true ∧ list = front ++ last :: run

section

variable {outer inner}

theorem dropWhile_eq_self_of_prefix
    {list whole : List α}
    (isPrefix : list <+: whole) (kept : whole.dropWhile outer = whole) :
    list.dropWhile outer = list := by
  cases list with
  | nil => rfl
  | cons first rest =>
      obtain ⟨rest', same⟩ := isPrefix
      rw [← same, List.cons_append, List.dropWhile_eq_self_iff] at kept
      apply List.dropWhile_cons_of_neg
      exact kept (Nat.succ_pos _)

theorem prefix_trim (list : List α) :
    trim outer list <+: list.dropWhile outer :=
  List.rdropWhile_prefix outer _

/-- What starts a trimmed list starts with no element to drop. -/
theorem dropWhile_of_prefix_trim
    {list whole : List α}
    (isPrefix : list <+: trim outer whole) :
    list.dropWhile outer = list := by
  apply dropWhile_eq_self_of_prefix (isPrefix.trans (prefix_trim whole))
  exact List.dropWhile_idempotent outer _

/-- Normalising again changes nothing exactly when no element of the first
kind ends the normalised list. -/
theorem normalize_normalize_iff_last (list : List α) :
    normalize outer inner (normalize outer inner list) =
        normalize outer inner list ↔
      ∀ nonempty : normalize outer inner list ≠ [],
        ¬outer ((normalize outer inner list).getLast nonempty) = true := by
  have start :
      (normalize outer inner list).dropWhile outer =
        normalize outer inner list :=
    dropWhile_of_prefix_trim (List.rdropWhile_prefix inner _)
  have again :
      normalize outer inner (normalize outer inner list) =
        ((normalize outer inner list).rdropWhile outer).rdropWhile inner := by
    rw [normalize, trim, start]
  rw [again, ← List.rdropWhile_eq_self_iff]
  constructor
  · intro same
    apply (List.rdropWhile_prefix outer _).eq_of_length_le
    calc (normalize outer inner list).length
        = (((normalize outer inner list).rdropWhile outer).rdropWhile
            inner).length := by rw [same]
      _ ≤ ((normalize outer inner list).rdropWhile outer).length :=
          (List.rdropWhile_prefix inner _).length_le
  · intro same
    rw [same]
    exact List.rdropWhile_idempotent inner _

/-- A run at the right end is dropped. -/
theorem rdropWhile_append_run
    {front run : List α} {last : α}
    (dropped : ∀ element ∈ run, inner element = true)
    (kept : inner last = false) :
    (front ++ last :: run).rdropWhile inner = front ++ [last] := by
  induction run using List.reverseRecOn with
  | nil =>
      apply List.rdropWhile_concat_neg
      rw [kept]
      exact Bool.false_ne_true
  | append_singleton run element inductionHypothesis =>
      rw [← List.cons_append, ← List.append_assoc,
        List.rdropWhile_concat_pos _ _ _ (dropped element (by simp))]
      apply inductionHypothesis
      intro earlier within
      exact dropped earlier (List.mem_append_left _ within)

/-- Normalising is idempotent on the lists whose second step uncovers
nothing. -/
theorem normalize_normalize_iff (list : List α) :
    normalize outer inner (normalize outer inner list) =
        normalize outer inner list ↔
      ¬Uncovers outer inner (trim outer list) := by
  rw [normalize_normalize_iff_last]
  constructor
  · rintro ends ⟨front, last, run, -, dropped, kept, uncovered, same⟩
    have normalized : normalize outer inner list = front ++ [last] := by
      rw [normalize, same]
      exact rdropWhile_append_run dropped kept
    apply ends (by simp [normalized])
    simpa only [normalized, List.getLast_concat] using uncovered
  · intro covered nonempty uncovered
    apply covered
    have whole :
        normalize outer inner list ++ (trim outer list).rtakeWhile inner =
          trim outer list :=
      List.rdropWhile_append_rtakeWhile
    refine ⟨(normalize outer inner list).dropLast,
      (normalize outer inner list).getLast nonempty,
      (trim outer list).rtakeWhile inner, ?_,
      fun element within => List.mem_rtakeWhile_imp within,
      Bool.not_eq_true _ ▸ List.rdropWhile_last_not inner _ nonempty,
      uncovered, ?_⟩
    · intro empty
      rw [empty, List.append_nil] at whole
      have ends : ∀ nonempty : normalize outer inner list ≠ [],
          ¬outer ((normalize outer inner list).getLast nonempty) = true := by
        rw [whole]
        exact List.rdropWhile_last_not outer _
      exact ends nonempty uncovered
    · rw [List.append_cons, List.dropLast_append_getLast, whole]

end

end Trimming
end Library
