import Mathlib.Data.List.Basic

/-!
# Texts in segments

A separator divides a text into segments.  Writing a list of parts, each after
a separator, gives a text whose segments are the parts exactly if no part has
the separator in it.
-/

namespace Library
namespace Segments

variable {Symbol : Type*} [DecidableEq Symbol] (separator : Symbol)

/-- The parts one after the other, each after a separator. -/
def joined (parts : List (List Symbol)) : List Symbol :=
  parts.flatMap (separator :: ·)

/-- The segments after the first separator. -/
def segments (text : List Symbol) : List (List Symbol) :=
  (text.splitOn separator).tail

variable {separator}

/-- Each part falls into segments by itself. -/
theorem splitOn_append_joined
    (text : List Symbol) (parts : List (List Symbol)) :
    (text ++ joined separator parts).splitOn separator =
      text.splitOn separator ++ parts.flatMap (·.splitOn separator) := by
  induction parts generalizing text with
  | nil => simp [joined]
  | cons part parts inductionHypothesis =>
      have rest := inductionHypothesis part
      rw [joined, List.flatMap_cons, List.cons_append,
        List.splitOn_append_cons_self]
      rw [joined] at rest
      rw [rest, List.flatMap_cons]

theorem segments_joined (parts : List (List Symbol)) :
    segments separator (joined separator parts) =
      parts.flatMap (·.splitOn separator) := by
  have whole :
      (joined separator parts).splitOn separator =
        [] :: parts.flatMap (·.splitOn separator) :=
    splitOn_append_joined [] parts
  rw [segments, whole, List.tail_cons]

/-- A text has a segment more than separators. -/
theorem length_splitOn (text : List Symbol) :
    (text.splitOn separator).length = text.count separator + 1 := by
  induction text with
  | nil => rfl
  | cons symbol text inductionHypothesis =>
      rw [List.splitOn_cons_eq_if_modifyHead]
      by_cases separates : symbol = separator
      · simp [separates, inductionHypothesis]
      · simp [separates, inductionHypothesis]

theorem length_le_flatMap_splitOn (parts : List (List Symbol)) :
    parts.length ≤ (parts.flatMap (·.splitOn separator)).length := by
  induction parts with
  | nil => exact Nat.le_refl 0
  | cons part parts inductionHypothesis =>
      simp only [List.flatMap_cons, List.length_append, length_splitOn,
        List.length_cons]
      omega

/-- The parts are as many as the segments exactly if none has a separator. -/
theorem length_segments_joined_iff (parts : List (List Symbol)) :
    (segments separator (joined separator parts)).length = parts.length ↔
      ∀ part ∈ parts, separator ∉ part := by
  rw [segments_joined]
  induction parts with
  | nil => simp
  | cons part parts inductionHypothesis =>
      have atLeast :
          parts.length ≤ (parts.flatMap (·.splitOn separator)).length :=
        length_le_flatMap_splitOn parts
      rw [List.forall_mem_cons, ← inductionHypothesis,
        ← List.count_eq_zero (l := part)]
      simp only [List.flatMap_cons, List.length_append, length_splitOn,
        List.length_cons]
      omega

/-- Parts without separator are the segments. -/
theorem segments_joined_eq
    {parts : List (List Symbol)}
    (undivided : ∀ part ∈ parts, separator ∉ part) :
    segments separator (joined separator parts) = parts := by
  rw [segments_joined]
  induction parts with
  | nil => rfl
  | cons part parts inductionHypothesis =>
      rw [List.forall_mem_cons] at undivided
      rw [List.flatMap_cons, List.splitOn_eq_singleton undivided.1,
        inductionHypothesis undivided.2, List.singleton_append]

end Segments
end Library
