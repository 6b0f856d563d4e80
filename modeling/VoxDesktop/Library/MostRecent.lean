import Mathlib.Data.List.Sort

/-!
# Listings of the most recent rows

A listing of the most recent rows with a limit has as many rows as the limit
permits, in the order of their times, and every row it leaves out is older
than all it has.  Cutting a list in ascending order at the limit gives the
oldest rows, which are the most recent ones only when nothing is cut off.
-/

namespace Library

/-- The most recent of some rows, up to a limit, in ascending order. -/
structure MostRecent {Row : Type*}
    (time : Row → ℤ) (limit : ℕ) (rows listed : List Row) : Prop where
  ascending : listed.Pairwise fun earlier later => time earlier < time later
  subset : listed ⊆ rows
  length : listed.length = min limit rows.length
  recent : ∀ row ∈ rows, row ∉ listed →
    ∀ other ∈ listed, time row < time other

namespace MostRecent

variable {Row : Type*} (time : Row → ℤ)

/-- Rows in ascending order of their times. -/
def sorted (rows : List Row) : List Row :=
  rows.insertionSort fun first second => time first ≤ time second

variable {time}

/-- Rows with distinct times are sorted strictly. -/
theorem sorted_pairwise
    {rows : List Row} (distinct : (rows.map time).Nodup) :
    (sorted time rows).Pairwise fun earlier later =>
      time earlier < time later := by
  have total : Std.Total fun first second : Row => time first ≤ time second :=
    ⟨fun first second => le_total _ _⟩
  have transitive :
      IsTrans Row fun first second => time first ≤ time second :=
    ⟨fun _ _ _ => le_trans⟩
  have ordered := List.pairwise_insertionSort
    (fun first second : Row => time first ≤ time second) rows
  have sortedDistinct : ((sorted time rows).map time).Nodup :=
    ((List.perm_insertionSort _ rows).map time).nodup_iff.mpr distinct
  rw [List.Nodup, List.pairwise_map] at sortedDistinct
  exact (ordered.and sortedDistinct).imp fun both =>
    lt_of_le_of_ne both.1 both.2

/-- A listing that cuts off nothing is the listing of the most recent rows. -/
theorem of_length_le
    {limit : ℕ} {rows : List Row}
    (distinct : (rows.map time).Nodup)
    (fits : rows.length ≤ limit) :
    MostRecent time limit rows ((sorted time rows).take limit) := by
  have permuted : (sorted time rows).Perm rows :=
    List.perm_insertionSort _ rows
  rw [List.take_of_length_le (permuted.length_eq.trans_le fits)]
  refine ⟨sorted_pairwise distinct, permuted.subset, ?_, ?_⟩
  · rw [permuted.length_eq, Nat.min_eq_right fits]
  · intro row within absent
    exact absurd (permuted.mem_iff.mpr within) absent

/-- The oldest rows up to a limit are the most recent ones exactly when there
are no more rows than the limit. -/
theorem take_sorted_iff
    {limit : ℕ} {rows : List Row}
    (distinct : (rows.map time).Nodup)
    (positive : 0 < limit) :
    MostRecent time limit rows ((sorted time rows).take limit) ↔
      rows.length ≤ limit := by
  refine ⟨fun mostRecent => ?_, of_length_le distinct⟩
  by_contra exceeds
  have permuted : (sorted time rows).Perm rows :=
    List.perm_insertionSort _ rows
  have lengths := permuted.length_eq
  have strict := sorted_pairwise distinct
  -- The first row is listed, and the last one is cut off though it is newer.
  have firstBound : 0 < (sorted time rows).length := by omega
  have cutBound : limit < (sorted time rows).length := by omega
  have older := List.pairwise_iff_getElem.mp strict 0 limit firstBound
    cutBound positive
  have listed : (sorted time rows)[0] ∈ (sorted time rows).take limit := by
    rw [List.mem_take_iff_getElem]
    exact ⟨0, by omega, rfl⟩
  have cutOff :
      (sorted time rows)[limit] ∉ (sorted time rows).take limit := by
    rw [List.mem_take_iff_getElem]
    rintro ⟨index, bound, same⟩
    have before := List.pairwise_iff_getElem.mp strict index limit
      (by omega) cutBound (by omega)
    rw [same] at before
    exact lt_irrefl _ before
  have newer := mostRecent.recent _
    (permuted.mem_iff.mp (List.getElem_mem cutBound)) cutOff _ listed
  exact lt_asymm older newer

end MostRecent
end Library
