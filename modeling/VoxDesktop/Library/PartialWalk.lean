import Mathlib.Data.Set.Card

/-!
# Walks that may stop

A partial step function sends a position to the next one or stops.  A walk
stops exactly when it gets to finitely many positions and none of them leads
back to itself.
-/

namespace Library
namespace PartialWalk

variable {Position : Type*} (next : Position → Option Position)

/-- The position after some steps; nothing once the walk has stopped. -/
def walk : ℕ → Position → Option Position
  | 0, position => some position
  | steps + 1, position => (next position).bind (walk steps)

/-- The walk gets to a position. -/
def Reaches (start target : Position) : Prop :=
  ∃ steps, walk next steps start = some target

/-- The walk does not go on forever. -/
def Stops (start : Position) : Prop :=
  ∃ steps, walk next steps start = none

/-- The walk gets to a position that leads back to itself. -/
def MeetsCycle (start : Position) : Prop :=
  ∃ position steps,
    Reaches next start position ∧ 0 < steps ∧
      walk next steps position = some position

variable {next} {start : Position}

theorem walk_add (first second : ℕ) (start : Position) :
    walk next (first + second) start =
      (walk next first start).bind (walk next second) := by
  induction first generalizing start with
  | zero => rw [Nat.zero_add, walk, Option.bind_some]
  | succ first inductionHypothesis =>
      rw [Nat.succ_add, walk, walk]
      cases next start with
      | none => rfl
      | some position => exact inductionHypothesis position

/-- A walk that has stopped does not start again. -/
theorem walk_eq_none_of_le
    {fewer more : ℕ}
    (stopped : walk next fewer start = none)
    (ordered : fewer ≤ more) :
    walk next more start = none := by
  obtain ⟨further, rfl⟩ := Nat.exists_eq_add_of_le ordered
  rw [walk_add, stopped, Option.bind_none]

/-- A cycle can be walked any number of times. -/
theorem walk_mul
    {position : Position} {steps : ℕ}
    (returns : walk next steps position = some position)
    (rounds : ℕ) :
    walk next (rounds * steps) position = some position := by
  induction rounds with
  | zero => rw [Nat.zero_mul, walk]
  | succ rounds inductionHypothesis =>
      rw [Nat.succ_mul, walk_add, inductionHypothesis, Option.bind_some,
        returns]

/-- A walk that stops meets no cycle. -/
theorem Stops.not_meetsCycle (stops : Stops next start) :
    ¬MeetsCycle next start := by
  rintro ⟨position, steps, ⟨before, reached⟩, positive, returns⟩
  obtain ⟨last, stopped⟩ := stops
  have late : last ≤ before + last * steps :=
    le_trans (Nat.le_mul_of_pos_right last positive) (Nat.le_add_left _ _)
  have gone := walk_eq_none_of_le stopped late
  rw [walk_add, reached, Option.bind_some, walk_mul returns] at gone
  contradiction

/-- Two visits of one position make a cycle. -/
theorem meetsCycle_of_revisit
    {position : Position} {first second : ℕ}
    (ordered : first < second)
    (firstVisit : walk next first start = some position)
    (secondVisit : walk next second start = some position) :
    MeetsCycle next start := by
  refine ⟨position, second - first, ⟨first, firstVisit⟩,
    Nat.sub_pos_of_lt ordered, ?_⟩
  rw [← Nat.add_sub_of_le ordered.le, walk_add, firstVisit,
    Option.bind_some] at secondVisit
  exact secondVisit

/-- Without a cycle the walk takes no more steps than there are positions. -/
theorem walk_ncard_eq_none
    (finite : { target | Reaches next start target }.Finite)
    (acyclic : ¬MeetsCycle next start) :
    walk next { target | Reaches next start target }.ncard start = none := by
  classical
  by_contra goesOn
  have visits :
      ∀ steps ∈ Finset.range
          ({ target | Reaches next start target }.ncard + 1),
        walk next steps start ∈ finite.toFinset.image some := by
    intro steps within
    have notStopped : walk next steps start ≠ none := fun stopped =>
      goesOn (walk_eq_none_of_le stopped
        (Nat.lt_succ_iff.mp (Finset.mem_range.mp within)))
    obtain ⟨position, visited⟩ := Option.ne_none_iff_exists'.mp notStopped
    rw [visited]
    exact Finset.mem_image_of_mem some
      (finite.mem_toFinset.mpr ⟨steps, visited⟩)
  have fewPositions :
      (finite.toFinset.image some).card <
        (Finset.range
          ({ target | Reaches next start target }.ncard + 1)).card := by
    rw [Finset.card_range, Set.ncard_eq_toFinset_card _ finite]
    exact Nat.lt_succ_of_le Finset.card_image_le
  obtain ⟨first, within, second, _, different, same⟩ :=
    Finset.exists_ne_map_eq_of_card_lt_of_maps_to fewPositions visits
  obtain ⟨position, _, visited⟩ := Finset.mem_image.mp (visits first within)
  rcases Nat.lt_or_gt_of_ne different with before | after
  · exact acyclic
      (meetsCycle_of_revisit before visited.symm (same ▸ visited.symm))
  · exact acyclic
      (meetsCycle_of_revisit after (same ▸ visited.symm) visited.symm)

/-- A walk that stops gets to finitely many positions. -/
theorem Stops.finite_reaches (stops : Stops next start) :
    { target | Reaches next start target }.Finite := by
  obtain ⟨last, stopped⟩ := stops
  refine ((Set.finite_lt_nat last).image fun steps =>
    (walk next steps start).getD start).subset ?_
  rintro target ⟨steps, reached⟩
  refine ⟨steps, ?_, ?_⟩
  · by_contra late
    rw [walk_eq_none_of_le stopped (Nat.not_lt.mp late)] at reached
    contradiction
  · dsimp only
    rw [reached, Option.getD_some]

end PartialWalk
end Library
