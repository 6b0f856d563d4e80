import Mathlib.Algebra.Order.Group.Nat

/-!
# Lamport clocks

A clock ticks by itself and is moved forward by the times it witnesses.  It
follows inputs of any kind, some of which are events for it.  A clock never
goes back, and what it reads after a list of inputs is bounded exactly when
the ticks after each witnessed time stay within the bound.
-/

namespace Library
namespace LamportClock

inductive Event
  | tick
  | witness (time : ℕ)

/-- Reading after one event, or after an input that is none. -/
def advance (time : ℕ) : Option Event → ℕ
  | none => time
  | some .tick => time + 1
  | some (.witness other) => max time other

variable {ι : Type*} (event : ι → Option Event)

/-- Reading after a list of inputs. -/
def read : ℕ → List ι → ℕ
  | time, [] => time
  | time, input :: inputs => read (advance time (event input)) inputs

/-- Number of ticks in a list of inputs. -/
def ticks : List ι → ℕ
  | [] => 0
  | input :: inputs =>
      match event input with
      | some .tick => ticks inputs + 1
      | _ => ticks inputs

variable {event}

@[simp] theorem read_nil (time : ℕ) : read event time [] = time := rfl

@[simp] theorem read_cons (time : ℕ) (input : ι) (inputs : List ι) :
    read event time (input :: inputs) =
      read event (advance time (event input)) inputs := rfl

theorem read_append (time : ℕ) (first second : List ι) :
    read event time (first ++ second) =
      read event (read event time first) second := by
  induction first generalizing time with
  | nil => rfl
  | cons input first inductionHypothesis => exact inductionHypothesis _

theorem le_advance (time : ℕ) (happened : Option Event) :
    time ≤ advance time happened := by
  cases happened with
  | none => exact Nat.le_refl time
  | some happened =>
      cases happened with
      | tick => exact Nat.le_succ time
      | witness other => exact Nat.le_max_left time other

/-- A clock never goes back. -/
theorem le_read (time : ℕ) (inputs : List ι) :
    time ≤ read event time inputs := by
  induction inputs generalizing time with
  | nil => exact Nat.le_refl time
  | cons input inputs inductionHypothesis =>
      exact Nat.le_trans (le_advance time (event input))
        (inductionHypothesis _)

/-- Along a list of inputs the readings do not decrease. -/
theorem read_le_read_append (time : ℕ) (first second : List ι) :
    read event time first ≤ read event time (first ++ second) := by
  rw [read_append]
  exact le_read _ second

/-- A property of every place of a nonempty list is one of its head and of
every place of its tail. -/
theorem forall_split_cons
    {property : ι → List ι → Prop} {input : ι} {inputs : List ι} :
    (∀ earlier here later, input :: inputs = earlier ++ here :: later →
        property here later) ↔
      property input inputs ∧
        ∀ earlier here later, inputs = earlier ++ here :: later →
          property here later := by
  constructor
  · intro holds
    refine ⟨holds [] input inputs rfl, ?_⟩
    rintro earlier here later rfl
    exact holds (input :: earlier) here later rfl
  · rintro ⟨head, tail⟩ earlier here later split
    cases earlier with
    | nil =>
        cases split
        exact head
    | cons first earlier =>
        rw [List.cons_append, List.cons.injEq] at split
        exact tail earlier here later split.2

/-- A clock stays within a bound exactly when the ticks after its start do,
and the ticks after each time it witnesses. -/
theorem read_le_iff (time bound : ℕ) (inputs : List ι) :
    read event time inputs ≤ bound ↔
      time + ticks event inputs ≤ bound ∧
        ∀ earlier input later, inputs = earlier ++ input :: later →
          ∀ other, event input = some (.witness other) →
            other + ticks event later ≤ bound := by
  induction inputs generalizing time with
  | nil => simp [ticks]
  | cons input inputs inductionHypothesis =>
      rw [read_cons, inductionHypothesis, ticks,
        @forall_split_cons ι fun input later =>
          ∀ other, event input = some (.witness other) →
            other + ticks event later ≤ bound]
      cases happened : event input with
      | none => simp [advance]
      | some here =>
          cases here with
          | tick => simp [advance, Nat.add_assoc, Nat.add_comm 1]
          | witness other =>
              simp only [advance, Option.some.injEq, Event.witness.injEq,
                forall_eq', ← and_assoc]
              refine and_congr_left fun _ => ?_
              omega

end LamportClock
end Library
