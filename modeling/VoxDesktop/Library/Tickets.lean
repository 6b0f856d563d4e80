import Mathlib.Data.List.Nodup
import Mathlib.Data.Nat.Notation

/-!
# Tickets

A counter hands out numbers, and nothing else does.  A number that is handed
out is held by one agent until the agent drops it or spends it, so that no
number is ever spent twice, and nobody else has what an agent holds.
-/

namespace Library
namespace Tickets

variable {Agent : Type*}

/-- Numbers below the counter are held, each by one agent, or spent, each
once, or neither. -/
structure Kept
    (next : ℕ) (holds : Agent → ℕ → Prop) (spent : List ℕ) : Prop where
  heldBelow : ∀ agent ticket, holds agent ticket → ticket < next
  spentBelow : ∀ ticket ∈ spent, ticket < next
  holder : ∀ agent other ticket,
    holds agent ticket → holds other ticket → agent = other
  unspent : ∀ agent ticket, holds agent ticket → ticket ∉ spent
  distinct : spent.Nodup

theorem kept_start (next : ℕ) : Kept next (fun (_ : Agent) _ => False) [] where
  heldBelow _ _ absurdity := absurdity.elim
  spentBelow _ absent := nomatch absent
  holder _ _ _ absurdity := absurdity.elim
  unspent _ _ absurdity := absurdity.elim
  distinct := List.nodup_nil

section Steps

variable {next : ℕ} {holds after : Agent → ℕ → Prop} {spent : List ℕ}

/-- Agents drop what they hold, and numbers are handed out to nobody. -/
theorem Kept.drop
    (kept : Kept next holds spent) {further : ℕ} (later : next ≤ further)
    (fewer : ∀ agent ticket, after agent ticket → holds agent ticket) :
    Kept further after spent where
  heldBelow agent ticket held :=
    Nat.lt_of_lt_of_le (kept.heldBelow agent ticket (fewer _ _ held)) later
  spentBelow ticket member :=
    Nat.lt_of_lt_of_le (kept.spentBelow ticket member) later
  holder agent other ticket held otherHeld :=
    kept.holder agent other ticket (fewer _ _ held) (fewer _ _ otherHeld)
  unspent agent ticket held := kept.unspent agent ticket (fewer _ _ held)
  distinct := kept.distinct

/-- An agent gets the next number. -/
theorem Kept.take
    (kept : Kept next holds spent) {further : ℕ} (later : next < further)
    {taker : Agent}
    (more : ∀ agent ticket, after agent ticket →
      holds agent ticket ∨ agent = taker ∧ ticket = next) :
    Kept further after spent where
  heldBelow agent ticket held := by
    rcases more agent ticket held with old | ⟨rfl, rfl⟩
    · exact Nat.lt_trans (kept.heldBelow agent ticket old) later
    · exact later
  spentBelow ticket member := Nat.lt_trans (kept.spentBelow ticket member) later
  holder agent other ticket held otherHeld := by
    rcases more agent ticket held with old | ⟨rfl, isNext⟩
    · rcases more other ticket otherHeld with otherOld | ⟨_, rfl⟩
      · exact kept.holder agent other ticket old otherOld
      · exact absurd (kept.heldBelow agent ticket old) (Nat.lt_irrefl _)
    · rcases more other ticket otherHeld with otherOld | ⟨same, _⟩
      · rw [isNext] at otherOld
        exact absurd (kept.heldBelow other next otherOld) (Nat.lt_irrefl _)
      · exact same.symm
  unspent agent ticket held member := by
    rcases more agent ticket held with old | ⟨_, rfl⟩
    · exact kept.unspent agent ticket old member
    · exact absurd (kept.spentBelow ticket member) (Nat.lt_irrefl _)
  distinct := kept.distinct

/-- An agent spends what it holds. -/
theorem Kept.spend
    (kept : Kept next holds spent)
    {spender : Agent} {ticket : ℕ} (held : holds spender ticket)
    (fewer : ∀ agent other, after agent other →
      holds agent other ∧ other ≠ ticket) :
    Kept next after (spent ++ [ticket]) where
  heldBelow agent other holding :=
    kept.heldBelow agent other (fewer agent other holding).1
  spentBelow other member := by
    rcases List.mem_append.mp member with old | new
    · exact kept.spentBelow other old
    · rw [List.mem_singleton.mp new]
      exact kept.heldBelow spender ticket held
  holder agent second other holding secondHolding :=
    kept.holder agent second other (fewer agent other holding).1
      (fewer second other secondHolding).1
  unspent agent other holding member := by
    obtain ⟨old, different⟩ := fewer agent other holding
    rcases List.mem_append.mp member with before | new
    · exact kept.unspent agent other old before
    · exact different (List.mem_singleton.mp new)
  distinct := by
    rw [← List.concat_eq_append, List.nodup_concat]
    exact ⟨kept.unspent spender ticket held, kept.distinct⟩

end Steps

end Tickets
end Library
