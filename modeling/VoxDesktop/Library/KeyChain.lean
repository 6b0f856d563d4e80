import Mathlib.Data.Set.Function
import Mathlib.Data.List.Sublists

/-!
# One-way key chains

A key chain starts from a base key and is advanced by a keyed function under
the label of the current position.  A second label gives the message key of
that position.  The keyed function is arbitrary; the only property ever asked
of it is that it does not collide on a stated set of inputs.

The last section is the order argument of a receiver that only moves forward:
what it accepts is a sublist of what was sent.
-/

namespace Library

/-- A keyed function together with the two label families of a chain. -/
structure KeyChain (Key Label : Type*) where
  keyed : Key → Label → Key
  advanceLabel : ℕ → Label
  messageLabel : ℕ → Label

namespace KeyChain

variable {Key Label : Type*} (chain : KeyChain Key Label)

/-- Chain key at a position. -/
def chainKey (base : Key) : ℕ → Key
  | 0 => base
  | position + 1 =>
      chain.keyed (chainKey base position) (chain.advanceLabel position)

/-- Message key at a position. -/
def messageKey (base : Key) (position : ℕ) : Key :=
  chain.keyed (chain.chainKey base position) (chain.messageLabel position)

theorem chainKey_succ (base : Key) (position : ℕ) :
    chain.chainKey base (position + 1) =
      chain.keyed (chain.chainKey base position)
        (chain.advanceLabel position) := rfl

/-- Inputs of the keyed function that produce the message keys below a
bound. -/
def messageInputs (base : Key) (bound : ℕ) : Set (Key × Label) :=
  { input | ∃ position < bound,
      input = (chain.chainKey base position, chain.messageLabel position) }

/-- The keyed function gives distinct outputs on distinct inputs of a set. -/
def CollisionFreeOn (inputs : Set (Key × Label)) : Prop :=
  Set.InjOn (fun input => chain.keyed input.1 input.2) inputs

/-- Without collisions, distinct positions have distinct message keys. -/
theorem messageKey_inj
    {base : Key} {bound first second : ℕ}
    (labelsDistinct : Function.Injective chain.messageLabel)
    (collisionFree : chain.CollisionFreeOn (chain.messageInputs base bound))
    (firstBelow : first < bound)
    (secondBelow : second < bound)
    (equal : chain.messageKey base first = chain.messageKey base second) :
    first = second := by
  have inputsEqual := collisionFree
    ⟨first, firstBelow, rfl⟩ ⟨second, secondBelow, rfl⟩ equal
  exact labelsDistinct (Prod.mk.inj inputsEqual).2

/-- Message keys that are distinct below a bound do not collide there. -/
theorem collisionFreeOn_of_nodup
    {base : Key} {bound : ℕ}
    (distinct : ((List.range bound).map (chain.messageKey base)).Nodup) :
    chain.CollisionFreeOn (chain.messageInputs base bound) := by
  rintro _ ⟨first, firstBelow, rfl⟩ _ ⟨second, secondBelow, rfl⟩ equal
  have positionsEqual := List.inj_on_of_nodup_map distinct
    (List.mem_range.mpr firstBelow) (List.mem_range.mpr secondBelow) equal
  rw [positionsEqual]

end KeyChain

/-! ## Receivers that only move forward -/

/-- Taking one element at or after a position, then elements after it, stays
a sublist of the tail at that position. -/
theorem cons_sublist_drop
    {α : Type*} {sent accepted : List α} {position index : ℕ} {item : α}
    (forward : position ≤ index)
    (itemAt : sent[index]? = some item)
    (rest : accepted.Sublist (sent.drop (index + 1))) :
    (item :: accepted).Sublist (sent.drop position) := by
  obtain ⟨inRange, rfl⟩ := List.getElem?_eq_some_iff.mp itemAt
  have tailAtIndex :
      (sent[index] :: accepted).Sublist (sent.drop index) := by
    rw [List.drop_eq_getElem_cons inRange]
    exact rest.cons_cons sent[index]
  exact tailAtIndex.trans (List.drop_sublist_drop_left sent forward)

end Library
