import VoxDesktop.Library.KeyChain

/-!
# What an observer can derive

An observer starts from a set of known values and may apply the operations of
a fixed collection of rules, each taking finitely many premises to one
conclusion.  Nothing can be inverted unless a rule says so.  A key chain whose
keyed function is one of the rules is derivable as a whole from its base key
and its labels.
-/

namespace Library

/-- A collection of operations: premises paired with the value they give. -/
abbrev RuleSet (α : Type*) := Set (List α × α)

/-- Values obtained from the known ones by finitely many rule applications. -/
inductive Derivable {α : Type*} (rules : RuleSet α) (known : Set α) : α → Prop
  | known {value : α} (member : value ∈ known) : Derivable rules known value
  | apply {premises : List α} {value : α}
      (rule : (premises, value) ∈ rules)
      (derived : ∀ premise ∈ premises, Derivable rules known premise) :
      Derivable rules known value

variable {α : Type*} {rules : RuleSet α} {known : Set α}

/-- A binary rule applied to two derived values. -/
theorem Derivable.apply_pair
    {first second value : α}
    (rule : ([first, second], value) ∈ rules)
    (derivedFirst : Derivable rules known first)
    (derivedSecond : Derivable rules known second) :
    Derivable rules known value := by
  refine .apply rule ?_
  intro premise member
  simp only [List.mem_cons, List.not_mem_nil, or_false] at member
  rcases member with rfl | rfl
  · exact derivedFirst
  · exact derivedSecond

namespace KeyChain

variable {chain : KeyChain α α} {base : α}
  (keyedRule : ∀ key label, ([key, label], chain.keyed key label) ∈ rules)
  (baseDerived : Derivable rules known base)
  (advanceDerived :
    ∀ position, Derivable rules known (chain.advanceLabel position))

include keyedRule baseDerived advanceDerived

theorem chainKey_derivable (position : ℕ) :
    Derivable rules known (chain.chainKey base position) := by
  induction position with
  | zero => exact baseDerived
  | succ position inductionHypothesis =>
      exact .apply_pair (keyedRule _ _) inductionHypothesis
        (advanceDerived position)

/-- From the base key and the labels every message key can be derived. -/
theorem messageKey_derivable
    (messageDerived :
      ∀ position, Derivable rules known (chain.messageLabel position))
    (position : ℕ) :
    Derivable rules known (chain.messageKey base position) :=
  .apply_pair (keyedRule _ _)
    (chainKey_derivable keyedRule baseDerived advanceDerived position)
    (messageDerived position)

end KeyChain
end Library
