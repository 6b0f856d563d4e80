import Mathlib.Data.List.Forall2

/-!
# Lookups one after the other

Several keys are looked up one after the other, up to the first that is not
found, and what answers may change with every lookup and in between.  Where
entries stay once they are there, all that has been found along the way is
there at the end.
-/

namespace Library
namespace Lookups

variable {State Key Value : Type*}

/-- Collects the values of keys; the first key without a value ends it. -/
def collect (ask : Key → State → Option Value × State) :
    List Value → List Key → State → Except Key (List Value) × State
  | found, [], state => (.ok found, state)
  | found, key :: keys, state =>
      match (ask key state).1 with
      | none => (.error key, (ask key state).2)
      | some value => collect ask (found ++ [value]) keys (ask key state).2

/-- What every lookup keeps, a collection keeps. -/
theorem collect_invariant
    {ask : Key → State → Option Value × State} {holds : State → Prop}
    (step : ∀ key state, holds state → holds (ask key state).2)
    {state : State} (start : holds state)
    (found : List Value) (keys : List Key) :
    holds (collect ask found keys state).2 := by
  induction keys generalizing found state with
  | nil => exact start
  | cons key keys inductionHypothesis =>
      rw [collect]
      split
      · exact step key state start
      · exact inductionHypothesis (step key state start) _

/-- A directory of entries that stay once they are there, in its valid states
and over the steps that keep them valid. -/
structure Directory (State Key Value : Type*) where
  valid : State → Prop
  later : State → State → Prop
  entry : State → Key → Value → Prop
  refl : ∀ state, later state state
  trans : ∀ {first second third},
    later first second → later second third → later first third
  kept : ∀ {before after key value}, valid before → later before after →
    entry before key value → entry after key value

/-- A lookup leaves a valid state and finds only entries. -/
structure Directory.Sound
    (directory : Directory State Key Value)
    (ask : Key → State → Option Value × State) : Prop where
  valid : ∀ key {state}, directory.valid state →
    directory.valid (ask key state).2
  later : ∀ key {state}, directory.valid state →
    directory.later state (ask key state).2
  found : ∀ key {state value}, directory.valid state →
    (ask key state).1 = some value → directory.entry (ask key state).2 key value

/-- Each of the values belongs to one of the keys. -/
theorem exists_key_of_forall₂
    {related : Key → Value → Prop} {keys : List Key} {values : List Value}
    (entries : List.Forall₂ related keys values) {value : Value}
    (member : value ∈ values) : ∃ key ∈ keys, related key value := by
  induction entries with
  | nil => simp at member
  | cons entry _ inductionHypothesis =>
      rcases List.mem_cons.mp member with rfl | member
      · exact ⟨_, List.mem_cons_self, entry⟩
      · obtain ⟨key, within, isRelated⟩ := inductionHypothesis member
        exact ⟨key, List.mem_cons_of_mem _ within, isRelated⟩

/-- Each of the keys has one of the values. -/
theorem exists_value_of_forall₂
    {related : Key → Value → Prop} {keys : List Key} {values : List Value}
    (entries : List.Forall₂ related keys values) {key : Key}
    (member : key ∈ keys) : ∃ value ∈ values, related key value :=
  exists_key_of_forall₂ entries.flip member

namespace Directory

variable {directory : Directory State Key Value}
  {ask : Key → State → Option Value × State}
  {found : List Value} {keys : List Key} {state : State}

theorem Sound.collect_reaches
    (sound : directory.Sound ask) (valid : directory.valid state)
    (found : List Value) (keys : List Key) :
    directory.valid (collect ask found keys state).2 ∧
      directory.later state (collect ask found keys state).2 := by
  refine @collect_invariant _ _ _ ask
    (fun reached => directory.valid reached ∧ directory.later state reached)
    ?_ _ ⟨valid, directory.refl state⟩ found keys
  rintro key reached ⟨isValid, later⟩
  exact ⟨sound.valid key isValid,
    directory.trans later (sound.later key isValid)⟩

/-- What is collected are the entries of all keys, at the end. -/
theorem Sound.collect_ok
    (sound : directory.Sound ask) (valid : directory.valid state)
    {values : List Value}
    (collected : (collect ask found keys state).1 = .ok values) :
    ∃ own, values = found ++ own ∧
      List.Forall₂ (directory.entry (collect ask found keys state).2)
        keys own := by
  induction keys generalizing found state with
  | nil =>
      refine ⟨[], ?_, .nil⟩
      rw [List.append_nil]
      exact (Except.ok.inj collected).symm
  | cons key keys inductionHypothesis =>
      have next := sound.valid key valid
      rw [collect] at collected ⊢
      cases answer : (ask key state).1 with
      | none =>
          rw [answer] at collected
          cases collected
      | some value =>
          rw [answer] at collected
          obtain ⟨own, same, entries⟩ := inductionHypothesis next collected
          have reached := sound.collect_reaches next (found ++ [value]) keys
          refine ⟨value :: own, ?_, .cons ?_ entries⟩
          · rw [same, List.append_assoc, List.singleton_append]
          · exact directory.kept next reached.2 (sound.found key valid answer)

/-- The key that ends a collection had no value when it was asked for, after
all keys before it had been found. -/
theorem Sound.collect_error
    (sound : directory.Sound ask) (valid : directory.valid state)
    {missing : Key}
    (ended : (collect ask found keys state).1 = .error missing) :
    ∃ before after between own,
      keys = before ++ missing :: after ∧
        directory.valid between ∧ directory.later state between ∧
        List.Forall₂ (directory.entry between) before own ∧
        (ask missing between).1 = none := by
  induction keys generalizing found state with
  | nil => cases ended
  | cons key keys inductionHypothesis =>
      have next := sound.valid key valid
      have later := sound.later key valid
      rw [collect] at ended
      cases answer : (ask key state).1 with
      | none =>
          rw [answer] at ended
          obtain rfl := Except.error.inj ended
          exact ⟨[], keys, state, [], rfl, valid, directory.refl state, .nil,
            answer⟩
      | some value =>
          rw [answer] at ended
          obtain ⟨before, after, between, own, split, isValid, further,
            entries, none⟩ := inductionHypothesis next ended
          have entry :=
            directory.kept next further (sound.found key valid answer)
          exact ⟨key :: before, after, between, value :: own,
            congrArg (key :: ·) split, isValid,
            directory.trans later further, .cons entry entries, none⟩

end Directory

end Lookups
end Library
