import Mathlib.Data.List.Induction
import Mathlib.Data.List.ReduceOption

/-!
# Runs of deterministic machines

A machine is given by its step function.  A total step returns an output and
the next state; a guarded step returns nothing on an input that the current
state does not permit.  This module defines runs and output traces of both
kinds and packages the two inductions every safety argument uses: an invariant
is kept along a run, and a property of single outputs holds of a whole trace.
-/

namespace Library
namespace Machine

universe u v w

variable {σ : Type u} {ι : Type v} {ο : Type w}

/-! ## Total machines -/

/-- State reached after a list of inputs. -/
def run (step : σ → ι → ο × σ) : σ → List ι → σ
  | state, [] => state
  | state, input :: inputs => run step (step state input).2 inputs

/-- Outputs produced along a list of inputs, in order. -/
def trace (step : σ → ι → ο × σ) : σ → List ι → List ο
  | _, [] => []
  | state, input :: inputs =>
      (step state input).1 :: trace step (step state input).2 inputs

/-- The outputs of those steps that produce one. -/
def collect
    (step : σ → ι → Option ο × σ) (state : σ) (inputs : List ι) : List ο :=
  (trace step state inputs).reduceOption

/-- What an observer that sees states and inputs notes along a run. -/
def observed
    (note : σ → ι → Option ο) {ο' : Type*} (step : σ → ι → ο' × σ)
    (state : σ) (inputs : List ι) : List ο :=
  collect (fun state input => (note state input, (step state input).2)) state
    inputs

/-- Every step of a run meets a condition on its input and the state it
starts from. -/
def EachStep
    (condition : σ → ι → Prop) (step : σ → ι → ο × σ) : σ → List ι → Prop
  | _, [] => True
  | state, input :: inputs =>
      condition state input ∧
        EachStep condition step (step state input).2 inputs

section Total

variable (step : σ → ι → ο × σ)

@[simp] theorem run_nil (state : σ) : run step state [] = state := rfl

@[simp] theorem run_cons (state : σ) (input : ι) (inputs : List ι) :
    run step state (input :: inputs) =
      run step (step state input).2 inputs := rfl

@[simp] theorem trace_nil (state : σ) : trace step state [] = [] := rfl

@[simp] theorem trace_cons (state : σ) (input : ι) (inputs : List ι) :
    trace step state (input :: inputs) =
      (step state input).1 :: trace step (step state input).2 inputs := rfl

theorem run_append (state : σ) (first second : List ι) :
    run step state (first ++ second) =
      run step (run step state first) second := by
  induction first generalizing state with
  | nil => rfl
  | cons input first inductionHypothesis => exact inductionHypothesis _

theorem eachStep_append
    {condition : σ → ι → Prop} {state : σ} {first second : List ι} :
    EachStep condition step state (first ++ second) ↔
      EachStep condition step state first ∧
        EachStep condition step (run step state first) second := by
  induction first generalizing state with
  | nil => simp [EachStep]
  | cons input first inductionHypothesis =>
      rw [List.cons_append, EachStep, EachStep, inductionHypothesis, run_cons,
        and_assoc]

/-- A run meets a condition when it holds wherever the run is split at a
step. -/
theorem eachStep_iff_split
    {condition : σ → ι → Prop} {state : σ} {inputs : List ι} :
    EachStep condition step state inputs ↔
      ∀ earlier input later, inputs = earlier ++ input :: later →
        condition (run step state earlier) input := by
  constructor
  · rintro meets earlier input later rfl
    exact ((eachStep_append step).mp meets).2.1
  · intro meets
    induction inputs generalizing state with
    | nil => trivial
    | cons input inputs inductionHypothesis =>
        refine ⟨meets [] input inputs rfl, inductionHypothesis ?_⟩
        rintro earlier next later rfl
        exact meets (input :: earlier) next later rfl

/-- Conditions that are equivalent under an invariant are met by the same
runs. -/
theorem eachStep_congr
    {condition other : σ → ι → Prop}
    (invariant : σ → Prop)
    (preserved : ∀ state input,
      invariant state → invariant (step state input).2)
    (same : ∀ state input,
      invariant state → (condition state input ↔ other state input))
    {state : σ} (holds : invariant state)
    (inputs : List ι) :
    EachStep condition step state inputs ↔
      EachStep other step state inputs := by
  induction inputs generalizing state with
  | nil => rfl
  | cons input inputs inductionHypothesis =>
      rw [EachStep, EachStep, same state input holds,
        inductionHypothesis (preserved state input holds)]

theorem eachStep_of_forall
    {condition : σ → ι → Prop} {inputs : List ι}
    (meets : ∀ input ∈ inputs, ∀ state, condition state input)
    (state : σ) :
    EachStep condition step state inputs := by
  induction inputs generalizing state with
  | nil => trivial
  | cons input inputs inductionHypothesis =>
      exact ⟨meets input List.mem_cons_self state,
        inductionHypothesis
          (fun later within => meets later (List.mem_cons_of_mem _ within)) _⟩

variable {step}

/-- The outputs of a machine do not matter for where its runs end. -/
theorem run_congr
    {ο' : Type*} (step : σ → ι → ο × σ) (other : σ → ι → ο' × σ)
    (same : ∀ state input, (step state input).2 = (other state input).2)
    (state : σ) (inputs : List ι) :
    run step state inputs = run other state inputs := by
  induction inputs generalizing state with
  | nil => rfl
  | cons input inputs inductionHypothesis =>
      rw [run_cons, run_cons, same, inductionHypothesis]

/-- A property kept by every step is kept by every run. -/
theorem run_invariant
    (invariant : σ → Prop)
    (preserved : ∀ state input,
      invariant state → invariant (step state input).2)
    {state : σ}
    (holds : invariant state)
    (inputs : List ι) :
    invariant (run step state inputs) := by
  induction inputs generalizing state with
  | nil => exact holds
  | cons input inputs inductionHypothesis =>
      exact inductionHypothesis (preserved state input holds)

/-- A property of outputs established by every step from an invariant holds
of every output of a run. -/
theorem trace_forall
    (invariant : σ → Prop) (good : ο → Prop)
    (preserved : ∀ state input,
      invariant state →
        good (step state input).1 ∧ invariant (step state input).2)
    {state : σ}
    (holds : invariant state)
    (inputs : List ι) :
    ∀ output ∈ trace step state inputs, good output := by
  induction inputs generalizing state with
  | nil => simp
  | cons input inputs inductionHypothesis =>
      obtain ⟨goodHead, holdsNext⟩ := preserved state input holds
      intro output member
      rcases List.mem_cons.mp member with equal | later
      · exact equal ▸ goodHead
      · exact inductionHypothesis holdsNext output later

/-- Refinement of an abstract run: when every good step keeps an invariant and
acts on an abstraction of the state as the abstract step does, a run of good
steps ends in the abstract result. -/
theorem run_refines
    {α : Type*} (abstraction : σ → α) (abstractStep : α → ι → α)
    (invariant : σ → Prop) (good : ο → Prop)
    (refines : ∀ state input,
      invariant state → good (step state input).1 →
        invariant (step state input).2 ∧
          abstraction (step state input).2 =
            abstractStep (abstraction state) input)
    {state : σ}
    (holds : invariant state)
    (inputs : List ι)
    (allGood : ∀ output ∈ trace step state inputs, good output) :
    invariant (run step state inputs) ∧
      abstraction (run step state inputs) =
        inputs.foldl abstractStep (abstraction state) := by
  induction inputs generalizing state with
  | nil => exact ⟨holds, rfl⟩
  | cons input inputs inductionHypothesis =>
      rw [trace_cons] at allGood
      obtain ⟨holdsNext, abstractNext⟩ :=
        refines state input holds (allGood _ List.mem_cons_self)
      have rest := inductionHypothesis holdsNext fun output member =>
        allGood output (List.mem_cons_of_mem _ member)
      rwa [abstractNext] at rest

/-- A property kept by every good step is kept by every run of good steps. -/
theorem run_invariant_of_trace
    (invariant : σ → Prop) (good : ο → Prop)
    (preserved : ∀ state input,
      invariant state → good (step state input).1 →
        invariant (step state input).2)
    {state : σ}
    (holds : invariant state)
    (inputs : List ι)
    (allGood : ∀ output ∈ trace step state inputs, good output) :
    invariant (run step state inputs) :=
  (run_refines (fun _ => ()) (fun _ _ => ()) invariant good
    (fun state input holds goodHere =>
      ⟨preserved state input holds goodHere, rfl⟩) holds inputs allGood).1

/-- A property kept by every step that meets a condition is kept by every run
of such steps. -/
theorem run_invariant_of_eachStep
    (invariant : σ → Prop) (condition : σ → ι → Prop)
    (preserved : ∀ state input,
      invariant state → condition state input →
        invariant (step state input).2)
    {state : σ}
    (holds : invariant state)
    {inputs : List ι}
    (conditions : EachStep condition step state inputs) :
    invariant (run step state inputs) := by
  induction inputs generalizing state with
  | nil => exact holds
  | cons input inputs inductionHypothesis =>
      exact inductionHypothesis (preserved state input holds conditions.1)
        conditions.2

/-- When, on allowed inputs, a step keeps a property exactly if it meets a
condition, the property holds all along a run exactly if every step meets the
condition. -/
theorem forall_prefix_iff_eachStep
    (invariant property : σ → Prop) (condition : σ → ι → Prop)
    (allowed : ι → Prop)
    (preserved : ∀ state input,
      allowed input → invariant state → invariant (step state input).2)
    (exact : ∀ state input,
      allowed input → invariant state → property state →
        (property (step state input).2 ↔ condition state input))
    {state : σ}
    (holds : invariant state)
    (holdsHere : property state)
    {inputs : List ι}
    (inputsAllowed : ∀ input ∈ inputs, allowed input) :
    (∀ earlier later, inputs = earlier ++ later →
        property (run step state earlier)) ↔
      EachStep condition step state inputs := by
  induction inputs generalizing state with
  | nil =>
      constructor
      · intro _
        trivial
      · intro _ earlier later split
        rw [(List.append_eq_nil_iff.mp split.symm).1]
        exact holdsHere
  | cons input inputs inductionHypothesis =>
      have inputAllowed := inputsAllowed input List.mem_cons_self
      have holdsNext := preserved state input inputAllowed holds
      have one := exact state input inputAllowed holds holdsHere
      have rest := fun holdsThere => inductionHypothesis holdsNext holdsThere
        fun later within => inputsAllowed later (List.mem_cons_of_mem _ within)
      constructor
      · intro along
        have holdsThere := along [input] inputs rfl
        refine ⟨one.mp holdsThere, (rest holdsThere).mp ?_⟩
        rintro earlier later rfl
        exact along (input :: earlier) later rfl
      · rintro ⟨meets, meetsLater⟩ earlier later split
        cases earlier with
        | nil => exact holdsHere
        | cons first earlier =>
            rw [List.cons_append, List.cons.injEq] at split
            obtain ⟨rfl, remaining⟩ := split
            exact (rest (one.mpr meets)).mpr meetsLater earlier later
              remaining

/-- Conservation along a run: when what a step takes out, followed by what it
leaves, is what was there followed by what it puts in, the same holds of a
whole run. -/
theorem run_conserves
    {α : Type*} (contents : σ → List α) (put : ι → List α)
    (taken : ο → List α) (invariant : σ → Prop) (condition : σ → ι → Prop)
    (conserves : ∀ state input,
      invariant state → condition state input →
        invariant (step state input).2 ∧
          taken (step state input).1 ++ contents (step state input).2 =
            contents state ++ put input)
    {state : σ}
    (holds : invariant state)
    {inputs : List ι}
    (conditions : EachStep condition step state inputs) :
    invariant (run step state inputs) ∧
      (trace step state inputs).flatMap taken ++
          contents (run step state inputs) =
        contents state ++ inputs.flatMap put := by
  induction inputs generalizing state with
  | nil => exact ⟨holds, by simp⟩
  | cons input inputs inductionHypothesis =>
      obtain ⟨holdsNext, conserved⟩ :=
        conserves state input holds conditions.1
      obtain ⟨holdsFinal, conservedRest⟩ :=
        inductionHypothesis holdsNext conditions.2
      refine ⟨holdsFinal, ?_⟩
      rw [trace_cons, run_cons, List.flatMap_cons, List.flatMap_cons,
        List.append_assoc, conservedRest, ← List.append_assoc, conserved,
        List.append_assoc]

end Total

section Collect

variable {step : σ → ι → Option ο × σ}

@[simp] theorem collect_nil (state : σ) : collect step state [] = [] := rfl

theorem collect_cons (state : σ) (input : ι) (inputs : List ι) :
    collect step state (input :: inputs) =
      (step state input).1.toList ++
        collect step (step state input).2 inputs := by
  unfold collect
  rw [trace_cons]
  cases (step state input).1 with
  | none => rfl
  | some output => rfl

theorem collect_append (state : σ) (first second : List ι) :
    collect step state (first ++ second) =
      collect step state first ++
        collect step (run step state first) second := by
  induction first generalizing state with
  | nil => rfl
  | cons input first inductionHypothesis =>
      rw [List.cons_append, collect_cons, collect_cons, inductionHypothesis,
        run_cons, List.append_assoc]

/-- A property of produced outputs established by every step from an
invariant holds of all of them. -/
theorem collect_forall
    (invariant : σ → Prop) (good : ο → Prop)
    (preserved : ∀ state input,
      invariant state →
        (∀ output, (step state input).1 = some output → good output) ∧
          invariant (step state input).2)
    {state : σ}
    (holds : invariant state)
    (inputs : List ι) :
    ∀ output ∈ collect step state inputs, good output := by
  intro output member
  exact trace_forall invariant
    (fun produced => ∀ output, produced = some output → good output)
    preserved holds inputs (some output) (List.reduceOption_mem_iff.mp member)
    output rfl

end Collect

section Observed

variable {ο' : Type*} {note : σ → ι → Option ο} {step : σ → ι → ο' × σ}

@[simp] theorem observed_nil (state : σ) :
    observed note step state [] = [] := rfl

theorem observed_cons (state : σ) (input : ι) (inputs : List ι) :
    observed note step state (input :: inputs) =
      (note state input).toList ++
        observed note step (step state input).2 inputs :=
  collect_cons state input inputs

theorem observed_append (state : σ) (first second : List ι) :
    observed note step state (first ++ second) =
      observed note step state first ++
        observed note step (run step state first) second := by
  rw [observed, collect_append,
    run_congr (fun state input => (note state input, (step state input).2))
      step (fun _ _ => rfl)]
  rfl

theorem observed_concat (state : σ) (inputs : List ι) (input : ι) :
    observed note step state (inputs ++ [input]) =
      observed note step state inputs ++
        (note (run step state inputs) input).toList := by
  rw [observed_append, observed_cons, observed_nil, List.append_nil]

/-- A register that a step sets to what is noted of it, if anything, has the
last value that is noted. -/
theorem read_run_eq_getLast
    {ρ : Type*} (read : σ → ρ) {written : σ → ι → Option ρ}
    (sets : ∀ state input,
      read (step state input).2 =
        (written state input).getD (read state))
    (state : σ) (inputs : List ι) :
    read (run step state inputs) =
      (observed written step state inputs).getLast?.getD (read state) := by
  induction inputs using List.reverseRecOn with
  | nil => rfl
  | append_singleton inputs input inductionHypothesis =>
      rw [run_append, run_cons, run_nil, sets, observed_concat,
        inductionHypothesis, List.getLast?_append]
      cases written (run step state inputs) input with
      | none => rfl
      | some value => rfl

/-- A register that is set once has the first value that is noted. -/
theorem read_run_eq_head
    {ρ : Type*} (read : σ → Option ρ) {written : σ → ι → Option ρ}
    (invariant : σ → Prop)
    (preserved : ∀ state input,
      invariant state → invariant (step state input).2)
    (sets : ∀ state input,
      invariant state →
        read (step state input).2 =
          (read state).or (written state input))
    {state : σ} (holds : invariant state)
    (inputs : List ι) :
    read (run step state inputs) =
      (read state).or (observed written step state inputs).head? := by
  induction inputs generalizing state with
  | nil => rw [run_nil, observed_nil, List.head?_nil, Option.or_none]
  | cons input inputs inductionHypothesis =>
      rw [run_cons, inductionHypothesis (preserved state input holds),
        sets state input holds, observed_cons, List.head?_append,
        Option.or_assoc]
      cases written state input <;> rfl

end Observed

/-! ## Guarded machines -/

/-- Outputs and final state of a run of a guarded machine; nothing when some
input is not permitted in the state it meets. -/
def execute (step : σ → ι → Option (ο × σ)) :
    σ → List ι → Option (List ο × σ)
  | state, [] => some ([], state)
  | state, input :: inputs =>
      (step state input).bind fun taken =>
        (execute step taken.2 inputs).map fun rest =>
          (taken.1 :: rest.1, rest.2)

section Guarded

variable {step : σ → ι → Option (ο × σ)}

/-- A nonempty permitted run is a permitted step followed by a permitted
run. -/
theorem execute_cons_eq_some
    {state final : σ} {input : ι} {inputs : List ι} {outputs : List ο} :
    execute step state (input :: inputs) = some (outputs, final) ↔
      ∃ output next rest,
        step state input = some (output, next) ∧
          execute step next inputs = some (rest, final) ∧
          outputs = output :: rest := by
  simp only [execute, Option.bind_eq_some_iff, Option.map_eq_some_iff]
  constructor
  · rintro ⟨⟨output, next⟩, taken, ⟨rest, reached⟩, executed, equal⟩
    simp only [Prod.mk.injEq] at equal
    obtain ⟨rfl, rfl⟩ := equal
    exact ⟨output, next, rest, taken, executed, rfl⟩
  · rintro ⟨output, next, rest, taken, executed, rfl⟩
    exact ⟨(output, next), taken, (rest, final), executed, rfl⟩

/-- A guarded step that on allowed inputs keeps an invariant and produces only
good outputs gives runs of allowed inputs with the same two properties. -/
theorem execute_invariant_of_inputs
    (allowed : ι → Prop) (invariant : σ → Prop) (good : ο → Prop)
    (preserved : ∀ state input output next,
      allowed input → invariant state →
        step state input = some (output, next) → good output ∧ invariant next)
    {state final : σ} {inputs : List ι} {outputs : List ο}
    (holds : invariant state)
    (inputsAllowed : ∀ input ∈ inputs, allowed input)
    (executed : execute step state inputs = some (outputs, final)) :
    (∀ output ∈ outputs, good output) ∧ invariant final := by
  induction inputs generalizing state outputs with
  | nil =>
      simp only [execute, Option.some.injEq, Prod.mk.injEq] at executed
      obtain ⟨rfl, rfl⟩ := executed
      exact ⟨by simp, holds⟩
  | cons input inputs inductionHypothesis =>
      obtain ⟨output, next, rest, taken, executedRest, rfl⟩ :=
        execute_cons_eq_some.mp executed
      obtain ⟨goodHead, holdsNext⟩ :=
        preserved state input output next
          (inputsAllowed input List.mem_cons_self) holds taken
      obtain ⟨goodRest, holdsFinal⟩ :=
        inductionHypothesis holdsNext
          (fun later member =>
            inputsAllowed later (List.mem_cons_of_mem _ member))
          executedRest
      refine ⟨?_, holdsFinal⟩
      intro other member
      rcases List.mem_cons.mp member with equal | later
      · exact equal ▸ goodHead
      · exact goodRest other later

/-- A guarded step that keeps an invariant and produces only good outputs
gives runs with the same two properties. -/
theorem execute_invariant
    (invariant : σ → Prop) (good : ο → Prop)
    (preserved : ∀ state input output next,
      invariant state → step state input = some (output, next) →
        good output ∧ invariant next)
    {state final : σ} {inputs : List ι} {outputs : List ο}
    (holds : invariant state)
    (executed : execute step state inputs = some (outputs, final)) :
    (∀ output ∈ outputs, good output) ∧ invariant final :=
  execute_invariant_of_inputs (fun _ => True) invariant good
    (fun state input output next _ => preserved state input output next)
    holds (fun _ _ => trivial) executed

end Guarded

end Machine
end Library
