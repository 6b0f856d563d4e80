import Mathlib.Data.List.Nodup
import Mathlib.Data.List.TakeWhile
import Mathlib.Logic.Function.Basic

/-!
# Stores that write through to a disk

A store keeps its contents in memory and saves all of them on every change.
A save can fail; the change then stays in memory and the disk keeps what it
had.  A restart brings back what the disk has.

Several stores in a row stop at the first failed save.  What such a chain
leaves behind is stated for the names it writes: either everything is on the
disk, or, unless the chain fails once all its names are in memory, one of the
names is missing in memory.
-/

namespace Library

/-- Contents of a store in memory and on its disk. -/
structure WriteThrough (Name Value : Type*) where
  memory : Name → Option Value
  disk : Name → Option Value

namespace WriteThrough

variable {Name Value : Type*}

/-- One store of a chain, and whether its save works. -/
structure Write (Name Value : Type*) where
  name : Name
  value : Value
  works : Bool

/-- Start again from the disk. -/
def restart (state : WriteThrough Name Value) : WriteThrough Name Value :=
  ⟨state.disk, state.disk⟩

/-- If some names are all in memory, the disk has them as well. -/
def Durable (state : WriteThrough Name Value) (names : List Name) : Prop :=
  (∀ name ∈ names, state.memory name ≠ none) →
    ∀ name ∈ names, state.disk name = state.memory name

theorem durable_of_disk_eq
    {state : WriteThrough Name Value}
    (saved : state.disk = state.memory) (names : List Name) :
    state.Durable names :=
  fun _ name _ => congrFun saved name

theorem durable_restart
    (state : WriteThrough Name Value) (names : List Name) :
    state.restart.Durable names :=
  durable_of_disk_eq rfl names

/-- Names that are all in memory and durable survive a restart. -/
theorem Durable.memory_restart
    {state : WriteThrough Name Value} {names : List Name}
    (durable : state.Durable names)
    (complete : ∀ name ∈ names, state.memory name ≠ none) :
    ∀ name ∈ names, state.restart.memory name = state.memory name :=
  durable complete

/-- A failed save of the chain leaves a later name missing from memory. -/
def FailsEarly (memory : Name → Option Value) :
    List (Write Name Value) → Prop
  | [] => True
  | write :: writes =>
      if write.works then FailsEarly memory writes
      else ∃ later ∈ writes, memory later.name = none

instance FailsEarly.decidable
    [DecidableEq Value] (memory : Name → Option Value) :
    (writes : List (Write Name Value)) → Decidable (FailsEarly memory writes)
  | [] => .isTrue trivial
  | write :: writes =>
      have : Decidable (FailsEarly memory writes) :=
        FailsEarly.decidable memory writes
      inferInstanceAs (Decidable (if write.works then _ else _))

/-- Only the names of the chain matter. -/
theorem FailsEarly.congr
    {memory other : Name → Option Value} {writes : List (Write Name Value)}
    (same : ∀ write ∈ writes, other write.name = memory write.name)
    (early : FailsEarly memory writes) :
    FailsEarly other writes := by
  induction writes with
  | nil => trivial
  | cons write writes inductionHypothesis =>
      rw [FailsEarly] at early ⊢
      split
      · rename_i works
        rw [if_pos works] at early
        apply inductionHypothesis _ early
        intro later within
        exact same later (List.mem_cons_of_mem _ within)
      · rename_i fails
        rw [if_neg fails] at early
        obtain ⟨later, within, missing⟩ := early
        refine ⟨later, within, ?_⟩
        rw [same later (List.mem_cons_of_mem _ within), missing]

/-- The writes of a chain that are saved. -/
def saved (writes : List (Write Name Value)) : List (Write Name Value) :=
  writes.takeWhile Write.works

/-- The writes of a chain that reach memory: those that are saved and the
first that is not. -/
def reached : List (Write Name Value) → List (Write Name Value)
  | [] => []
  | write :: writes => write :: if write.works then reached writes else []

section Saved

variable {write : Write Name Value} {writes : List (Write Name Value)}

theorem saved_cons_of_works (works : write.works = true) :
    saved (write :: writes) = write :: saved writes :=
  List.takeWhile_cons_of_pos works

theorem saved_cons_of_fails (fails : ¬ write.works = true) :
    saved (write :: writes) = [] :=
  List.takeWhile_cons_of_neg fails

theorem mem_of_mem_saved (within : write ∈ saved writes) : write ∈ writes :=
  (List.takeWhile_sublist _).mem within

/-- A chain whose saves work is saved. -/
theorem saved_of_works (works : ∀ write ∈ writes, write.works = true) :
    saved writes = writes :=
  List.takeWhile_eq_self_iff.mpr works

end Saved

variable [DecidableEq Name]

def store
    (state : WriteThrough Name Value) (write : Write Name Value) :
    WriteThrough Name Value :=
  let memory := Function.update state.memory write.name (some write.value)
  ⟨memory, if write.works then memory else state.disk⟩

/-- Stores in a row; the first failed save ends the chain. -/
def storeAll :
    WriteThrough Name Value → List (Write Name Value) →
      Bool × WriteThrough Name Value
  | state, [] => (true, state)
  | state, write :: writes =>
      if write.works then storeAll (state.store write) writes
      else (false, state.store write)

section Store

variable {state : WriteThrough Name Value} {write : Write Name Value}

@[simp] theorem memory_store :
    (state.store write).memory =
      Function.update state.memory write.name (some write.value) := rfl

theorem disk_store_of_works (works : write.works = true) :
    (state.store write).disk = (state.store write).memory := by
  rw [store, works]
  rfl

end Store

section Chain

/-- A store changes no other name of a chain with distinct names. -/
theorem memory_store_of_distinct
    {state : WriteThrough Name Value}
    {write : Write Name Value} {writes : List (Write Name Value)}
    (distinct : ((write :: writes).map Write.name).Nodup)
    {later : Write Name Value} (within : later ∈ writes) :
    (state.store write).memory later.name = state.memory later.name := by
  rw [List.map_cons, List.nodup_cons] at distinct
  apply Function.update_of_ne
  intro same
  exact distinct.1 (same ▸ List.mem_map_of_mem within)

/-- A chain that, if it fails, fails early ends with everything on the disk
or with one of its names missing from memory. -/
theorem storeAll_cases
    {state : WriteThrough Name Value} {writes : List (Write Name Value)}
    (distinct : (writes.map Write.name).Nodup)
    (nonempty : writes ≠ [])
    (early : FailsEarly state.memory writes) :
    ((storeAll state writes).1 = true ∧
      (storeAll state writes).2.disk = (storeAll state writes).2.memory) ∨
    (storeAll state writes).1 = false ∧
      ∃ write ∈ writes,
        (storeAll state writes).2.memory write.name = none := by
  induction writes generalizing state with
  | nil => exact absurd rfl nonempty
  | cons write writes inductionHypothesis =>
      have untouched : ∀ later ∈ writes,
          (state.store write).memory later.name = state.memory later.name :=
        fun later within => memory_store_of_distinct distinct within
      rw [FailsEarly] at early
      rw [storeAll]
      split
      · rename_i works
        rw [if_pos works] at early
        by_cases last : writes = []
        · subst last
          exact Or.inl ⟨rfl, disk_store_of_works works⟩
        · rw [List.map_cons, List.nodup_cons] at distinct
          rcases inductionHypothesis distinct.2 last
              (early.congr untouched) with
            done | ⟨failed, missing, within, absent⟩
          · exact Or.inl done
          · exact Or.inr
              ⟨failed, missing, List.mem_cons_of_mem _ within, absent⟩
      · rename_i fails
        rw [if_neg fails] at early
        obtain ⟨missing, within, absent⟩ := early
        refine Or.inr ⟨rfl, missing, List.mem_cons_of_mem _ within, ?_⟩
        rw [untouched missing within, absent]

/-- After such a chain its names are durable. -/
theorem durable_storeAll
    {state : WriteThrough Name Value} {writes : List (Write Name Value)}
    (distinct : (writes.map Write.name).Nodup)
    (nonempty : writes ≠ [])
    (early : FailsEarly state.memory writes) :
    (storeAll state writes).2.Durable (writes.map Write.name) := by
  rcases storeAll_cases distinct nonempty early with
    ⟨_, saved⟩ | ⟨_, missing, within, absent⟩
  · exact durable_of_disk_eq saved _
  · intro complete
    exact absurd absent (complete _ (List.mem_map_of_mem within))

/-- Names outside the chain keep their values in memory. -/
theorem memory_storeAll_of_notMem
    {state : WriteThrough Name Value} {writes : List (Write Name Value)}
    {name : Name}
    (other : name ∉ writes.map Write.name) :
    (storeAll state writes).2.memory name = state.memory name := by
  induction writes generalizing state with
  | nil => rfl
  | cons write writes inductionHypothesis =>
      rw [List.map_cons, List.mem_cons, not_or] at other
      have untouched : (state.store write).memory name = state.memory name :=
        Function.update_of_ne other.1 _ _
      rw [storeAll]
      split
      · rw [inductionHypothesis other.2, untouched]
      · exact untouched

/-- A chain whose saves work puts its values in memory. -/
theorem memory_storeAll_of_works
    {state : WriteThrough Name Value} {writes : List (Write Name Value)}
    (distinct : (writes.map Write.name).Nodup)
    (works : ∀ write ∈ writes, write.works = true) :
    (storeAll state writes).1 = true ∧
      ∀ write ∈ writes,
        (storeAll state writes).2.memory write.name = some write.value := by
  induction writes generalizing state with
  | nil => exact ⟨rfl, by simp⟩
  | cons write writes inductionHypothesis =>
      rw [List.map_cons, List.nodup_cons] at distinct
      obtain ⟨returned, stored⟩ :=
        @inductionHypothesis (state.store write) distinct.2
          fun later within => works later (List.mem_cons_of_mem _ within)
      rw [storeAll, if_pos (works write List.mem_cons_self)]
      refine ⟨returned, fun other within => ?_⟩
      rcases List.mem_cons.mp within with rfl | within
      · rw [memory_storeAll_of_notMem distinct.1]
        exact Function.update_self ..
      · exact stored other within

/-- A chain that returns true had only saves that work. -/
theorem works_of_storeAll
    {state : WriteThrough Name Value} {writes : List (Write Name Value)}
    (returned : (storeAll state writes).1 = true) :
    ∀ write ∈ writes, write.works = true := by
  induction writes generalizing state with
  | nil => simp
  | cons write writes inductionHypothesis =>
      rw [storeAll] at returned
      split at returned
      · rename_i works
        intro other within
        rcases List.mem_cons.mp within with rfl | within
        · exact works
        · exact inductionHypothesis returned other within
      · contradiction

end Chain

/-! ## Chains that are cut short -/

section Cut

variable {state : WriteThrough Name Value} {writes : List (Write Name Value)}

/-- A chain of which nothing is saved leaves the disk alone. -/
theorem disk_storeAll_of_saved_eq_nil (none : saved writes = []) :
    (storeAll state writes).2.disk = state.disk := by
  cases writes with
  | nil => rfl
  | cons write writes =>
      by_cases works : write.works = true
      · rw [saved_cons_of_works works] at none
        contradiction
      · rw [storeAll, if_neg works, store]
        exact if_neg works

/-- After a chain of which something is saved, the disk has for every name the
saved value, if one was saved, and else what memory had. -/
theorem disk_storeAll_of_saved
    (distinct : (writes.map Write.name).Nodup)
    (some_saved : saved writes ≠ []) :
    (∀ write ∈ saved writes,
      (storeAll state writes).2.disk write.name = some write.value) ∧
    ∀ name, name ∉ (saved writes).map Write.name →
      (storeAll state writes).2.disk name = state.memory name := by
  induction writes generalizing state with
  | nil => exact absurd rfl some_saved
  | cons write writes inductionHypothesis =>
      by_cases works : write.works = true
      · rw [List.map_cons, List.nodup_cons] at distinct
        rw [saved_cons_of_works works, storeAll, if_pos works]
        by_cases last : saved writes = []
        · rw [last, disk_storeAll_of_saved_eq_nil last,
            disk_store_of_works works, memory_store]
          refine ⟨fun other within => ?_, fun name notSaved => ?_⟩
          · obtain rfl := List.mem_singleton.mp within
            exact Function.update_self ..
          · rw [List.map_singleton, List.mem_singleton] at notSaved
            exact Function.update_of_ne notSaved ..
        · obtain ⟨values, others⟩ :=
            @inductionHypothesis (state.store write) distinct.2 last
          have notLater : write.name ∉ (saved writes).map Write.name := by
            intro within
            obtain ⟨later, laterSaved, same⟩ := List.mem_map.mp within
            exact distinct.1 (same ▸ List.mem_map_of_mem
              (mem_of_mem_saved laterSaved))
          refine ⟨fun other within => ?_, fun name notSaved => ?_⟩
          · rcases List.mem_cons.mp within with rfl | within
            · rw [others _ notLater, memory_store]
              exact Function.update_self ..
            · exact values other within
          · rw [List.map_cons, List.mem_cons, not_or] at notSaved
            rw [others name notSaved.2, memory_store]
            exact Function.update_of_ne notSaved.1 ..
      · rw [saved_cons_of_fails works] at some_saved
        contradiction

/-- A chain that puts in memory only what is there already changes nothing,
in memory or, where they agree, on the disk. -/
theorem storeAll_of_shown
    (shown : ∀ write ∈ reached writes,
      state.memory write.name = some write.value) :
    (storeAll state writes).2.memory = state.memory ∧
      ∀ name, state.disk name = state.memory name →
        (storeAll state writes).2.disk name = state.memory name := by
  induction writes generalizing state with
  | nil => exact ⟨rfl, fun _ same => same⟩
  | cons write writes inductionHypothesis =>
      have unchanged : (state.store write).memory = state.memory := by
        rw [memory_store, ← shown write List.mem_cons_self,
          Function.update_eq_self]
      have agrees : ∀ name, state.disk name = state.memory name →
          (state.store write).disk name = state.memory name := by
        intro name same
        by_cases works : write.works = true
        · rw [disk_store_of_works works, unchanged]
        · rw [store]
          exact (congrFun (if_neg works) name).trans same
      rw [storeAll]
      split
      · rename_i works
        rw [reached, if_pos works] at shown
        have rest := @inductionHypothesis (state.store write)
          fun later within => by
            rw [unchanged]
            exact shown later (List.mem_cons_of_mem _ within)
        rw [unchanged] at rest
        exact ⟨rest.1, fun name same => rest.2 name (agrees name same)⟩
      · exact ⟨unchanged, agrees⟩

end Cut

end WriteThrough
end Library
