import Mathlib.Data.Nat.Notation
import Mathlib.Data.Option.Basic

/-!
# A connection to a transactional store

The committed contents of a store, and the contents in the transaction that a
connection to it may have open.  Outside of a transaction a statement commits
for itself.  A statement that fails changes nothing, a rollback drops the open
transaction, and a commit that fails leaves it open.
-/

namespace Library

structure Transactional (State : Type*) where
  committed : State
  transaction : Option State

namespace Transactional

variable {State : Type*} (store : Transactional State)

/-- The contents the connection sees. -/
def contents : State :=
  store.transaction.getD store.committed

/-- Other contents, in the open transaction if there is one. -/
def replace (contents : State) : Transactional State :=
  match store.transaction with
  | none => ⟨contents, none⟩
  | some _ => ⟨store.committed, some contents⟩

/-- A statement gives new contents, or nothing where the store refuses it;
`works` says whether it fails for another reason. -/
def execute (statement : State → Option State) (works : Bool) :
    Option (Transactional State) :=
  if works then (statement store.contents).map store.replace else none

/-- There is one transaction at a time. -/
def begin (works : Bool) : Option (Transactional State) :=
  match store.transaction with
  | none =>
      if works then some ⟨store.committed, some store.committed⟩ else none
  | some _ => none

def rollback : Transactional State :=
  ⟨store.committed, none⟩

def commit (works : Bool) : Option (Transactional State) :=
  match store.transaction with
  | none => none
  | some contents => if works then some ⟨contents, none⟩ else none

/-- Statements in a row, up to the first that fails. -/
def executeAll (works : ℕ → Bool) :
    (position : ℕ) → List (State → Option State) →
      Transactional State → Bool × Transactional State
  | _, [], store => (true, store)
  | position, statement :: statements, store =>
      match store.execute statement (works position) with
      | none => (false, store)
      | some next => executeAll works (position + 1) statements next

/-- What statements in a row make of some contents. -/
def applyAll : List (State → Option State) → State → Option State
  | [], contents => some contents
  | statement :: statements, contents =>
      (statement contents).bind (applyAll statements)

/-! ## Contents and statements -/

section Contents

variable {store}

theorem contents_of_closed (closed : store.transaction = none) :
    store.contents = store.committed := by
  rw [contents, closed, Option.getD_none]

@[simp] theorem contents_replace (contents : State) :
    (store.replace contents).contents = contents := by
  rw [replace]
  split <;> rfl

@[simp] theorem replace_replace (first second : State) :
    (store.replace first).replace second = store.replace second := by
  obtain ⟨committed, transaction⟩ := store
  cases transaction <;> rfl

@[simp] theorem replace_contents : store.replace store.contents = store := by
  obtain ⟨committed, transaction⟩ := store
  cases transaction <;> rfl

theorem replace_of_closed
    (closed : store.transaction = none) (contents : State) :
    store.replace contents = ⟨contents, none⟩ := by
  rw [replace, closed]

theorem replace_of_open
    {working : State}
    (opened : store.transaction = some working) (contents : State) :
    store.replace contents = ⟨store.committed, some contents⟩ := by
  rw [replace, opened]

@[simp] theorem transaction_replace_eq_none_iff (contents : State) :
    (store.replace contents).transaction = none ↔
      store.transaction = none := by
  rw [replace]
  cases store.transaction <;> simp

theorem execute_of_works
    {statement : State → Option State} {next : State}
    (accepted : statement store.contents = some next) :
    store.execute statement true = some (store.replace next) := by
  rw [execute, if_pos rfl, accepted, Option.map_some]

@[simp] theorem begin_of_open (committed contents : State) (works : Bool) :
    (⟨committed, some contents⟩ : Transactional State).begin works =
      none := rfl

@[simp] theorem begin_of_fails (contents : State) :
    (⟨contents, none⟩ : Transactional State).begin false = none := rfl

@[simp] theorem begin_of_closed (contents : State) :
    (⟨contents, none⟩ : Transactional State).begin true =
      some ⟨contents, some contents⟩ := rfl

@[simp] theorem execute_of_fails (statement : State → Option State) :
    store.execute statement false = none :=
  if_neg Bool.false_ne_true

end Contents

/-! ## Statements in a transaction -/

section Open

variable {works : ℕ → Bool} {position : ℕ}
  {statements : List (State → Option State)} {committed contents : State}

/-- Statements in a transaction leave the committed contents alone. -/
theorem executeAll_open :
    ∃ reached,
      (executeAll works position statements
        ⟨committed, some contents⟩).2 = ⟨committed, some reached⟩ := by
  induction statements generalizing position contents with
  | nil => exact ⟨contents, rfl⟩
  | cons statement statements inductionHypothesis =>
      rw [executeAll]
      split
      · exact ⟨contents, rfl⟩
      next next executed =>
        rw [execute] at executed
        split at executed
        · obtain ⟨written, -, replaced⟩ := Option.map_eq_some_iff.mp executed
          rw [← replaced]
          exact inductionHypothesis
        · contradiction

/-- Statements that all work make of the transaction what they make of its
contents. -/
theorem executeAll_of_works
    {final : State}
    (accepted : applyAll statements contents = some final)
    (every : ∀ offset < statements.length, works (position + offset) = true) :
    executeAll works position statements ⟨committed, some contents⟩ =
      (true, ⟨committed, some final⟩) := by
  induction statements generalizing position contents with
  | nil =>
      rw [applyAll, Option.some_inj] at accepted
      rw [executeAll, accepted]
  | cons statement statements inductionHypothesis =>
      obtain ⟨next, first, rest⟩ := Option.bind_eq_some_iff.mp accepted
      have here : works position = true := every 0 (Nat.succ_pos _)
      have executed :
          (⟨committed, some contents⟩ : Transactional State).execute statement
            true = some ⟨committed, some next⟩ := execute_of_works first
      rw [executeAll, here, executed]
      apply inductionHypothesis rest
      intro offset within
      rw [Nat.add_assoc, Nat.add_comm 1]
      exact every (offset + 1) (Nat.succ_lt_succ within)

/-- Statements that are executed to the end have all worked. -/
theorem works_of_executeAll
    {store : Transactional State}
    (succeeded : (executeAll works position statements store).1 = true) :
    ∀ offset < statements.length, works (position + offset) = true := by
  induction statements generalizing position store with
  | nil => simp
  | cons statement statements inductionHypothesis =>
      rw [executeAll] at succeeded
      cases here : works position with
      | false =>
          rw [here, execute_of_fails] at succeeded
          contradiction
      | true =>
          rw [List.length_cons, Nat.forall_lt_succ_left]
          refine ⟨here, ?_⟩
          split at succeeded
          · contradiction
          · have later := inductionHypothesis succeeded
            intro offset within
            rw [← Nat.add_assoc, Nat.add_right_comm]
            exact later offset within

end Open

end Transactional
end Library
