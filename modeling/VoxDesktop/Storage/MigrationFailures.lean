import VoxDesktop.Storage.Migrations

/-!
# Migrations that fail

What a call of `run` leaves on the connection, for every point at which it can
fail.  Each failure ends with no open transaction, apart from that of the
commit itself.
-/

namespace VoxDesktop
namespace Storage

open Library Qt

/-! ## What the statements make of a schema -/

namespace Schema

variable (schema : Schema)

/-- With the table `schema_migrations`. -/
def created : Schema :=
  { schema with
    schemaMigrations := some (schema.schemaMigrations.getD none) }

/-- With a row in the table `schema_migrations`. -/
def prepared : Schema :=
  { schema with schemaMigrations := some (some (schema.version.getD 0)) }

end Schema

/-- `CREATE TABLE IF NOT EXISTS` on the tables of a schema. -/
def addTable
    (tables : List TableDefinition) (table : TableDefinition) :
    List TableDefinition :=
  if ∃ present ∈ tables, present.name = table.name then tables
  else tables ++ [table]

/-- With the tables of the program, at version 1. -/
def Schema.migrated (schema : Schema) : Schema :=
  ⟨some (some 1), Migrations.createdTables.foldl addTable schema.tables⟩

section Apply

variable {schema : Schema}

@[simp] theorem version_prepared :
    schema.prepared.version = some (schema.version.getD 0) := rfl

@[simp] theorem version_created :
    schema.created.version = schema.version := by
  obtain ⟨schemaMigrations, tables⟩ := schema
  cases schemaMigrations <;> rfl

@[simp] theorem version_migrated : schema.migrated.version = some 1 := rfl

theorem tables_migrated :
    schema.migrated.tables =
      Migrations.createdTables.foldl addTable schema.tables := by
  rw [Schema.migrated]

theorem apply_insertVersion_created :
    Statement.insertVersion.apply schema.created = some schema.prepared := by
  obtain ⟨schemaMigrations, tables⟩ := schema
  cases schemaMigrations <;> rfl

theorem apply_createTable (table : TableDefinition) :
    (Statement.createTable table).apply schema =
      some { schema with tables := addTable schema.tables table } := by
  by_cases present : schema.hasTable table.name
  · have kept : addTable schema.tables table = schema.tables :=
      if_pos present
    rw [Statement.apply, if_pos present, kept]
  · have added :
        addTable schema.tables table = schema.tables ++ [table] :=
      if_neg present
    rw [Statement.apply, if_neg present, added]

/-- Creating tables and updating the version of a prepared schema. -/
theorem applyAll_createTable
    (created tables : List TableDefinition) (version row : ℤ) :
    Transactional.applyAll
        ((created.map Statement.createTable ++
          [Statement.updateVersion version]).map Statement.apply)
        ⟨some (some row), tables⟩ =
      some ⟨some (some version), created.foldl addTable tables⟩ := by
  induction created generalizing tables with
  | nil => rfl
  | cons table created inductionHypothesis =>
      rw [List.map_cons, List.cons_append, List.map_cons,
        Transactional.applyAll, apply_createTable, Option.bind_some]
      exact inductionHypothesis (addTable tables table)

/-- The statements of the transaction migrate a prepared schema. -/
theorem applyAll_statements :
    Transactional.applyAll (Migrations.statements.map Statement.apply)
      schema.prepared = some schema.migrated :=
  applyAll_createTable Migrations.createdTables _ 1 _

/-- A schema that has a version is as it was after the first two
statements. -/
theorem created_of_version
    {version : ℤ} (stored : schema.version = some version) :
    schema.created = schema := by
  obtain ⟨schemaMigrations, tables⟩ := schema
  rw [Schema.version, Option.join_eq_some_iff] at stored
  rw [show schemaMigrations = some (some version) from stored]
  rfl

theorem prepared_of_version
    {version : ℤ} (stored : schema.version = some version) :
    schema.prepared = schema := by
  obtain ⟨schemaMigrations, tables⟩ := schema
  rw [Schema.version, Option.join_eq_some_iff] at stored
  rw [show schemaMigrations = some (some version) from stored]
  rfl

end Apply

theorem mem_addTable_of_mem
    {tables : List TableDefinition} {table present : TableDefinition}
    (within : present ∈ tables) : present ∈ addTable tables table := by
  rw [addTable]
  split
  · exact within
  · exact List.mem_append_left _ within

theorem mem_foldl_addTable_of_mem
    {created tables : List TableDefinition} {present : TableDefinition}
    (within : present ∈ tables) : present ∈ created.foldl addTable tables := by
  induction created generalizing tables with
  | nil => exact within
  | cons table created inductionHypothesis =>
      exact inductionHypothesis (mem_addTable_of_mem within)

/-- Every table that is created exists afterwards. -/
theorem exists_mem_foldl_addTable
    {created tables : List TableDefinition} {table : TableDefinition}
    (within : table ∈ created) :
    ∃ present ∈ created.foldl addTable tables,
      present.name = table.name := by
  induction created generalizing tables with
  | nil => contradiction
  | cons first created inductionHypothesis =>
      rcases List.mem_cons.mp within with here | later
      · have added : ∃ present ∈ addTable tables first,
            present.name = first.name := by
          rw [addTable]
          split
          · assumption
          · exact ⟨first, by simp, rfl⟩
        obtain ⟨present, added, named⟩ := added
        rw [List.foldl_cons, here]
        exact ⟨present, mem_foldl_addTable_of_mem added, named⟩
      · exact inductionHypothesis later

namespace Migrations

/-! ## How a call returns -/

/-- Everything before the commit works. -/
structure RunCall.ReachesCommit (call : RunCall) : Prop where
  created : call.created = true
  inserted : call.inserted = true
  selected : call.selected = true
  begins : call.begins = true
  executed : ∀ position < statements.length, call.executed position = true

/-- What the statements before the transaction leave. -/
def Bootstraps (before after : Schema) : Prop :=
  after = before ∨ after = before.created ∨ after = before.prepared

/-- The ways in which a call of `run` returns. -/
inductive Returns (connection : Transactional Schema) (call : RunCall) :
    Bool → Transactional Schema → Prop
  | stopped {schema : Schema}
      (bootstraps : Bootstraps connection.contents schema)
      (early : connection.transaction = none → ¬call.ReachesCommit) :
      Returns connection call false (connection.replace schema)
  | current
      (upToDate : currentVersion ≤ connection.contents.version.getD 0) :
      Returns connection call true
        (connection.replace connection.contents.prepared)
  | uncommitted
      (closed : connection.transaction = none)
      (behind : connection.contents.version.getD 0 < currentVersion)
      (reaches : call.ReachesCommit)
      (fails : call.commits = false) :
      Returns connection call false
        ⟨connection.contents.prepared, some connection.contents.migrated⟩
  | migrated
      (closed : connection.transaction = none)
      (behind : connection.contents.version.getD 0 < currentVersion)
      (commits : call.commits = true) :
      Returns connection call true ⟨connection.contents.migrated, none⟩

section Run

variable {connection : Transactional Schema} {call : RunCall}

theorem bootstraps_refl (schema : Schema) : Bootstraps schema schema :=
  Or.inl rfl

theorem bootstraps_created (schema : Schema) :
    Bootstraps schema schema.created :=
  Or.inr (Or.inl rfl)

theorem bootstraps_prepared (schema : Schema) :
    Bootstraps schema schema.prepared :=
  Or.inr (Or.inr rfl)

theorem execute_createSchemaMigrations (works : Bool) :
    connection.execute (Statement.apply .createSchemaMigrations) works =
      if works then some (connection.replace connection.contents.created)
      else none := rfl

theorem execute_insertVersion (works : Bool) :
    (connection.replace connection.contents.created).execute
        (Statement.apply .insertVersion) works =
      if works then some (connection.replace connection.contents.prepared)
      else none := by
  cases works with
  | false => rfl
  | true =>
      rw [if_pos rfl, Transactional.execute_of_works,
        Transactional.replace_replace]
      rw [Transactional.contents_replace]
      exact apply_insertVersion_created

/-- The transaction of a prepared schema is carried through to its end only
where all of its statements work. -/
theorem executeAll_statements (schema : Schema) :
    let loop :=
      Transactional.executeAll call.executed 0
        (statements.map Statement.apply)
        ⟨schema.prepared, some schema.prepared⟩
    (loop.1 = false ∧ loop.2.rollback = ⟨schema.prepared, none⟩ ∧
        ¬∀ position < statements.length, call.executed position = true) ∨
      (loop = (true, ⟨schema.prepared, some schema.migrated⟩) ∧
        ∀ position < statements.length, call.executed position = true) := by
  intro loop
  have sized : (statements.map Statement.apply).length = statements.length :=
    List.length_map _
  by_cases every :
      ∀ position < statements.length, call.executed position = true
  · right
    refine ⟨Transactional.executeAll_of_works applyAll_statements ?_, every⟩
    simpa only [Nat.zero_add, sized] using every
  · left
    obtain ⟨reached, left⟩ : ∃ reached, loop.2 = ⟨schema.prepared, reached⟩ :=
      Transactional.executeAll_open.imp' some fun _ left => left
    refine ⟨?_, congrArg Transactional.rollback left, every⟩
    rw [← Bool.not_eq_true]
    intro succeeded
    have worked := Transactional.works_of_executeAll succeeded
    exact every (by simpa only [Nat.zero_add, sized] using worked)

theorem run_returns
    {returned : Bool}
    (same : (run connection call).1.returned = returned) :
    Returns connection call returned (run connection call).2 := by
  rw [← same, run]
  dsimp only
  rw [execute_createSchemaMigrations]
  cases created : call.created with
  | false =>
      simpa using Returns.stopped (bootstraps_refl _)
        fun _ reaches => by simp [reaches.created] at created
  | true =>
  rw [if_pos rfl]
  dsimp only
  rw [execute_insertVersion]
  cases inserted : call.inserted with
  | false =>
      exact Returns.stopped (bootstraps_created _)
        fun _ reaches => by simp [reaches.inserted] at inserted
  | true =>
  rw [if_pos rfl]
  dsimp only
  cases selected : call.selected with
  | false =>
      exact Returns.stopped (bootstraps_prepared _)
        fun _ reaches => by simp [reaches.selected] at selected
  | true =>
  rw [if_neg (by decide), Transactional.contents_replace, version_prepared]
  dsimp only
  by_cases upToDate :
      currentVersion ≤ connection.contents.version.getD 0
  · rw [if_pos upToDate]
    exact Returns.current upToDate
  rw [if_neg upToDate]
  have behind := Int.not_le.mp upToDate
  cases opened : connection.transaction with
  | some working =>
      rw [Transactional.replace_of_open opened, Transactional.begin_of_open,
        ← Transactional.replace_of_open opened]
      exact Returns.stopped (bootstraps_prepared _)
        fun closed => by simp [closed] at opened
  | none =>
  rw [Transactional.replace_of_closed opened]
  cases begins : call.begins with
  | false =>
      rw [Transactional.begin_of_fails,
        ← Transactional.replace_of_closed opened]
      exact Returns.stopped (bootstraps_prepared _)
        fun _ reaches => by simp [reaches.begins] at begins
  | true =>
  rw [Transactional.begin_of_closed]
  dsimp only
  rcases executeAll_statements connection.contents with
    ⟨failed, rolledBack, incomplete⟩ | ⟨executed, complete⟩
  · rw [if_pos failed, rolledBack, ← Transactional.replace_of_closed opened]
    exact Returns.stopped (bootstraps_prepared _)
      fun _ reaches => incomplete reaches.executed
  · rw [executed, if_neg (by simp)]
    cases commits : call.commits with
    | false =>
        exact Returns.uncommitted opened behind
          ⟨created, inserted, selected, begins, complete⟩ commits
    | true => exact Returns.migrated opened behind commits

end Run

/-! ## The tables of version 1 -/

/-- A schema at the current version has the tables of the program. -/
def Complete (schema : Schema) : Prop :=
  ∀ version, schema.version = some version → currentVersion ≤ version →
    ∀ table ∈ createdTables, schema.hasTable table.name

/-- Both what is committed and what the connection sees is complete. -/
structure CompleteStore (connection : Transactional Schema) : Prop where
  committed : Complete connection.committed
  contents : Complete connection.contents

theorem complete_of_behind
    {schema : Schema}
    (behind : schema.version.getD 0 < currentVersion) : Complete schema := by
  intro version stored upToDate
  rw [stored, Option.getD_some] at behind
  omega

theorem complete_migrated (schema : Schema) : Complete schema.migrated := by
  intro version stored upToDate table within
  rw [Schema.hasTable, tables_migrated]
  exact exists_mem_foldl_addTable within

theorem complete_of_bootstraps
    {before after : Schema}
    (complete : Complete before) (bootstraps : Bootstraps before after) :
    Complete after := by
  rcases bootstraps with rfl | rfl | rfl
  · exact complete
  · obtain ⟨schemaMigrations, tables⟩ := before
    cases schemaMigrations with
    | none => exact complete_of_behind Int.zero_lt_one
    | some row => exact complete
  · intro version stored upToDate
    rw [version_prepared, Option.some_inj] at stored
    cases present : before.version with
    | none =>
        rw [present, Option.getD_none] at stored
        rw [← stored] at upToDate
        contradiction
    | some version =>
        rw [prepared_of_version present]
        rw [present, Option.getD_some] at stored
        exact complete version present (stored ▸ upToDate)

theorem completeStore_replace
    {connection : Transactional Schema} {schema : Schema}
    (complete : CompleteStore connection) (replaced : Complete schema) :
    CompleteStore (connection.replace schema) := by
  refine ⟨?_, by rwa [Transactional.contents_replace]⟩
  rw [Transactional.replace]
  split
  · exact replaced
  · exact complete.committed

theorem Returns.completeStore
    {connection after : Transactional Schema} {call : RunCall}
    {returned : Bool}
    (returns : Returns connection call returned after)
    (complete : CompleteStore connection) : CompleteStore after := by
  have prepared : Complete connection.contents.prepared :=
    complete_of_bootstraps complete.contents (bootstraps_prepared _)
  cases returns with
  | stopped bootstraps early =>
      apply completeStore_replace complete
      exact complete_of_bootstraps complete.contents bootstraps
  | current upToDate => exact completeStore_replace complete prepared
  | uncommitted closed behind reaches fails =>
      exact ⟨prepared, complete_migrated _⟩
  | migrated closed behind commits =>
      exact ⟨complete_migrated _, complete_migrated _⟩

/-- The tables of version 1 along any calls. -/
theorem completeStore_runAll
    {connection : Transactional Schema}
    (complete : CompleteStore connection) (calls : List RunCall) :
    CompleteStore (Machine.run run connection calls) := by
  induction calls generalizing connection with
  | nil => exact complete
  | cons call calls inductionHypothesis =>
      exact inductionHypothesis ((run_returns rfl).completeStore complete)

/-! ## Calls after a call -/

section Later

variable {connection after : Transactional Schema} {call : RunCall}
  {returned : Bool}

/-- A migrated connection stays as it is. -/
theorem Returns.eq_of_current
    {version : ℤ}
    (returns : Returns connection call returned after)
    (stored : connection.contents.version = some version)
    (upToDate : currentVersion ≤ version) : after = connection := by
  have reached : currentVersion ≤ connection.contents.version.getD 0 := by
    rwa [stored, Option.getD_some]
  cases returns with
  | stopped bootstraps early =>
      rcases bootstraps with same | same | same
      · rw [same, Transactional.replace_contents]
      · rw [same, created_of_version stored, Transactional.replace_contents]
      · rw [same, prepared_of_version stored, Transactional.replace_contents]
  | current upToDate =>
      rw [prepared_of_version stored, Transactional.replace_contents]
  | uncommitted closed behind reaches fails => omega
  | migrated closed behind commits => omega

theorem runAll_of_current
    {version : ℤ} (calls : List RunCall)
    (stored : connection.contents.version = some version)
    (upToDate : currentVersion ≤ version) :
    Machine.run run connection calls = connection := by
  induction calls with
  | nil => rfl
  | cons call calls inductionHypothesis =>
      have kept : (run connection call).2 = connection :=
        (run_returns rfl).eq_of_current stored upToDate
      rw [Machine.run_cons, kept, inductionHypothesis]

/-- A call whose commit is not what fails leaves no transaction open. -/
theorem Returns.closed
    (returns : Returns connection call returned after)
    (closed : connection.transaction = none)
    (commits : call.ReachesCommit → call.commits = true) :
    after.transaction = none := by
  cases returns with
  | stopped bootstraps early =>
      exact (Transactional.transaction_replace_eq_none_iff _).mpr closed
  | current upToDate =>
      exact (Transactional.transaction_replace_eq_none_iff _).mpr closed
  | uncommitted closed behind reaches fails =>
      rw [commits reaches] at fails
      contradiction
  | migrated closed behind commits => rfl

theorem closed_runAll
    {calls : List RunCall}
    (closed : connection.transaction = none)
    (commits : ∀ call ∈ calls, call.ReachesCommit → call.commits = true) :
    (Machine.run run connection calls).transaction = none := by
  induction calls generalizing connection with
  | nil => exact closed
  | cons call calls inductionHypothesis =>
      rw [List.forall_mem_cons] at commits
      exact inductionHypothesis
        ((run_returns rfl).closed closed commits.1) commits.2

/-- Without an open transaction and without failures a call succeeds. -/
theorem Returns.succeeds
    (returns : Returns connection call returned after)
    (closed : connection.transaction = none)
    (reaches : call.ReachesCommit) (commits : call.commits = true) :
    returned = true := by
  cases returns with
  | stopped bootstraps early => exact absurd reaches (early closed)
  | current upToDate => rfl
  | uncommitted closed behind reaches fails =>
      rw [commits] at fails
      contradiction
  | migrated closed behind commits => rfl

end Later

/-! ## Calls at version 0 -/

/-- The schema as it was, apart from the row with the version 0. -/
def KeepsSchema (before after : Schema) : Prop :=
  after.tables = before.tables ∧
    ∀ version, after.version = some version → version = 0

/-- What is expected of a call: a failure leaves no transaction open and the
schema as it was, and a later call without failures succeeds; version 1 has
all the tables whatever follows; after a success no call changes anything. -/
structure Recoverable
    (connection : Transactional Schema) (call : RunCall) : Prop where
  closed :
    (run connection call).1.returned = false →
      (run connection call).2.transaction = none ∧
        KeepsSchema connection.committed (run connection call).2.committed
  repeated :
    (run connection call).1.returned = false →
      ∀ between : List RunCall,
        (∀ call ∈ between, call.ReachesCommit → call.commits = true) →
          ∀ later : RunCall, later.ReachesCommit → later.commits = true →
            (run (Machine.run run (run connection call).2 between)
              later).1.returned = true
  complete : ∀ further : List RunCall,
    CompleteStore (Machine.run run connection (call :: further))
  settled :
    (run connection call).1.returned = true →
      ∀ further : List RunCall,
        Machine.run run (run connection call).2 further =
          (run connection call).2

section VersionZero

variable {connection after : Transactional Schema} {call : RunCall}
  {returned : Bool}

theorem keepsSchema_of_bootstraps
    {before after : Schema}
    (atZero : before.version.getD 0 = 0)
    (bootstraps : Bootstraps before after) :
    KeepsSchema before after := by
  have prepared : KeepsSchema before before.prepared := by
    refine ⟨rfl, fun version stored => ?_⟩
    rw [version_prepared, atZero, Option.some_inj] at stored
    exact stored.symm
  have kept : ∀ version, before.version = some version → version = 0 := by
    intro version stored
    rwa [stored, Option.getD_some] at atZero
  rcases bootstraps with rfl | rfl | rfl
  · exact ⟨rfl, kept⟩
  · refine ⟨rfl, fun version stored => kept version ?_⟩
    rwa [version_created] at stored
  · exact prepared

/-- A failed call whose commit is not what fails leaves the schema. -/
theorem Returns.keepsSchema
    (returns : Returns connection call false after)
    (closed : connection.transaction = none)
    (atZero : connection.committed.version.getD 0 = 0)
    (commits : call.ReachesCommit → call.commits = true) :
    KeepsSchema connection.committed after.committed := by
  cases returns with
  | stopped bootstraps early =>
      rw [Transactional.replace_of_closed closed]
      rw [Transactional.contents_of_closed closed] at bootstraps
      exact keepsSchema_of_bootstraps atZero bootstraps
  | uncommitted closed behind reaches fails =>
      rw [commits reaches] at fails
      contradiction

/-- A commit that fails leaves the transaction open. -/
theorem Returns.leavesOpen
    (returns : Returns connection call returned after)
    (closed : connection.transaction = none)
    (behind : connection.contents.version.getD 0 < currentVersion)
    (reaches : call.ReachesCommit) (fails : call.commits = false) :
    returned = false ∧ after.transaction ≠ none := by
  cases returns with
  | stopped bootstraps early => exact absurd reaches (early closed)
  | current upToDate => omega
  | uncommitted closed behind reaches fails =>
      exact ⟨rfl, Option.some_ne_none _⟩
  | migrated closed behind commits =>
      rw [commits] at fails
      contradiction

/-- A call that succeeds at version 0 has migrated. -/
theorem Returns.stored
    (returns : Returns connection call true after)
    (behind : connection.contents.version.getD 0 < currentVersion) :
    after.contents.version = some currentVersion := by
  cases returns with
  | current upToDate => omega
  | migrated closed behind commits => exact version_migrated

/-- A failed call leaves what is expected of it exactly when the commit is not
what fails. -/
theorem recoverable_iff
    (connection : Transactional Schema)
    (call : RunCall)
    (closed : connection.transaction = none)
    (atZero : connection.committed.version.getD 0 = 0) :
    Recoverable connection call ↔
      (call.ReachesCommit → call.commits = true) := by
  have sees := Transactional.contents_of_closed closed
  have behind : connection.contents.version.getD 0 < currentVersion := by
    rw [sees, atZero]
    exact Int.zero_lt_one
  constructor
  · intro recoverable reaches
    by_contra fails
    rw [Bool.not_eq_true] at fails
    obtain ⟨failed, opened⟩ :=
      (run_returns rfl).leavesOpen closed behind reaches fails
    exact opened (recoverable.closed failed).1
  · intro commits
    have closedAfter := (run_returns rfl).closed closed commits
    refine ⟨?_, ?_, ?_, ?_⟩
    · intro failed
      refine ⟨closedAfter, ?_⟩
      exact (run_returns failed).keepsSchema closed atZero commits
    · intro _ between eachCommits later reaches works
      have closedBetween := closed_runAll closedAfter eachCommits
      exact (run_returns rfl).succeeds closedBetween reaches works
    · intro further
      apply completeStore_runAll
      exact ⟨complete_of_behind (sees ▸ behind), complete_of_behind behind⟩
    · intro succeeded further
      have stored := (run_returns succeeded).stored behind
      exact runAll_of_current further stored (Int.le_refl _)

end VersionZero

/-! ## An empty database -/

section Examples

/-- A database without tables. -/
def emptyDatabase : Transactional Schema :=
  ⟨⟨none, []⟩, none⟩

/-- A call all of whose statements work. -/
def committing (commits : Bool) : RunCall where
  error := none
  created := true
  inserted := true
  selected := true
  begins := true
  executed := fun _ => true
  commits := commits
  lastError := []

/-- A call whose sixth table is not created. -/
theorem recoverable_sixth_table :
    Recoverable emptyDatabase
      { committing true with
        executed := fun position => decide (position ≠ 5) } := by
  apply (recoverable_iff _ _ rfl rfl).mpr
  intro reaches
  have sixth := reaches.executed 5 (by decide)
  contradiction

/-- A commit that fails leaves the transaction open, the call after it sees
version 1 in it and succeeds, and nothing is committed. -/
theorem run_leaves_transaction :
    let failed := run emptyDatabase (committing false)
    let later := run failed.2 (committing true)
    failed.1.returned = false ∧ failed.2.transaction ≠ none ∧
      later.1.returned = true ∧ later.2.transaction ≠ none ∧
      later.2.committed.tables = [] ∧
      ¬Recoverable emptyDatabase (committing false) := by
  intro failed later
  have opened : failed.2.transaction ≠ none := by decide +kernel
  refine ⟨by decide +kernel, opened, by decide +kernel, by decide +kernel,
    by decide +kernel, fun recoverable => ?_⟩
  exact opened (recoverable.closed (by decide +kernel)).1

end Examples

end Migrations
end Storage
end VoxDesktop
