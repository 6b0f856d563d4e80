import Mathlib.Data.List.Induction
import Mathlib.Data.List.Nodup
import Mathlib.Data.List.Perm.Basic

/-!
# Tables with a primary key

A table is its rows in the order of their insertion, no two of them with the
same key.  An upsert inserts a row or, when there is one with its key, updates
that row in its place.  What a table holds is read off by key: an upsert
changes the row of one key, and after a sequence of upserts that replace, a
key has the last row given for it.
-/

namespace Library

/-- Rows with distinct keys. -/
structure Table {Row Key : Type*} (key : Row → Key) where
  rows : List Row
  distinct : (rows.map key).Nodup

namespace Table

variable {Row Key : Type*} {key : Row → Key}

/-- A table without rows. -/
def empty : Table key := ⟨[], List.nodup_nil⟩

/-- An update that leaves the key of the stored row alone. -/
def KeepsKey (key : Row → Key) (update : Row → Row → Row) : Prop :=
  ∀ stored row, key stored = key row → key (update stored row) = key row

variable [DecidableEq Key]

/-- The row of a key. -/
def lookup (table : Table key) (wanted : Key) : Option Row :=
  table.rows.find? fun row => key row = wanted

/-- Insert a row or update the one with its key. -/
def upsertRows (key : Row → Key) (update : Row → Row → Row) :
    List Row → Row → List Row
  | [], row => [row]
  | stored :: rows, row =>
      if key stored = key row then update stored row :: rows
      else stored :: upsertRows key update rows row

section Rows

variable {update : Row → Row → Row}

/-- An upsert adds the key of its row, if it is new. -/
theorem mem_keys_upsertRows
    (keeps : KeepsKey key update) (rows : List Row) (row : Row)
    {wanted : Key} :
    wanted ∈ (upsertRows key update rows row).map key ↔
      wanted ∈ rows.map key ∨ wanted = key row := by
  induction rows with
  | nil => simp [upsertRows]
  | cons stored rows inductionHypothesis =>
      rw [upsertRows]
      split
      · rename_i same
        rw [List.map_cons, List.map_cons, keeps stored row same, same]
        simp only [List.mem_cons]
        tauto
      · rw [List.map_cons, List.map_cons, List.mem_cons, List.mem_cons,
          inductionHypothesis, or_assoc]

theorem nodup_upsertRows
    (keeps : KeepsKey key update) {rows : List Row}
    (distinct : (rows.map key).Nodup) (row : Row) :
    ((upsertRows key update rows row).map key).Nodup := by
  induction rows with
  | nil => simp [upsertRows]
  | cons stored rows inductionHypothesis =>
      rw [List.map_cons, List.nodup_cons] at distinct
      rw [upsertRows]
      split
      · rename_i same
        rw [List.map_cons, keeps stored row same, ← same, List.nodup_cons]
        exact distinct
      · rename_i differs
        rw [List.map_cons, List.nodup_cons, mem_keys_upsertRows keeps]
        exact ⟨by simp [distinct.1, differs], inductionHypothesis distinct.2⟩

end Rows

/-- Insert a row or update the one with its key. -/
def upsert
    (table : Table key) (update : Row → Row → Row)
    (keeps : KeepsKey key update) (row : Row) : Table key :=
  ⟨upsertRows key update table.rows row,
    nodup_upsertRows keeps table.distinct row⟩

/-! ## Lookups -/

/-- The rows of one key are none or one. -/
theorem filter_key_rows (table : Table key) (wanted : Key) :
    table.rows.filter (fun row => key row = wanted) =
      (table.lookup wanted).toList := by
  obtain ⟨rows, distinct⟩ := table
  induction rows with
  | nil => rfl
  | cons row rows inductionHypothesis =>
      rw [List.map_cons, List.nodup_cons] at distinct
      have rest := inductionHypothesis distinct.2
      rw [lookup] at rest ⊢
      by_cases same : key row = wanted
      · have others :
            rows.filter (fun other => key other = wanted) = [] := by
          rw [List.filter_eq_nil_iff]
          intro other within matching
          apply distinct.1
          rw [same, ← of_decide_eq_true matching]
          exact List.mem_map_of_mem within
        simp [same, others]
      · simp [same, rest]

/-- A row of a table is the one found for its key. -/
theorem lookup_eq_some_iff (table : Table key) (wanted : Key) (row : Row) :
    table.lookup wanted = some row ↔ row ∈ table.rows ∧ key row = wanted := by
  have rows := table.filter_key_rows wanted
  have within :
      row ∈ table.rows.filter (fun row => key row = wanted) ↔
        row ∈ table.rows ∧ key row = wanted := by
    simp [List.mem_filter]
  rw [← within, rows, Option.mem_toList]

section Upsert

variable {update : Row → Row → Row}

theorem lookup_upsert_self
    (table : Table key) (keeps : KeepsKey key update) (row : Row) :
    (table.upsert update keeps row).lookup (key row) =
      some ((table.lookup (key row)).elim row
        fun stored => update stored row) := by
  obtain ⟨rows, distinct⟩ := table
  rw [upsert, lookup, lookup]
  dsimp only
  clear distinct
  induction rows with
  | nil => simp [upsertRows]
  | cons stored rows inductionHypothesis =>
      by_cases same : key stored = key row
      · simp [upsertRows, same, keeps stored row same]
      · simp [upsertRows, same, inductionHypothesis]

theorem lookup_upsert_of_ne
    (table : Table key) (keeps : KeepsKey key update) {row : Row}
    {other : Key} (differs : other ≠ key row) :
    (table.upsert update keeps row).lookup other = table.lookup other := by
  obtain ⟨rows, distinct⟩ := table
  rw [upsert, lookup, lookup]
  dsimp only
  clear distinct
  induction rows with
  | nil => simp [upsertRows, Ne.symm differs]
  | cons stored rows inductionHypothesis =>
      by_cases same : key stored = key row
      · have notUpdated : key (update stored row) ≠ other := by
          rw [keeps stored row same]
          exact Ne.symm differs
        simp [upsertRows, same, notUpdated, Ne.symm differs]
      · rw [upsertRows, if_neg same, List.find?_cons, List.find?_cons,
          inductionHypothesis]

/-- After an upsert, a value with the key of its row is read from the table
exactly if it is read from the row that the upsert leaves. -/
theorem exists_mem_upsert_iff
    {Value : Type*} (table : Table key) (keeps : KeepsKey key update)
    (row : Row) (read : Row → Value) {value : Value}
    (named : ∀ stored, read stored = value → key stored = key row) :
    (∃ stored ∈ (table.upsert update keeps row).rows, read stored = value) ↔
      read ((table.lookup (key row)).elim row fun stored =>
        update stored row) = value := by
  have found := table.lookup_upsert_self keeps row
  constructor
  · rintro ⟨stored, within, reads⟩
    have same := (lookup_eq_some_iff _ _ stored).mpr
      ⟨within, named stored reads⟩
    rw [found] at same
    rw [Option.some.inj same, reads]
  · intro reads
    exact ⟨_, ((lookup_eq_some_iff _ _ _).mp found).1, reads⟩

end Upsert

/-! ## The last writer -/

omit [DecidableEq Key] in
theorem keepsKey_replacement :
    KeepsKey key fun (_ row : Row) => row :=
  fun _ _ _ => rfl

/-- Insert a row in place of the one with its key. -/
def replace (table : Table key) (row : Row) : Table key :=
  table.upsert (fun _ row => row) keepsKey_replacement row

/-- The last row given for a key. -/
def lastOf (key : Row → Key) (rows : List Row) (wanted : Key) : Option Row :=
  (rows.filter fun row => key row = wanted).getLast?

theorem lastOf_concat (rows : List Row) (row : Row) (wanted : Key) :
    lastOf key (rows ++ [row]) wanted =
      if key row = wanted then some row else lastOf key rows wanted := by
  rw [lastOf, List.filter_append]
  split
  · rename_i same
    rw [List.filter_cons_of_pos (by simp [same]), List.filter_nil,
      List.getLast?_concat]
  · rename_i differs
    rw [List.filter_cons_of_neg (by simp [differs]), List.filter_nil,
      List.append_nil, lastOf]

theorem lastOf_map
    {Source : Type*} (row : Source → Row) (sources : List Source)
    (wanted : Key) :
    lastOf key (sources.map row) wanted =
      (lastOf (fun source => key (row source)) sources wanted).map row := by
  rw [lastOf, lastOf, List.filter_map, List.getLast?_map]
  rfl

theorem lastOf_eq_none_iff {rows : List Row} {wanted : Key} :
    lastOf key rows wanted = none ↔ ∀ row ∈ rows, key row ≠ wanted := by
  rw [lastOf, List.getLast?_eq_none_iff, List.filter_eq_nil_iff]
  simp

/-- The last row of a key is followed by rows of other keys only. -/
theorem split_of_lastOf
    {rows : List Row} {wanted : Key} {last : Row}
    (found : lastOf key rows wanted = some last) :
    key last = wanted ∧
      ∃ earlier later, rows = earlier ++ last :: later ∧
        ∀ row ∈ later, key row ≠ wanted := by
  induction rows using List.reverseRecOn with
  | nil => cases found
  | append_singleton rows row inductionHypothesis =>
      rw [lastOf_concat] at found
      split at found
      · rename_i same
        obtain rfl := Option.some.inj found
        exact ⟨same, rows, [], rfl, by simp⟩
      · rename_i differs
        obtain ⟨same, earlier, later, rfl, others⟩ :=
          inductionHypothesis found
        refine ⟨same, earlier, later ++ [row], by simp, ?_⟩
        intro other within
        rcases List.mem_append.mp within with within | within
        · exact others other within
        · rwa [List.mem_singleton.mp within]

/-- Replace rows one after the other. -/
def replaceAll (table : Table key) (rows : List Row) : Table key :=
  rows.foldl replace table

/-- An update that keeps nothing of a stored row replaces it. -/
theorem upsert_eq_replace
    (table : Table key) {update : Row → Row → Row}
    (keeps : KeepsKey key update) {row : Row}
    (replaces : ∀ stored, key stored = key row → update stored row = row) :
    table.upsert update keeps row = table.replace row := by
  obtain ⟨rows, distinct⟩ := table
  rw [replace, upsert, upsert, mk.injEq]
  dsimp only
  clear distinct
  induction rows with
  | nil => rfl
  | cons stored rows inductionHypothesis =>
      rw [upsertRows, upsertRows]
      split
      · rename_i same
        rw [replaces stored same]
      · rw [inductionHypothesis]

theorem lookup_replace (table : Table key) (row : Row) (wanted : Key) :
    (table.replace row).lookup wanted =
      if wanted = key row then some row else table.lookup wanted := by
  split
  · rename_i same
    rw [same, replace, lookup_upsert_self]
    cases table.lookup (key row) <;> rfl
  · rename_i differs
    exact lookup_upsert_of_ne table _ differs

/-- After a sequence of replacements, a key has the last row given for it, or
what it had before. -/
theorem lookup_replaceAll
    (table : Table key) (rows : List Row) (wanted : Key) :
    (table.replaceAll rows).lookup wanted =
      (lastOf key rows wanted).or (table.lookup wanted) := by
  induction rows generalizing table with
  | nil => simp [replaceAll, lastOf]
  | cons row rows inductionHypothesis =>
      rw [replaceAll, List.foldl_cons, ← replaceAll, inductionHypothesis,
        lookup_replace, lastOf, lastOf]
      by_cases same : key row = wanted
      · rw [if_pos same.symm, List.filter_cons_of_pos (by simp [same]),
          List.getLast?_cons]
        cases (rows.filter fun row => key row = wanted).getLast? <;> rfl
      · rw [if_neg (Ne.symm same), List.filter_cons_of_neg (by simp [same])]

/-- A key keeps what it had exactly when the last row given for it, if any, is
the one it had. -/
theorem lookup_replaceAll_eq_iff
    (table : Table key) (rows : List Row) (wanted : Key) :
    (table.replaceAll rows).lookup wanted = table.lookup wanted ↔
      ∀ row, lastOf key rows wanted = some row →
        table.lookup wanted = some row := by
  rw [lookup_replaceAll]
  cases lastOf key rows wanted with
  | none => simp
  | some last =>
      rw [Option.some_or]
      constructor
      · rintro same row equal
        rw [← same, equal]
      · intro there
        exact (there last rfl).symm

/-- Replacements add the keys of their rows and remove none. -/
theorem mem_keys_replaceAll
    (table : Table key) (rows : List Row) (wanted : Key) :
    wanted ∈ (table.replaceAll rows).rows.map key ↔
      wanted ∈ table.rows.map key ∨ wanted ∈ rows.map key := by
  induction rows generalizing table with
  | nil => simp [replaceAll]
  | cons row rows inductionHypothesis =>
      rw [replaceAll, List.foldl_cons, ← replaceAll, inductionHypothesis,
        replace, upsert, mem_keys_upsertRows keepsKey_replacement,
        List.map_cons, List.mem_cons, or_assoc]

theorem replaceAll_append
    (table : Table key) (first second : List Row) :
    table.replaceAll (first ++ second) =
      (table.replaceAll first).replaceAll second :=
  List.foldl_append

end Table
end Library
