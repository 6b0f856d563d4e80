import Mathlib.Data.List.Sort
import VoxDesktop.Library.Table
import VoxDesktop.Qt.Text

/-!
# The table of synchronized records

`SqlSyncRepository` over the rows of `sync_records`, whose primary key is the
collection and the record id.  Whether a statement executes is an argument.
-/

namespace VoxDesktop
namespace Storage

open Qt Library

structure SyncRecord where
  collection : QString
  recordId : QString
  version : ℤ
  ciphertext : QByteArray
  updatedAtMs : ℤ
  tombstone : Bool
deriving DecidableEq

namespace SyncRecord

/-- The primary key. -/
def key (record : SyncRecord) : QString × QString :=
  (record.collection, record.recordId)

/-- What a record holds, up to the time of its last update. -/
def content (record : SyncRecord) : ℤ × QByteArray × Bool :=
  (record.version, record.ciphertext, record.tombstone)

end SyncRecord

abbrev SyncTable : Type := Table SyncRecord.key

namespace SyncRepository

/-- `INSERT … ON CONFLICT(collection, record_id) DO UPDATE` of all other
columns. -/
def upsertRecord
    (table : SyncTable) (record : SyncRecord) (executed : Bool) :
    Bool × SyncTable :=
  if executed then (true, table.replace record) else (false, table)

/-- `WHERE collection = ? ORDER BY updated_at_ms DESC`; the sorter keeps equal
rows in the order of the table. -/
def listRecords
    (table : SyncTable) (collection : QString) (executed : Bool) :
    List SyncRecord :=
  if executed then
    (table.rows.filter fun record => record.collection = collection)
      |>.insertionSort fun first second =>
        second.updatedAtMs ≤ first.updatedAtMs
  else []

/-- The listing of a collection has the row of every record id once, if there
is one. -/
theorem filter_listRecords
    (table : SyncTable) (collection recordId : QString) :
    (listRecords table collection true).filter
        (fun record => record.recordId = recordId) =
      (table.lookup (collection, recordId)).toList := by
  have rows :
      (table.rows.filter fun record => record.collection = collection).filter
          (fun record => record.recordId = recordId) =
        (table.lookup (collection, recordId)).toList := by
    rw [← Table.filter_key_rows, List.filter_filter]
    refine List.filter_congr fun record _ => ?_
    simp [SyncRecord.key, Bool.and_comm]
  have sorted := (List.perm_insertionSort
    (fun first second : SyncRecord => second.updatedAtMs ≤ first.updatedAtMs)
    (table.rows.filter fun record => record.collection = collection)).filter
      fun record => record.recordId = recordId
  rw [rows] at sorted
  rw [listRecords, if_pos rfl]
  cases found : table.lookup (collection, recordId) with
  | none =>
      rw [found] at sorted
      exact List.perm_nil.mp sorted
  | some record =>
      rw [found] at sorted
      exact List.perm_singleton.mp sorted

/-- Tables with the same rows of a collection list it alike. -/
theorem listRecords_congr
    {table other : SyncTable} {collection : QString}
    (same :
      (other.rows.filter fun record => record.collection = collection) =
        table.rows.filter fun record => record.collection = collection)
    (executed : Bool) :
    listRecords other collection executed =
      listRecords table collection executed := by
  rw [listRecords, listRecords, same]

/-- Storing a record leaves the rows of other collections alone. -/
theorem filter_replace
    (table : SyncTable) (record : SyncRecord) {collection : QString}
    (other : record.collection ≠ collection) :
    ((table.replace record).rows.filter fun row =>
        row.collection = collection) =
      table.rows.filter fun row => row.collection = collection := by
  obtain ⟨rows, distinct⟩ := table
  rw [Table.replace, Table.upsert]
  dsimp only
  clear distinct
  induction rows with
  | nil => simp [Table.upsertRows, other]
  | cons stored rows inductionHypothesis =>
      rw [Table.upsertRows]
      split
      · rename_i same
        have sameCollection : stored.collection = record.collection :=
          congrArg Prod.fst same
        have stays : stored.collection ≠ collection := by
          rw [sameCollection]
          exact other
        simp [other, stays]
      · rw [List.filter_cons, List.filter_cons, inductionHypothesis]

end SyncRepository
end Storage
end VoxDesktop
