import VoxDesktop.Services.SyncPull

/-!
# Which records pulling a collection changes

The key of a stored record is the one that the returned record names; the
collection that was asked for is not compared with it.  So a call changes
records of other collections exactly as the server returns such records, and
leaves them alone when every returned record is of the collection asked for.
-/

namespace VoxDesktop
namespace Services
namespace SyncService

open Qt Library Network Storage

section Frame

variable (json : QJsonDocument) (network : NetworkAccess)
  (collection : QString)

/-- An entry of a page that the call can be given: some page is accepted with
it, at the cursor where its request is made. -/
def Returned (pages : List PageOutcome) (entry : SyncRecordDto) : Prop :=
  ∃ page ∈ pages, ∃ cursor changes,
    (SyncApi.changes json
        (page.respond
          (SyncApi.changesRequest network collection cursor
            kSyncChangesPageSize))).accepted = some changes ∧
      entry ∈ changes.records

variable {json network collection}

/-- What is stored from a page has the key of an entry of the page. -/
theorem exists_entry_of_mem_recordsOfPage
    {entries : List SyncRecordDto} {upserts : ℕ → UpsertOutcome}
    {record : SyncRecord}
    (stored : record ∈ recordsOfPage entries upserts) :
    ∃ entry ∈ entries, record.key = (entry.collection, entry.recordId) := by
  induction entries generalizing upserts with
  | nil => exact absurd stored List.not_mem_nil
  | cons entry entries inductionHypothesis =>
      rw [recordsOfPage] at stored
      split at stored
      · rcases List.mem_cons.mp stored with rfl | later
        · exact ⟨entry, List.mem_cons_self, rfl⟩
        · obtain ⟨other, within, sameKey⟩ := inductionHypothesis later
          exact ⟨other, List.mem_cons_of_mem _ within, sameKey⟩
      · exact absurd stored List.not_mem_nil

/-- What a call stores has the key of an entry that it was given. -/
theorem exists_returned_of_mem_recordsOfPull
    {cursor : QString} {pages : List PageOutcome} {record : SyncRecord}
    (stored : record ∈ recordsOfPull json network collection cursor pages) :
    ∃ entry, Returned json network collection pages entry ∧
      record.key = (entry.collection, entry.recordId) := by
  induction pages generalizing cursor with
  | nil => exact absurd stored List.not_mem_nil
  | cons page pages inductionHypothesis =>
      rw [recordsOfPull] at stored
      split at stored
      · exact absurd stored List.not_mem_nil
      rename_i changes accepted
      rcases List.mem_append.mp stored with ofPage | later
      · obtain ⟨entry, within, sameKey⟩ :=
          exists_entry_of_mem_recordsOfPage ofPage
        exact ⟨entry,
          ⟨page, List.mem_cons_self, cursor, changes, accepted, within⟩,
          sameKey⟩
      · split at later
        · obtain ⟨entry, ⟨other, within, rest⟩, sameKey⟩ :=
            inductionHypothesis later
          exact ⟨entry, ⟨other, List.mem_cons_of_mem _ within, rest⟩,
            sameKey⟩
        · exact absurd later List.not_mem_nil

end Frame

/-- Whatever the pages contain and whatever the call returns, a record stays as
it was exactly when the last record stored under its key, if there is one, is
the record that was there.  A stored record has the key that some entry names
which the call is given; when every such entry is of the collection asked for,
no record of another collection changes. -/
theorem pullCollection_keeps_iff
    (json : QJsonDocument)
    (network : NetworkAccess)
    (collection : QString)
    (pages : List PageOutcome)
    (table : SyncTable) :
    let after :=
      (pullCollection json network collection pages table).2
    (∀ key,
      after.lookup key = table.lookup key ↔
        ∀ record,
          Table.lastOf SyncRecord.key
              (recordsOfPull json network collection [] pages) key =
                some record →
            table.lookup key = some record) ∧
      (∀ record ∈ recordsOfPull json network collection [] pages,
        ∃ entry, Returned json network collection pages entry ∧
          record.key = (entry.collection, entry.recordId)) ∧
      ((∀ entry, Returned json network collection pages entry →
          entry.collection = collection) →
        ∀ key : QString × QString, key.1 ≠ collection →
          after.lookup key = table.lookup key) := by
  intro after
  have replaced :
      after =
        table.replaceAll (recordsOfPull json network collection [] pages) :=
    pullPages_table json network collection [] pages table
  have keeps : ∀ key,
      after.lookup key = table.lookup key ↔
        ∀ record,
          Table.lastOf SyncRecord.key
              (recordsOfPull json network collection [] pages) key =
                some record →
            table.lookup key = some record := by
    intro key
    rw [replaced]
    exact Table.lookup_replaceAll_eq_iff table _ key
  refine ⟨keeps, fun record => exists_returned_of_mem_recordsOfPull,
    fun ofCollection key outside => (keeps key).mpr ?_⟩
  intro record last
  obtain ⟨sameKey, earlier, later, split, _⟩ := Table.split_of_lastOf last
  have stored :
      record ∈ recordsOfPull json network collection [] pages := by
    rw [split]
    exact List.mem_append_right _ List.mem_cons_self
  obtain ⟨entry, returned, entryKey⟩ :=
    exists_returned_of_mem_recordsOfPull stored
  have inside : key.1 = collection := by
    rw [← sameKey, entryKey]
    exact ofCollection entry returned
  exact absurd inside outside

/-- A server that answers a call for `tasks` with records of `notes` has them
stored. -/
theorem pullCollection_tasks_stores_notes :
    let after :=
      (pullCollection pageDocument ⟨QString.literal "https://vox", []⟩
        (QString.literal "tasks") [answeredAt 10, answeredAt 20] otherTable)
    after.1 = some true ∧
      otherTable.lookup (QString.literal "notes", QString.literal "a") =
        none ∧
      (after.2.lookup
        (QString.literal "notes", QString.literal "a")).isSome = true := by
  decide +kernel

end SyncService
end Services
end VoxDesktop
