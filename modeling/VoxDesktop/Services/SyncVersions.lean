import Mathlib
import VoxDesktop.Services.SyncPull

/-!
# Versions of synchronized records

The store compares no versions: an entry that arrives replaces the record with
its key.  The stored record is therefore the one that arrived last, and its
version goes down exactly when entries arrive out of version order.  One pull
that fails after its first page is enough, since every pull starts the log
from its beginning.
-/

namespace VoxDesktop
namespace Services
namespace SyncService

open Qt Library Network Storage

/-- The stored version of a key; a missing record is below all versions. -/
def storedVersion (table : SyncTable) (key : QString × QString) :
    WithBot ℤ :=
  match table.lookup key with
  | none => ⊥
  | some record => record.version

/-- The stored versions of a key before, between and after some upserts. -/
def versionsAlong (key : QString × QString) :
    SyncTable → List SyncRecord → List (WithBot ℤ)
  | table, [] => [storedVersion table key]
  | table, record :: records =>
      storedVersion table key ::
        versionsAlong key (table.replace record) records

/-- The records that arrive for a key, after the one it has. -/
def arrivals
    (key : QString × QString) (table : SyncTable)
    (records : List SyncRecord) : List SyncRecord :=
  (table.lookup key).toList ++ records.filter fun record => record.key = key

/-- The records stored along a run of calls, in order. -/
def recordsOfPulls (json : QJsonDocument) (pulls : List Pull) :
    List SyncRecord :=
  pulls.flatMap fun pull =>
    recordsOfPull json pull.network pull.collection [] pull.pages

section Runs

variable {key : QString × QString}

theorem run_pullStep
    (json : QJsonDocument) (table : SyncTable) (pulls : List Pull) :
    Machine.run (pullStep json) table pulls =
      table.replaceAll (recordsOfPulls json pulls) := by
  induction pulls generalizing table with
  | nil => rfl
  | cons pull pulls inductionHypothesis =>
      have stepped : (pullStep json table pull).2 =
          table.replaceAll
            (recordsOfPull json pull.network pull.collection []
              pull.pages) :=
        pullPages_table json pull.network pull.collection [] pull.pages table
      rw [Machine.run_cons, inductionHypothesis, stepped]
      exact (Table.replaceAll_append ..).symm

theorem versionsAlong_cons_isChain
    (table : SyncTable) (record : SyncRecord) (records : List SyncRecord) :
    (versionsAlong key table (record :: records)).IsChain (· ≤ ·) ↔
      storedVersion table key ≤ storedVersion (table.replace record) key ∧
        (versionsAlong key (table.replace record) records).IsChain
          (· ≤ ·) := by
  cases records with
  | nil => exact List.isChain_cons_cons
  | cons next records => exact List.isChain_cons_cons

/-- The stored versions never decrease exactly when the arriving ones never
do. -/
theorem versionsAlong_isChain (table : SyncTable) (records : List SyncRecord) :
    (versionsAlong key table records).IsChain (· ≤ ·) ↔
      (arrivals key table records).IsChain fun earlier later =>
        earlier.version ≤ later.version := by
  induction records generalizing table with
  | nil =>
      cases found : table.lookup key <;>
        simp [versionsAlong, arrivals, found]
  | cons record records inductionHypothesis =>
      have rest := inductionHypothesis (table.replace record)
      rw [versionsAlong_cons_isChain, rest]
      by_cases same : record.key = key
      · have replaced :
            (table.replace record).lookup key = some record := by
          rw [Table.lookup_replace, if_pos same.symm]
        have arrivalsAfter :
            arrivals key (table.replace record) records =
              record :: records.filter fun later => later.key = key := by
          rw [arrivals, replaced]
          rfl
        have arrivalsBefore :
            arrivals key table (record :: records) =
              (table.lookup key).toList ++
                arrivals key (table.replace record) records := by
          rw [arrivalsAfter, arrivals,
            List.filter_cons_of_pos (by simpa using same)]
        rw [arrivalsBefore, arrivalsAfter, storedVersion, storedVersion,
          replaced]
        cases table.lookup key with
        | none => simp
        | some stored => simp [List.isChain_cons_cons]
      · have kept :
            (table.replace record).lookup key = table.lookup key := by
          rw [Table.lookup_replace, if_neg (Ne.symm same)]
        have arrivalsSame :
            arrivals key table (record :: records) =
              arrivals key (table.replace record) records := by
          rw [arrivals, arrivals, kept,
            List.filter_cons_of_neg (by simpa using same)]
        rw [arrivalsSame, storedVersion, storedVersion, kept]
        simp

/-- After every run the stored record of a key is the one that arrived last,
and over the run its version never decreases exactly when the versions that
arrive, beginning with the stored one, never decrease. -/
theorem stored_version_follows_arrivals
    (json : QJsonDocument)
    (table : SyncTable)
    (pulls : List Pull)
    (key : QString × QString) :
    let records := recordsOfPulls json pulls
    (Machine.run (pullStep json) table pulls).lookup key =
        (arrivals key table records).getLast? ∧
      ((versionsAlong key table records).Pairwise (· ≤ ·) ↔
        (arrivals key table records).Pairwise fun earlier later =>
          earlier.version ≤ later.version) := by
  intro records
  constructor
  · rw [run_pullStep, Table.lookup_replaceAll, Table.lastOf, arrivals,
      List.getLast?_append]
    congr 1
    cases table.lookup key <;> rfl
  · rw [← List.isChain_iff_pairwise, versionsAlong_isChain]
    have transitive : IsTrans SyncRecord fun earlier later =>
        earlier.version ≤ later.version :=
      ⟨fun _ _ _ => le_trans⟩
    exact List.isChain_iff_pairwise

end Runs

section Examples

/-- A complete pull deletes `a` in version 2; a later pull that fails after
its first page brings version 1 back. -/
theorem stored_version_decreases :
    let complete := pullStep pageDocument Table.empty
      (pullOf [answeredAt 10, answeredAt 20])
    let again := pullStep pageDocument complete.2
      (pullOf [answeredAt 30, unanswered])
    let key := (QString.literal "notes", QString.literal "a")
    complete.1 = some true ∧
      (complete.2.lookup key).map SyncRecord.content =
        some (entryContent (entryOf "a" "gone" 2 true)) ∧
      again.1 = some false ∧
      (again.2.lookup key).map SyncRecord.content =
        some (entryContent (entryOf "a" "one" 1 false)) := by
  decide +kernel

end Examples

end SyncService
end Services
end VoxDesktop
