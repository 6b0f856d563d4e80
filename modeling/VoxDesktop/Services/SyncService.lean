import VoxDesktop.Network.SyncApi
import VoxDesktop.Storage.SyncRepository

/-!
# Pulling a collection and pushing a record

`services/SyncService` over the table of synchronized records.  Everything
around one page is an argument: how its request is answered and, for every
record of the page, the time and whether the statement executes.
-/

namespace VoxDesktop
namespace Services

open Qt Network Storage

/-- What happens around one `upsertRecord`. -/
structure UpsertOutcome where
  currentMSecs : ℤ
  executed : Bool

/-- What happens around one page. -/
structure PageOutcome where
  respond : HttpRequest × QUrlQuery → NetworkResponse
  upserts : ℕ → UpsertOutcome

namespace SyncService

def kSyncChangesPageSize : ℤ := 100

/-- The record that is stored for an entry of the log. -/
def localRecord (record : SyncRecordDto) (currentMSecs : ℤ) : SyncRecord where
  collection := record.collection
  recordId := record.recordId
  version := record.version
  ciphertext := toUtf8 record.ciphertext
  updatedAtMs := currentMSecs
  tombstone := record.deleted

/-- The loop over the records of a page; the first upsert that fails ends
it. -/
def storeRecords :
    SyncTable → List SyncRecordDto → (ℕ → UpsertOutcome) → Bool × SyncTable
  | table, [], _ => (true, table)
  | table, record :: records, upserts =>
      let upserted :=
        SyncRepository.upsertRecord table
          (localRecord record (upserts 0).currentMSecs) (upserts 0).executed
      if upserted.1 then
        storeRecords upserted.2 records fun index => upserts (index + 1)
      else (false, upserted.2)

/-- The loop over the pages.  It has not returned when the list of what
happens around its pages ends. -/
def pullPages
    (json : QJsonDocument) (network : NetworkAccess) (collection : QString) :
    (cursor : QString) → List PageOutcome → SyncTable →
      Option Bool × SyncTable
  | _, [], table => (none, table)
  | cursor, page :: pages, table =>
      let request :=
        SyncApi.changesRequest network collection cursor kSyncChangesPageSize
      match (SyncApi.changes json (page.respond request)).accepted with
      | none => (some false, table)
      | some changes =>
          let stored := storeRecords table changes.records page.upserts
          if stored.1 = false then (some false, stored.2)
          else if changes.hasMore then
            pullPages json network collection changes.nextCursor pages
              stored.2
          else (some true, stored.2)

def pullCollection
    (json : QJsonDocument) (network : NetworkAccess) (collection : QString)
    (pages : List PageOutcome) (table : SyncTable) :
    Option Bool × SyncTable :=
  pullPages json network collection [] pages table

/-- The entry that is sent for a record. -/
def pushedRecord (record : SyncRecord) : SyncRecordDto where
  collection := record.collection
  recordId := record.recordId
  version := record.version
  ciphertext := fromUtf8 record.ciphertext
  deleted := record.tombstone

/-- `pushRecord`, where `respond` answers its request. -/
def pushRecord
    (json : QJsonDocument) (network : NetworkAccess) (record : SyncRecord)
    (respond : HttpRequest → NetworkResponse) : Bool :=
  let request := SyncApi.putRecordRequest json network (pushedRecord record)
  (SyncApi.putRecord json (respond request)).ok

end SyncService
end Services
end VoxDesktop
