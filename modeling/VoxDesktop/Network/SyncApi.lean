import VoxDesktop.Network.ConversationsApi
import VoxDesktop.Qt.ByteArray

/-!
# The change log interface

`network/SyncApi` as far as a collection is pulled and a record is pushed: the
request for one page of a change log and the request that puts a record, each
with the result of the response to it.  The key bundle is read here as well.
-/

namespace VoxDesktop
namespace Network

open Qt

namespace ApiPaths

def kSyncChanges : QString := QString.literal "/v1/sync/changes"
def kSyncRecordsPrefix : QString := QString.literal "/v1/sync/records/"

end ApiPaths

structure SyncRecordDto where
  collection : QString
  recordId : QString
  version : ℤ
  ciphertext : QString
  deleted : Bool
deriving DecidableEq

def SyncRecordDto.toJson (record : SyncRecordDto) : QJsonObject :=
  .ofMembers
    [stringMember "collection" record.collection,
      stringMember "record_id" record.recordId,
      (QString.literal "version", .double record.version),
      stringMember "ciphertext" record.ciphertext,
      (QString.literal "deleted", .bool record.deleted)]

def parseSyncRecordDto (object : QJsonObject) : Option SyncRecordDto := do
  let collection ← getString object "collection"
  let recordId ← getString object "record_id"
  let ciphertext ← getString object "ciphertext"
  return {
    collection := collection
    recordId := recordId
    version := (object.value (QString.literal "version")).toInt 0
    ciphertext := ciphertext
    deleted := (object.value (QString.literal "deleted")).toBool false }

/-- The names of the members are distinct. -/
theorem recordNames_nodup :
    [QString.literal "collection", QString.literal "record_id",
      QString.literal "version", QString.literal "ciphertext",
      QString.literal "deleted"].Nodup := by
  decide

/-- The members of a record, one for each field. -/
theorem SyncRecordDto.toJson_eq (record : SyncRecordDto) :
    record.toJson =
      [stringMember "collection" record.collection,
        stringMember "record_id" record.recordId,
        (QString.literal "version", .double record.version),
        stringMember "ciphertext" record.ciphertext,
        (QString.literal "deleted", .bool record.deleted)] :=
  QJsonObject.ofMembers_of_nodup recordNames_nodup

/-- A record parses in any order of members, when its version is an `int`. -/
theorem parseSyncRecordDto_perm
    {object : QJsonObject} {record : SyncRecordDto}
    (lower : -2147483648 ≤ record.version)
    (upper : record.version < 2147483648)
    (readBack : object.Perm record.toJson) :
    parseSyncRecordDto object = some record := by
  rw [record.toJson_eq] at readBack
  have distinct : object.keys.Nodup :=
    (readBack.map Prod.fst).nodup_iff.mpr recordNames_nodup
  have collection :
      getString object "collection" = some record.collection :=
    getString_of_mem distinct (readBack.mem_iff.mpr (by simp))
  have recordId : getString object "record_id" = some record.recordId :=
    getString_of_mem distinct (readBack.mem_iff.mpr (by simp))
  have ciphertext :
      getString object "ciphertext" = some record.ciphertext :=
    getString_of_mem distinct (readBack.mem_iff.mpr (by simp))
  have version : object.value (QString.literal "version") =
      .double record.version :=
    QJsonObject.value_of_mem distinct (readBack.mem_iff.mpr (by simp))
  have deleted : object.value (QString.literal "deleted") =
      .bool record.deleted :=
    QJsonObject.value_of_mem distinct (readBack.mem_iff.mpr (by simp))
  rw [parseSyncRecordDto, collection, recordId, ciphertext, version, deleted]
  simp [QJsonValue.toInt_double 0 lower upper, QJsonValue.toBool]

structure SyncChangesResponse where
  records : List SyncRecordDto
  nextCursor : QString
  hasMore : Bool
deriving DecidableEq

structure SyncKeyBundleDto where
  version : ℤ
  wrappedSyncKey : QString
  syncWrapSalt : QString
  syncWrapParams : QJsonObject

def parseSyncKeyBundleDto (object : QJsonObject) : Option SyncKeyBundleDto := do
  let wrappedSyncKey ← getString object "wrapped_sync_key"
  let syncWrapSalt ← getString object "sync_wrap_salt"
  return {
    version := (object.value (QString.literal "version")).toInt 0
    wrappedSyncKey := wrappedSyncKey
    syncWrapSalt := syncWrapSalt
    syncWrapParams :=
      (object.value (QString.literal "sync_wrap_params")).toObject }

namespace SyncApi

/-- The result of `getKeyBundle`. -/
def getKeyBundle (json : QJsonDocument) (response : NetworkResponse) :
    ApiResult SyncKeyBundleDto :=
  ConversationsApi.parseResult json parseSyncKeyBundleDto
    "Invalid sync key bundle payload" response

def changesQuery (collection cursor : QString) (limit : ℤ) : QUrlQuery :=
  [(QString.literal "collection", collection),
    (QString.literal "limit", QString.number limit)] ++
    if cursor = [] then [] else [(QString.literal "cursor", cursor)]

/-- A server reads the items of the query as they are meant, if it reads the
collection and the cursor so. -/
theorem received_changesQuery
    {collection cursor : QString} {limit : ℤ}
    (readsCollection : readInUrl collection collection = toUtf8 collection)
    (readsCursor : readInUrl cursor cursor = toUtf8 cursor)
    (readsLimit :
      readInUrl (QString.number limit) (QString.number limit) =
        toUtf8 (QString.number limit)) :
    QUrlQuery.received (changesQuery collection cursor limit) =
      QUrlQuery.meant (changesQuery collection cursor limit) := by
  have readsNames : ∀ name ∈ ["collection", "limit", "cursor"],
      readInUrl (QString.literal name) (QString.literal name) =
        toUtf8 (QString.literal name) := by
    decide
  simp only [List.forall_mem_cons] at readsNames
  rw [changesQuery]
  split <;>
    simp [QUrlQuery.received, QUrlQuery.meant, readsNames, readsCollection,
      readsCursor, readsLimit]

/-- The request of `changes`. -/
def changesRequest
    (network : NetworkAccess) (collection cursor : QString) (limit : ℤ) :
    HttpRequest × QUrlQuery :=
  network.get ApiPaths.kSyncChanges (changesQuery collection cursor limit)

/-- The result of `changes`. -/
def changes (json : QJsonDocument) (response : NetworkResponse) :
    ApiResult SyncChangesResponse :=
  match JsonCodec.parseObject json response.body with
  | .error parseError => ⟨false, response.statusCode, parseError, none⟩
  | .ok object =>
      if response.ok then
        let entries := (object.value (QString.literal "records")).toArray
        match entries.mapM fun entry => parseSyncRecordDto entry.toObject with
        | none =>
            ⟨false, response.statusCode,
              QString.literal "Invalid sync record entry", none⟩
        | some records =>
            { ok := true
              statusCode := response.statusCode
              error := []
              data := some {
                records := records
                nextCursor :=
                  (object.value (QString.literal "next_cursor")).toString
                hasMore :=
                  (object.value (QString.literal "has_more")).toBool false } }
      else
        { ok := false
          statusCode := response.statusCode
          error :=
            match parseApiError object with
            | some apiError => apiError.message
            | none => response.errorMessage
          data := none }

/-- The request of `putRecord`. -/
def putRecordRequest
    (json : QJsonDocument) (network : NetworkAccess)
    (record : SyncRecordDto) : HttpRequest :=
  let path :=
    ApiPaths.kSyncRecordsPrefix ++ record.collection ++
      QString.literal "/" ++ record.recordId
  network.putJson path (JsonCodec.toBytes json record.toJson)

/-- The result of `putRecord`. -/
def putRecord (json : QJsonDocument) (response : NetworkResponse) :
    VoidResult :=
  { ok := response.ok
    statusCode := response.statusCode
    error :=
      if response.ok then []
      else
        match JsonCodec.parseObject json response.body with
        | .error parseError => parseError
        | .ok object =>
            match parseApiError object with
            | some apiError => apiError.message
            | none => [] }

def deleteRecordRequest
    (network : NetworkAccess) (collection recordId : QString) :
    HttpRequest :=
  network.deleteRequest
    (ApiPaths.kSyncRecordsPrefix ++ collection ++ QString.literal "/" ++
      recordId)

end SyncApi
end Network
end VoxDesktop
