import VoxDesktop.Qt.ReferenceJson
import VoxDesktop.Qt.Utf8
import VoxDesktop.Services.SyncPull

/-!
# A pushed record that is pulled again

The ciphertext of a record is sent as text.  A server that keeps what it
receives gives back the text, and the record pulled into an empty table has
the octets of that text: they are those of the record exactly if these are
UTF-8 without a byte order mark.
-/

namespace VoxDesktop
namespace Services
namespace SyncService

open Qt Library Network Storage

/-- The last page of a change log, whose only entry is an object kept before,
and whose statement executes. -/
structure Returns
    (json : QJsonDocument) (request : HttpRequest × QUrlQuery)
    (kept : QJsonObject) (page : PageOutcome) : Prop where
  entry : ∃ object,
    (page.respond request).ok = true ∧
      json.parse (page.respond request).body = .ok object ∧
      object.value (QString.literal "records") = .array [.object kept] ∧
      object.value (QString.literal "has_more") = .bool false
  executed : (page.upserts 0).executed = true

section RoundTrip

variable {json : QJsonDocument} {request : HttpRequest × QUrlQuery}
  {kept : QJsonObject} {entry : SyncRecordDto} {page : PageOutcome}

/-- The page is read as its entry. -/
theorem Returns.accepted
    (returns : Returns json request kept page)
    (parsed : parseSyncRecordDto kept = some entry) :
    ∃ changes, (SyncApi.changes json (page.respond request)).accepted =
        some changes ∧
      changes.records = [entry] ∧ changes.hasMore = false := by
  obtain ⟨object, ok, parsedBody, records, hasMore⟩ := returns.entry
  have entries : [QJsonValue.object kept].mapM
      (fun value => parseSyncRecordDto value.toObject) = some [entry] := by
    simp [QJsonValue.toObject, parsed]
  refine ⟨⟨[entry],
    (object.value (QString.literal "next_cursor")).toString, false⟩,
    ?_, rfl, rfl⟩
  rw [SyncApi.changes, JsonCodec.parseObject, parsedBody]
  simp only [ok, if_true, records, hasMore, QJsonValue.toArray,
    QJsonValue.toBool, entries]
  rfl

/-- Pulling the page into an empty table stores its entry. -/
theorem pullCollection_of_returns
    (network : NetworkAccess) (collection : QString)
    (returns :
      Returns json
        (SyncApi.changesRequest network collection [] kSyncChangesPageSize)
        kept page)
    (parsed : parseSyncRecordDto kept = some entry)
    (pages : List PageOutcome) :
    ∃ currentMSecs,
      pullCollection json network collection (page :: pages) Table.empty =
        (some true,
          Table.empty.replace (localRecord entry currentMSecs)) := by
  obtain ⟨changes, accepted, records, hasMore⟩ :=
    returns.accepted parsed
  refine ⟨(page.upserts 0).currentMSecs, ?_⟩
  rw [pullCollection, pullPages]
  dsimp only
  rw [accepted]
  simp [records, hasMore, storeRecords, SyncRepository.upsertRecord,
    returns.executed]

/-- A table of one record lists it. -/
theorem listRecords_replace_empty (record : SyncRecord) :
    SyncRepository.listRecords (Table.empty.replace record)
      record.collection true = [record] := by
  simp [SyncRepository.listRecords, Table.replace, Table.upsert,
    Table.upsertRows, Table.empty]

end RoundTrip

/-- A record that is pushed to a server which keeps the object it receives,
and pulled into an empty table, is there with its key and content exactly if
its ciphertext is UTF-8 and has no byte order mark in front. -/
theorem pushed_record_pulled_iff
    (json : QJsonDocument) (network pullNetwork : NetworkAccess)
    (record : SyncRecord)
    (respond : HttpRequest → NetworkResponse)
    (kept : QJsonObject)
    (page : PageOutcome) (pages : List PageOutcome)
    (lower : -2147483648 ≤ record.version)
    (upper : record.version < 2147483648)
    (lossless : ∃ members,
      json.parse (json.toJson (pushedRecord record).toJson) = .ok members ∧
        members.Perm (pushedRecord record).toJson)
    (received :
      json.parse
          (SyncApi.putRecordRequest json network
            (pushedRecord record)).body = .ok kept)
    (pushed : pushRecord json network record respond = true)
    (returns :
      pushRecord json network record respond = true →
        Returns json
          (SyncApi.changesRequest pullNetwork record.collection []
            kSyncChangesPageSize)
          kept page) :
    let pull := pullCollection json pullNetwork record.collection
      (page :: pages) Table.empty
    (pull.1 = some true ∧
        ∃ pulled ∈
            SyncRepository.listRecords pull.2 record.collection true,
          pulled.key = record.key ∧ pulled.content = record.content) ↔
      IsUtf8 record.ciphertext ∧
        ¬byteOrderMark <+: record.ciphertext := by
  intro pull
  obtain ⟨members, parsed, readBack⟩ := lossless
  obtain rfl : members = kept :=
    Except.ok.inj (parsed.symm.trans received)
  obtain ⟨currentMSecs, stored⟩ :=
    pullCollection_of_returns pullNetwork record.collection (returns pushed)
      (parseSyncRecordDto_perm lower upper readBack) pages
  have listed :
      SyncRepository.listRecords pull.2 record.collection true =
        [localRecord (pushedRecord record) currentMSecs] := by
    rw [show pull = _ from stored]
    exact listRecords_replace_empty
      (localRecord (pushedRecord record) currentMSecs)
  rw [listed, show pull = _ from stored, ← toUtf8_fromUtf8_iff]
  constructor
  · rintro ⟨_, pulled, within, _, content⟩
    obtain rfl := List.mem_singleton.mp within
    exact congrArg (fun content => content.2.1) content
  · intro unchanged
    refine ⟨rfl, _, List.mem_singleton_self _, rfl, ?_⟩
    simp only [SyncRecord.content, localRecord, pushedRecord, unchanged]

/-! ## A text and an octet that is none -/

section Examples

def noteOf (ciphertext : QByteArray) : SyncRecord :=
  ⟨QString.literal "notes", QString.literal "a", 1, ciphertext, 5, false⟩

/-- Body that is sent for a note whose ciphertext is written as it is. -/
def noteBody (ciphertext : QByteArray) : QByteArray :=
  QByteArray.literal "\x7b\"ciphertext\":\"" ++ ciphertext ++
    QByteArray.literal
      ("\",\"collection\":\"notes\",\"deleted\":false," ++
        "\"record_id\":\"a\",\"version\":1\x7d")

def logBody (ciphertext : QByteArray) : QByteArray :=
  QByteArray.literal "\x7b\"has_more\":false,\"records\":[" ++
    noteBody ciphertext ++ QByteArray.literal "]\x7d"

/-- The members of a note in the order of their keys. -/
def noteMembers (ciphertext : QByteArray) : QJsonObject :=
  (pushedRecord (noteOf ciphertext)).toJson.insertionSort
    ReferenceJson.keyOrder

/-- What a parser makes of the two bodies. -/
def noteDocument (ciphertext : QByteArray) : QJsonDocument where
  toJson := fun _ => noteBody (toUtf8 (fromUtf8 ciphertext))
  parse := fun bytes =>
    if bytes = noteBody (toUtf8 (fromUtf8 ciphertext)) then
      .ok (noteMembers ciphertext)
    else if bytes = logBody (toUtf8 (fromUtf8 ciphertext)) then
      .ok [(QString.literal "has_more", .bool false),
        (QString.literal "records",
          .array [.object (noteMembers ciphertext)])]
    else .error (QString.literal "illegal value")

/-- The log is served with the note and the note stored at one time. -/
def loggedNote (ciphertext : QByteArray) : PageOutcome where
  respond := fun _ => ⟨200, logBody (toUtf8 (fromUtf8 ciphertext)), []⟩
  upserts := fun _ => ⟨10, true⟩

def voxServer : NetworkAccess := ⟨QString.literal "https://vox", []⟩

/-- What is pulled after a note has been pushed. -/
def pulledNotes (ciphertext : QByteArray) : List SyncRecord :=
  SyncRepository.listRecords
    (pullCollection (noteDocument ciphertext) voxServer
      (QString.literal "notes") [loggedNote ciphertext] Table.empty).2
    (QString.literal "notes") true

theorem noteDocument_parse (ciphertext : QByteArray) :
    (noteDocument ciphertext).parse
        (noteBody (toUtf8 (fromUtf8 ciphertext))) =
      .ok (noteMembers ciphertext) :=
  if_pos rfl

theorem noteDocument_lossless (ciphertext : QByteArray) :
    ∃ members,
      (noteDocument ciphertext).parse
          ((noteDocument ciphertext).toJson
            (pushedRecord (noteOf ciphertext)).toJson) = .ok members ∧
        members.Perm (pushedRecord (noteOf ciphertext)).toJson :=
  ⟨noteMembers ciphertext, noteDocument_parse ciphertext,
    List.perm_insertionSort ReferenceJson.keyOrder _⟩

theorem loggedNote_returns (ciphertext : QByteArray)
    (request : HttpRequest × QUrlQuery) :
    Returns (noteDocument ciphertext) request (noteMembers ciphertext)
      (loggedNote ciphertext) := by
  have differs : logBody (toUtf8 (fromUtf8 ciphertext)) ≠
      noteBody (toUtf8 (fromUtf8 ciphertext)) := by
    intro same
    have third := congrArg (fun bytes => bytes[2]?) same
    simp [logBody, noteBody, QByteArray.literal] at third
  refine ⟨⟨[(QString.literal "has_more", .bool false),
    (QString.literal "records",
      .array [.object (noteMembers ciphertext)])], rfl, ?_, rfl, rfl⟩, rfl⟩
  rw [noteDocument, loggedNote]
  dsimp only
  rw [if_neg differs, if_pos rfl]

/-- A text is pulled as it was pushed. -/
theorem pushed_record_pulled_text :
    ∃ pulled ∈ pulledNotes [0x68, 0x69],
      pulled.key = (noteOf [0x68, 0x69]).key ∧
        pulled.content = (noteOf [0x68, 0x69]).content :=
  ((pushed_record_pulled_iff (noteDocument [0x68, 0x69]) voxServer voxServer
    (noteOf [0x68, 0x69]) (fun _ => ⟨200, [], []⟩)
    (noteMembers [0x68, 0x69]) (loggedNote [0x68, 0x69]) [] (by decide)
    (by decide) (noteDocument_lossless _) (noteDocument_parse _) rfl
    (fun _ => loggedNote_returns _ _)).mpr
    ⟨⟨[0x68, 0x69], by simp [IsScalar], rfl⟩, by decide⟩).2

/-- A push with the octet 255 as ciphertext succeeds, the server returns the
object it has received, and the record is pulled with another ciphertext. -/
theorem pushed_record_pulled_changed :
    (∃ members,
      (noteDocument [0xFF]).parse
          ((noteDocument [0xFF]).toJson
            (pushedRecord (noteOf [0xFF])).toJson) = .ok members ∧
        members.Perm (pushedRecord (noteOf [0xFF])).toJson) ∧
      (noteDocument [0xFF]).parse
          (SyncApi.putRecordRequest (noteDocument [0xFF]) voxServer
            (pushedRecord (noteOf [0xFF]))).body =
        .ok (noteMembers [0xFF]) ∧
      pushRecord (noteDocument [0xFF]) voxServer (noteOf [0xFF])
          (fun _ => ⟨200, [], []⟩) = true ∧
      (∀ request,
        Returns (noteDocument [0xFF]) request (noteMembers [0xFF])
          (loggedNote [0xFF])) ∧
      (pulledNotes [0xFF]).map SyncRecord.content =
        [(1, [0xEF, 0xBF, 0xBD], false)] ∧
      ¬∃ pulled ∈ pulledNotes [0xFF],
        pulled.key = (noteOf [0xFF]).key ∧
          pulled.content = (noteOf [0xFF]).content := by
  have contents : (pulledNotes [0xFF]).map SyncRecord.content =
      [(1, [0xEF, 0xBF, 0xBD], false)] := by
    decide +kernel
  refine ⟨noteDocument_lossless _, noteDocument_parse _, rfl,
    loggedNote_returns _, contents, ?_⟩
  rintro ⟨pulled, within, _, content⟩
  have listed : pulled.content ∈ (pulledNotes [0xFF]).map SyncRecord.content :=
    List.mem_map.mpr ⟨pulled, within, rfl⟩
  rw [contents, List.mem_singleton, content] at listed
  exact absurd listed (by decide)

end Examples

end SyncService
end Services
end VoxDesktop
