import VoxDesktop.Library.Machine
import VoxDesktop.Services.SyncService

/-!
# What pulling a collection leaves behind

A call of `pullCollection` stores entries one after the other, each in place
of the record with its key, and compares no versions.  Against a server that
pages a fixed log, every call stores a prefix of the log and a call that
returns true stores all of it, so the last entry of every id wins whatever
earlier calls have left.  This needs cursors that arrive as they are meant: a
cursor with an escape is asked for as another one, and its page is skipped.
Against any server, the stored version is the one that arrived last.
-/

namespace VoxDesktop
namespace Services
namespace SyncService

open Qt Library Network Storage

/-! ## The records a call stores -/

/-- The records stored from a page. -/
def recordsOfPage :
    List SyncRecordDto → (ℕ → UpsertOutcome) → List SyncRecord
  | [], _ => []
  | record :: records, upserts =>
      if (upserts 0).executed then
        localRecord record (upserts 0).currentMSecs ::
          recordsOfPage records fun index => upserts (index + 1)
      else []

/-- The records stored by a call, in order. -/
def recordsOfPull
    (json : QJsonDocument) (network : NetworkAccess) (collection : QString) :
    (cursor : QString) → List PageOutcome → List SyncRecord
  | _, [] => []
  | cursor, page :: pages =>
      let request :=
        SyncApi.changesRequest network collection cursor kSyncChangesPageSize
      match (SyncApi.changes json (page.respond request)).accepted with
      | none => []
      | some changes =>
          recordsOfPage changes.records page.upserts ++
            if (recordsOfPage changes.records page.upserts).length =
                changes.records.length ∧ changes.hasMore = true then
              recordsOfPull json network collection changes.nextCursor pages
            else []

theorem length_recordsOfPage_le
    (records : List SyncRecordDto) (upserts : ℕ → UpsertOutcome) :
    (recordsOfPage records upserts).length ≤ records.length := by
  induction records generalizing upserts with
  | nil => exact le_rfl
  | cons record records inductionHypothesis =>
      rw [recordsOfPage]
      split
      · have rest :=
          inductionHypothesis fun index => upserts (index + 1)
        simpa using rest
      · simp

theorem length_recordsOfPage
    {upserts : ℕ → UpsertOutcome}
    (executes : ∀ index, (upserts index).executed = true)
    (records : List SyncRecordDto) :
    (recordsOfPage records upserts).length = records.length := by
  induction records generalizing upserts with
  | nil => rfl
  | cons record records inductionHypothesis =>
      rw [recordsOfPage, if_pos (executes 0), List.length_cons,
        inductionHypothesis fun index => executes (index + 1),
        List.length_cons]

/-- Storing a page succeeds when all its records are stored. -/
theorem storeRecords_eq
    (table : SyncTable) (records : List SyncRecordDto)
    (upserts : ℕ → UpsertOutcome) :
    storeRecords table records upserts =
      (decide ((recordsOfPage records upserts).length = records.length),
        table.replaceAll (recordsOfPage records upserts)) := by
  induction records generalizing table upserts with
  | nil => rfl
  | cons record records inductionHypothesis =>
      rw [storeRecords, recordsOfPage, SyncRepository.upsertRecord]
      cases executed : (upserts 0).executed with
      | false => simp [Table.replaceAll]
      | true => simp [inductionHypothesis, Table.replaceAll]

/-- A call replaces the records it stores. -/
theorem pullPages_table
    (json : QJsonDocument) (network : NetworkAccess)
    (collection cursor : QString) (pages : List PageOutcome)
    (table : SyncTable) :
    (pullPages json network collection cursor pages table).2 =
      table.replaceAll
        (recordsOfPull json network collection cursor pages) := by
  induction pages generalizing cursor table with
  | nil => rfl
  | cons page pages inductionHypothesis =>
      rw [pullPages, recordsOfPull]
      dsimp only
      cases (SyncApi.changes json (page.respond
          (SyncApi.changesRequest network collection cursor
            kSyncChangesPageSize))).accepted with
      | none => rfl
      | some changes =>
          dsimp only
          rw [storeRecords_eq]
          by_cases all :
              (recordsOfPage changes.records page.upserts).length =
                changes.records.length
          · cases more : changes.hasMore with
            | false => simp [all]
            | true => simp [all, inductionHypothesis, Table.replaceAll_append]
          · simp [all]

/-! ## A server that pages a log -/

section Log

variable (json : QJsonDocument) (collection : QString)
  (serve : QUrlQuery → NetworkResponse)

/-- The page a server has at a cursor. -/
def pageAt (cursor : QString) : Option SyncChangesResponse :=
  (SyncApi.changes json
    (serve
      (SyncApi.changesQuery collection cursor
        kSyncChangesPageSize))).accepted

/-- The server pages a log from a cursor on, with further cursors between its
pages; `hasMore` is false on the last page only. -/
inductive PagesFrom : QString → List QString → List SyncRecordDto → Prop
  | last {cursor : QString} {page : SyncChangesResponse} :
      pageAt json collection serve cursor = some page →
        page.hasMore = false → PagesFrom cursor [] page.records
  | more {cursor : QString} {page : SyncChangesResponse}
      {cursors : List QString} {log : List SyncRecordDto} :
      pageAt json collection serve cursor = some page →
        page.hasMore = true → PagesFrom page.nextCursor cursors log →
          PagesFrom cursor (page.nextCursor :: cursors) (page.records ++ log)

/-- A request is answered by the server or not at all. -/
def Answers (page : PageOutcome) : Prop :=
  ∀ request,
    page.respond request = serve request.2 ∨
      (SyncApi.changes json (page.respond request)).accepted = none

variable {json collection serve}

/-- A server that pages a log pages it for the queries that arrive as well, if
it reads the collection and the cursors as they are meant. -/
theorem PagesFrom.received
    {server : List (QByteArray × QByteArray) → NetworkResponse}
    {cursor : QString} {cursors : List QString} {log : List SyncRecordDto}
    (pagesLog :
      PagesFrom json collection (server ∘ QUrlQuery.meant) cursor cursors log)
    (readsCollection : readInUrl collection collection = toUtf8 collection)
    (readsCursors :
      ∀ text ∈ cursor :: cursors, readInUrl text text = toUtf8 text) :
    PagesFrom json collection (server ∘ QUrlQuery.received) cursor cursors
      log := by
  have samePage {cursor : QString}
      (readsCursor : readInUrl cursor cursor = toUtf8 cursor) :
      pageAt json collection (server ∘ QUrlQuery.received) cursor =
        pageAt json collection (server ∘ QUrlQuery.meant) cursor := by
    rw [pageAt, pageAt, Function.comp_apply, Function.comp_apply,
      SyncApi.received_changesQuery readsCollection readsCursor (by decide)]
  induction pagesLog with
  | last found noMore =>
      exact .last ((samePage (readsCursors _ List.mem_cons_self)).trans found)
        noMore
  | more found isMore _ inductionHypothesis =>
      exact .more ((samePage (readsCursors _ List.mem_cons_self)).trans found)
        isMore
        (inductionHypothesis fun text within =>
          readsCursors text (List.mem_cons_of_mem _ within))

/-- A record stored for an entry, at some time. -/
def StoredFor (entry : SyncRecordDto) (record : SyncRecord) : Prop :=
  ∃ currentMSecs, record = localRecord entry currentMSecs

/-- The records stored from a page are those of its first entries. -/
theorem recordsOfPage_prefix
    (entries : List SyncRecordDto) (upserts : ℕ → UpsertOutcome) :
    List.Forall₂ StoredFor
      (entries.take (recordsOfPage entries upserts).length)
      (recordsOfPage entries upserts) := by
  induction entries generalizing upserts with
  | nil => exact .nil
  | cons entry entries inductionHypothesis =>
      rw [recordsOfPage]
      split
      · rw [List.length_cons, List.take_succ_cons]
        exact .cons ⟨_, rfl⟩ (inductionHypothesis _)
      · exact .nil

/-- A page that is accepted: its records come first, and the call goes on when
all of them are stored and there is more. -/
theorem pullPages_cons
    {network : NetworkAccess} {cursor : QString} {page : PageOutcome}
    {changes : SyncChangesResponse}
    (accepted :
      (SyncApi.changes json (page.respond
        (SyncApi.changesRequest network collection cursor
          kSyncChangesPageSize))).accepted = some changes)
    (pages : List PageOutcome) (table : SyncTable) :
    let stored := recordsOfPage changes.records page.upserts
    let goesOn :=
      stored.length = changes.records.length ∧ changes.hasMore = true
    recordsOfPull json network collection cursor (page :: pages) =
        stored ++
          (if goesOn then
            recordsOfPull json network collection changes.nextCursor pages
          else []) ∧
      (pullPages json network collection cursor (page :: pages) table).1 =
        if goesOn then
          (pullPages json network collection changes.nextCursor pages
            (table.replaceAll stored)).1
        else some (decide (stored.length = changes.records.length)) := by
  intro stored goesOn
  rw [recordsOfPull, pullPages]
  dsimp only
  rw [accepted]
  refine ⟨rfl, ?_⟩
  dsimp only
  rw [storeRecords_eq]
  by_cases all : stored.length = changes.records.length
  · by_cases more : changes.hasMore = true
    · simp [goesOn, stored, all, more]
    · simp [goesOn, stored, all, more]
  · simp [goesOn, stored, all]

/-- A page that is refused ends a call. -/
theorem pullPages_refused
    {network : NetworkAccess} {cursor : QString} {page : PageOutcome}
    (refused :
      (SyncApi.changes json (page.respond
        (SyncApi.changesRequest network collection cursor
          kSyncChangesPageSize))).accepted = none)
    (pages : List PageOutcome) (table : SyncTable) :
    recordsOfPull json network collection cursor (page :: pages) = [] ∧
      (pullPages json network collection cursor (page :: pages) table).1 =
        some false := by
  rw [recordsOfPull, pullPages]
  dsimp only
  rw [refused]
  exact ⟨rfl, rfl⟩

/-- Records are stored for the first entries of a log, and for all of them
after a call that returns true. -/
structure StoresPrefix
    (log : List SyncRecordDto) (records : List SyncRecord)
    (returned : Option Bool) : Prop where
  related : List.Forall₂ StoredFor (log.take records.length) records
  complete : returned = some true → records.length = log.length

theorem StoresPrefix.nil
    {returned : Option Bool} (notTrue : returned ≠ some true)
    (log : List SyncRecordDto) :
    StoresPrefix log [] returned :=
  ⟨.nil, fun isTrue => absurd isTrue notTrue⟩

/-- A page that is the last one, or not stored as a whole. -/
theorem StoresPrefix.of_page
    {entries rest : List SyncRecordDto} {upserts : ℕ → UpsertOutcome}
    (ends :
      (recordsOfPage entries upserts).length = entries.length → rest = []) :
    StoresPrefix (entries ++ rest) (recordsOfPage entries upserts)
      (some (decide
        ((recordsOfPage entries upserts).length = entries.length))) where
  related := by
    rw [List.take_append_of_le_length (length_recordsOfPage_le _ _)]
    exact recordsOfPage_prefix entries upserts
  complete returned := by
    have whole :
        (recordsOfPage entries upserts).length = entries.length := by
      simpa using returned
    rw [ends whole, List.append_nil, whole]

/-- A page that is stored as a whole, and what is stored after it. -/
theorem StoresPrefix.append
    {entries rest : List SyncRecordDto} {upserts : ℕ → UpsertOutcome}
    {records : List SyncRecord} {returned : Option Bool}
    (whole : (recordsOfPage entries upserts).length = entries.length)
    (further : StoresPrefix rest records returned) :
    StoresPrefix (entries ++ rest)
      (recordsOfPage entries upserts ++ records) returned where
  related := by
    have ofPage := recordsOfPage_prefix entries upserts
    rw [whole, List.take_length] at ofPage
    rw [List.length_append, whole, List.take_length_add_append]
    exact List.rel_append ofPage further.related
  complete isTrue := by
    rw [List.length_append, List.length_append, whole,
      further.complete isTrue]

/-- A call stores a prefix of the log, and all of it if it returns true. -/
theorem recordsOfPull_prefix
    (network : NetworkAccess)
    {cursor : QString} {cursors : List QString} {log : List SyncRecordDto}
    (pagesFrom : PagesFrom json collection serve cursor cursors log)
    {pages : List PageOutcome}
    (answered : ∀ page ∈ pages, Answers json serve page)
    (table : SyncTable) :
    StoresPrefix log (recordsOfPull json network collection cursor pages)
      (pullPages json network collection cursor pages table).1 := by
  induction pages generalizing cursor cursors log table with
  | nil => exact .nil (Option.some_ne_none _).symm log
  | cons page pages inductionHypothesis =>
      let request :=
        SyncApi.changesRequest network collection cursor kSyncChangesPageSize
      rcases answered page List.mem_cons_self request with answer | refused
      · have accepted : ∀ changes,
            pageAt json collection serve cursor = some changes →
              (SyncApi.changes json (page.respond request)).accepted =
                some changes := by
          intro changes found
          rw [answer]
          exact found
        cases pagesFrom with
        | @last _ changes found noMore =>
            obtain ⟨stepped, returned⟩ :=
              pullPages_cons (accepted changes found) pages table
            have ends :
                ¬((recordsOfPage changes.records page.upserts).length =
                    changes.records.length ∧ changes.hasMore = true) := by
              simp [noMore]
            have ofPage :
                StoresPrefix (changes.records ++ [])
                  (recordsOfPage changes.records page.upserts) _ :=
              .of_page fun _ => rfl
            rw [stepped, returned, if_neg ends, if_neg ends, List.append_nil]
            rwa [List.append_nil] at ofPage
        | @more _ changes _ rest found isMore pagesRest =>
            obtain ⟨stepped, returned⟩ :=
              pullPages_cons (accepted changes found) pages table
            rw [stepped, returned]
            by_cases whole :
                (recordsOfPage changes.records page.upserts).length =
                  changes.records.length
            · rw [if_pos ⟨whole, isMore⟩, if_pos ⟨whole, isMore⟩]
              exact .append whole (inductionHypothesis pagesRest
                (fun later within =>
                  answered later (List.mem_cons_of_mem _ within)) _)
            · rw [if_neg fun goesOn => whole goesOn.1,
                if_neg fun goesOn => whole goesOn.1, List.append_nil]
              exact .of_page fun all => absurd all whole
      · obtain ⟨stepped, returned⟩ := pullPages_refused refused pages table
        rw [stepped, returned]
        exact .nil (by decide) log

/-! ## The last entry wins -/

/-- The last entry of the log for a record id. -/
def lastEntry (log : List SyncRecordDto) (recordId : QString) :
    Option SyncRecordDto :=
  (log.filter fun entry => entry.recordId = recordId).getLast?

/-- What is stored for an entry, up to the time. -/
def entryContent (entry : SyncRecordDto) : ℤ × QByteArray × Bool :=
  (entry.version, toUtf8 entry.ciphertext, entry.deleted)

/-- The stored records of an id are those of its entries. -/
theorem content_filter_of_storedFor
    {log : List SyncRecordDto} {records : List SyncRecord}
    (related : List.Forall₂ StoredFor log records)
    (ofCollection : ∀ entry ∈ log, entry.collection = collection)
    (recordId : QString) :
    (records.filter fun record =>
        record.key = (collection, recordId)).map SyncRecord.content =
      (log.filter fun entry => entry.recordId = recordId).map
        entryContent := by
  induction related with
  | nil => rfl
  | cons stored related inductionHypothesis =>
      rename_i entry record log records
      obtain ⟨currentMSecs, rfl⟩ := stored
      have rest := inductionHypothesis fun later within =>
        ofCollection later (List.mem_cons_of_mem _ within)
      have sameKey :
          (localRecord entry currentMSecs).key = (collection, recordId) ↔
            entry.recordId = recordId := by
        simp [SyncRecord.key, localRecord, ofCollection entry]
      by_cases same : entry.recordId = recordId
      · rw [List.filter_cons_of_pos (by simpa using sameKey.mpr same),
          List.filter_cons_of_pos (by simpa using same), List.map_cons,
          List.map_cons, rest]
        rfl
      · rw [List.filter_cons_of_neg (by simpa using mt sameKey.mp same),
          List.filter_cons_of_neg (by simpa using same), rest]

/-- A table that differs from another one at most in records of the log. -/
structure DiffersInLog
    (collection : QString) (log : List SyncRecordDto)
    (table after : SyncTable) : Prop where
  sameIds : ∀ recordId, lastEntry log recordId = none →
    after.lookup (collection, recordId) = table.lookup (collection, recordId)
  sameCollections : ∀ other, other ≠ collection →
    (after.rows.filter fun record => record.collection = other) =
      table.rows.filter fun record => record.collection = other

/-- Storing records for entries of the log changes nothing else. -/
theorem differsInLog_replaceAll
    {log entries : List SyncRecordDto} {records : List SyncRecord}
    (related : List.Forall₂ StoredFor entries records)
    (ofLog : entries ⊆ log)
    (ofCollection : ∀ entry ∈ log, entry.collection = collection)
    {table before : SyncTable}
    (differs : DiffersInLog collection log table before) :
    DiffersInLog collection log table (before.replaceAll records) := by
  induction related generalizing before with
  | nil => exact differs
  | cons stored related inductionHypothesis =>
      rename_i entry record entries records
      obtain ⟨currentMSecs, rfl⟩ := stored
      have within : entry ∈ log := ofLog List.mem_cons_self
      apply inductionHypothesis fun later member =>
        ofLog (List.mem_cons_of_mem _ member)
      refine ⟨fun recordId absent => ?_, fun other differsFrom => ?_⟩
      · have notHere : (collection, recordId) ≠
            (localRecord entry currentMSecs).key := by
          intro same
          rw [lastEntry, List.getLast?_eq_none_iff,
            List.filter_eq_nil_iff] at absent
          exact absent entry within
            (decide_eq_true (congrArg Prod.snd same).symm)
        rw [Table.lookup_replace, if_neg notHere,
          differs.sameIds recordId absent]
      · have elsewhere :
            (localRecord entry currentMSecs).collection ≠ other := by
          rw [show (localRecord entry currentMSecs).collection = collection
            from ofCollection entry within]
          exact Ne.symm differsFrom
        rw [SyncRepository.filter_replace before _ elsewhere,
          differs.sameCollections other differsFrom]

end Log

/-- One call of `pullCollection` and what happens around it. -/
structure Pull where
  collection : QString
  network : NetworkAccess
  pages : List PageOutcome

def pullStep (json : QJsonDocument) (table : SyncTable) (pull : Pull) :
    Option Bool × SyncTable :=
  pullCollection json pull.network pull.collection pull.pages table

/-- A call for a collection whose requests are answered by the server or not
at all. -/
def Pull.From
    (json : QJsonDocument) (collection : QString)
    (serve : QUrlQuery → NetworkResponse) (pull : Pull) : Prop :=
  pull.collection = collection ∧
    ∀ page ∈ pull.pages, Answers json serve page

/-- One call stores a prefix of the log, and all of it if it returns true. -/
theorem pullStep_spec
    {json : QJsonDocument} {collection : QString}
    {serve : QUrlQuery → NetworkResponse}
    {cursors : List QString} {log : List SyncRecordDto}
    (pagesLog : PagesFrom json collection serve [] cursors log)
    {pull : Pull}
    (answered : pull.From json collection serve)
    (table : SyncTable) :
    ∃ entries records,
      entries ⊆ log ∧
        List.Forall₂ StoredFor entries records ∧
        (pullStep json table pull).2 = table.replaceAll records ∧
        ((pullStep json table pull).1 = some true → entries = log) := by
  obtain ⟨rfl, answers⟩ := answered
  obtain ⟨related, complete⟩ :=
    recordsOfPull_prefix pull.network pagesLog answers table
  refine ⟨_, _, List.take_subset _ log, related,
    pullPages_table json pull.network pull.collection [] pull.pages table,
    fun returned => ?_⟩
  rw [complete returned, List.take_length]

/-- After any number of calls against a server that pages a log, however far
they have come, and one call that returns true, the collection lists for every
id of the log its last entry and for every other id what it had, and other
collections are as they were, if the collection and the cursors have no escape
that the server would decode. -/
theorem pullCollection_applies_log
    (json : QJsonDocument)
    (collection : QString)
    (server : List (QByteArray × QByteArray) → NetworkResponse)
    (cursors : List QString)
    (log : List SyncRecordDto)
    (table : SyncTable)
    (attempts : List Pull)
    (last : Pull)
    (pagesLog :
      PagesFrom json collection (server ∘ QUrlQuery.meant) [] cursors log)
    (noEscape : ∀ text ∈ collection :: cursors,
      hasLonePercent text = true ∨ hasEscape (toUtf8 text) = false)
    (ofCollection : ∀ entry ∈ log, entry.collection = collection)
    (answered : ∀ pull ∈ attempts,
      pull.From json collection (server ∘ QUrlQuery.received))
    (answeredLast : last.From json collection (server ∘ QUrlQuery.received))
    (returned :
      (pullStep json (Machine.run (pullStep json) table attempts) last).1 =
        some true) :
    let after :=
      (pullStep json (Machine.run (pullStep json) table attempts) last).2
    let listed (table : SyncTable) (recordId : QString) :=
      (SyncRepository.listRecords table collection true).filter
        fun record => record.recordId = recordId
    (∀ recordId entry, lastEntry log recordId = some entry →
      (listed after recordId).map SyncRecord.content =
        [entryContent entry]) ∧
    (∀ recordId, lastEntry log recordId = none →
      listed after recordId = listed table recordId) ∧
    ∀ other, other ≠ collection → ∀ executed,
      SyncRepository.listRecords after other executed =
        SyncRepository.listRecords table other executed := by
  intro after listed
  have readsBack : ∀ text ∈ collection :: cursors,
      readInUrl text text = toUtf8 text :=
    fun text within => (readInUrl_eq_iff text text).mpr (noEscape text within)
  have pagesReceived :
      PagesFrom json collection (server ∘ QUrlQuery.received) [] cursors
        log :=
    pagesLog.received (readsBack collection List.mem_cons_self) <| by
      rintro text (_ | ⟨_, within⟩)
      · rfl
      · exact readsBack text (List.mem_cons_of_mem _ within)
  let before := Machine.run (pullStep json) table attempts
  have differsBefore : DiffersInLog collection log table before := by
    refine Machine.run_invariant_of_eachStep
      (DiffersInLog collection log table)
      (fun _ pull =>
        pull.From json collection (server ∘ QUrlQuery.received)) ?_
      ⟨fun _ _ => rfl, fun _ _ => rfl⟩
      (Machine.eachStep_of_forall _ (fun pull within _ =>
        answered pull within) table)
    intro state pull differs answeredHere
    obtain ⟨entries, records, ofLog, related, stored, _⟩ :=
      pullStep_spec pagesReceived answeredHere state
    rw [stored]
    exact differsInLog_replaceAll related ofLog ofCollection differs
  obtain ⟨entries, records, ofLog, related, stored, complete⟩ :=
    pullStep_spec pagesReceived answeredLast before
  obtain rfl : entries = log := complete returned
  have differs : DiffersInLog collection entries table after := by
    rw [show after = before.replaceAll records from stored]
    exact differsInLog_replaceAll related ofLog ofCollection differsBefore
  refine ⟨fun recordId entry found => ?_, fun recordId absent => ?_,
    fun other differsFrom executed =>
      SyncRepository.listRecords_congr
        (differs.sameCollections other differsFrom) executed⟩
  · -- The last call has stored the whole log.
    have contents := congrArg List.getLast?
      (content_filter_of_storedFor related ofCollection recordId)
    rw [List.getLast?_map, List.getLast?_map, ← lastEntry, found,
      Option.map_some] at contents
    obtain ⟨record, lastRecord, content⟩ := Option.map_eq_some_iff.mp contents
    have lookedUp : after.lookup (collection, recordId) = some record := by
      rw [show after = before.replaceAll records from stored,
        Table.lookup_replaceAll, Table.lastOf, lastRecord, Option.some_or]
    rw [show listed after recordId = _ from
      SyncRepository.filter_listRecords after collection recordId, lookedUp,
      Option.toList_some, List.map_singleton, content]
  · rw [show listed after recordId = _ from
      SyncRepository.filter_listRecords after collection recordId,
      show listed table recordId = _ from
        SyncRepository.filter_listRecords table collection recordId,
      differs.sameIds recordId absent]

/-! ## Logs of a few pages -/

section Examples

/-- The body of a page that ends at another cursor: version 1 of a record. -/
def moreBody (nextCursor recordId ciphertext : String) : QByteArray :=
  QByteArray.literal "\x7b\"has_more\":true,\"next_cursor\":\"" ++
    QByteArray.literal nextCursor ++
    QByteArray.literal "\",\"records\":[\x7b\"ciphertext\":\"" ++
    QByteArray.literal ciphertext ++
    QByteArray.literal "\",\"collection\":\"notes\",\"record_id\":\"" ++
    QByteArray.literal recordId ++
    QByteArray.literal "\",\"version\":1\x7d]\x7d"

/-- The body of a last page: record `a` is deleted in version 2. -/
def lastBody : QByteArray :=
  QByteArray.literal "\x7b\"records\":[\x7b\"ciphertext\":\"gone\"," ++
    QByteArray.literal "\"collection\":\"notes\",\"deleted\":true," ++
    QByteArray.literal "\"record_id\":\"a\",\"version\":2\x7d]\x7d"

def recordMembers (recordId ciphertext : String) (version : ℚ) :
    List (QString × QJsonValue) :=
  [stringMember "ciphertext" (QString.literal ciphertext),
    stringMember "collection" (QString.literal "notes"),
    stringMember "record_id" (QString.literal recordId),
    (QString.literal "version", .double version)]

def moreMembers (nextCursor recordId ciphertext : String) : QJsonObject :=
  [(QString.literal "has_more", .bool true),
    stringMember "next_cursor" (QString.literal nextCursor),
    (QString.literal "records",
      .array [.object (recordMembers recordId ciphertext 1)])]

/-- What a parser makes of the bodies. -/
def pageDocument : QJsonDocument where
  toJson := fun _ => []
  parse := fun bytes =>
    if bytes = moreBody "p2" "a" "one" then
      .ok (moreMembers "p2" "a" "one")
    else if bytes = moreBody "%2B" "a" "one" then
      .ok (moreMembers "%2B" "a" "one")
    else if bytes = moreBody "+" "b" "two" then
      .ok (moreMembers "+" "b" "two")
    else if bytes = lastBody then
      .ok [(QString.literal "records",
        .array [.object
          ((QString.literal "deleted", .bool true) ::
            recordMembers "a" "gone" 2)])]
    else .error (QString.literal "illegal value")

/-- The server reads a cursor. -/
def asksFor (cursor : String) (query : List (QByteArray × QByteArray)) :
    Bool :=
  query.contains (QByteArray.literal "cursor", QByteArray.literal cursor)

/-- A server with two pages. -/
def servePages (query : List (QByteArray × QByteArray)) : NetworkResponse :=
  if asksFor "p2" query then ⟨200, lastBody, []⟩
  else ⟨200, moreBody "p2" "a" "one", []⟩

/-- A server with three pages.  The cursor of the second is an escape, which
decoded is the cursor of the third. -/
def serveEscaped (query : List (QByteArray × QByteArray)) : NetworkResponse :=
  if asksFor "%2B" query then ⟨200, moreBody "+" "b" "two", []⟩
  else if asksFor "+" query then ⟨200, lastBody, []⟩
  else ⟨200, moreBody "%2B" "a" "one", []⟩

def entryOf (recordId ciphertext : String) (version : ℤ) (deleted : Bool) :
    SyncRecordDto :=
  ⟨QString.literal "notes", QString.literal recordId, version,
    QString.literal ciphertext, deleted⟩

/-- A page answered by a server, its records stored at one time. -/
def answeredBy
    (server : List (QByteArray × QByteArray) → NetworkResponse)
    (currentMSecs : ℤ) : PageOutcome where
  respond := fun request => server (QUrlQuery.received request.2)
  upserts := fun _ => ⟨currentMSecs, true⟩

def answeredAt (currentMSecs : ℤ) : PageOutcome :=
  answeredBy servePages currentMSecs

/-- A request without an answer. -/
def unanswered : PageOutcome where
  respond := fun _ => ⟨0, [], QString.literal "Host unreachable"⟩
  upserts := fun _ => ⟨0, true⟩

def pullOf (pages : List PageOutcome) : Pull :=
  ⟨QString.literal "notes", ⟨QString.literal "https://vox", []⟩, pages⟩

/-- A table with a record of its own. -/
def otherTable : SyncTable :=
  Table.empty.replace
    ⟨QString.literal "notes", QString.literal "c", 7, [1], 5, false⟩

theorem servePages_pagesFrom :
    PagesFrom pageDocument (QString.literal "notes")
      (servePages ∘ QUrlQuery.meant) [] [QString.literal "p2"]
      ([entryOf "a" "one" 1 false] ++ [entryOf "a" "gone" 2 true]) :=
  .more
    (by decide +kernel :
      pageAt pageDocument (QString.literal "notes")
          (servePages ∘ QUrlQuery.meant) [] =
        some ⟨[entryOf "a" "one" 1 false], QString.literal "p2", true⟩)
    rfl
    (.last
      (by decide +kernel :
        pageAt pageDocument (QString.literal "notes")
            (servePages ∘ QUrlQuery.meant) (QString.literal "p2") =
          some ⟨[entryOf "a" "gone" 2 true], [], false⟩)
      rfl)

/-- The first call gets no second page; the second call stores the log, with
the deletion of `a` in place of its first version. -/
theorem pullCollection_applies_two_pages :
    let attempts := [pullOf [answeredAt 10, unanswered]]
    let last := pullOf [answeredAt 20, answeredAt 30]
    let after :=
      (pullStep pageDocument
        (Machine.run (pullStep pageDocument) otherTable attempts) last).2
    let listed (table : SyncTable) (recordId : String) :=
      (SyncRepository.listRecords table (QString.literal "notes") true).filter
        fun record => record.recordId = QString.literal recordId
    (listed after "a").map SyncRecord.content =
        [entryContent (entryOf "a" "gone" 2 true)] ∧
      listed after "c" = listed otherTable "c" := by
  intro attempts last after listed
  have ofCollection : ∀ entry ∈
      [entryOf "a" "one" 1 false] ++ [entryOf "a" "gone" 2 true],
      entry.collection = QString.literal "notes" := by
    decide
  have answers (currentMSecs : ℤ) :
      Answers pageDocument (servePages ∘ QUrlQuery.received)
        (answeredAt currentMSecs) :=
    fun _ => Or.inl rfl
  have noPage :
      (SyncApi.changes pageDocument
        ⟨0, [], QString.literal "Host unreachable"⟩).accepted = none := by
    decide +kernel
  have refused :
      Answers pageDocument (servePages ∘ QUrlQuery.received) unanswered :=
    fun _ => Or.inr noPage
  obtain ⟨ofLog, others, _⟩ :=
    pullCollection_applies_log pageDocument (QString.literal "notes")
      servePages [QString.literal "p2"]
      ([entryOf "a" "one" 1 false] ++ [entryOf "a" "gone" 2 true])
      otherTable [pullOf [answeredAt 10, unanswered]]
      (pullOf [answeredAt 20, answeredAt 30]) servePages_pagesFrom
      (by decide) ofCollection
      (by
        intro pull within
        obtain rfl := List.mem_singleton.mp within
        refine ⟨rfl, fun page within => ?_⟩
        rcases List.mem_pair.mp within with rfl | rfl
        · exact answers 10
        · exact refused)
      ⟨rfl, fun page within => by
        rcases List.mem_pair.mp within with rfl | rfl
        · exact answers 20
        · exact answers 30⟩
      (by decide +kernel)
  exact ⟨ofLog (QString.literal "a") (entryOf "a" "gone" 2 true)
      (by decide +kernel),
    others (QString.literal "c") (by decide +kernel)⟩

/-- A call against the server with three pages gets the third one in place of
the second, and returns true without the only entry of `b`. -/
theorem pullCollection_skips_page :
    let collection := QString.literal "notes"
    let log :=
      [entryOf "a" "one" 1 false] ++
        ([entryOf "b" "two" 1 false] ++ [entryOf "a" "gone" 2 true])
    let last :=
      pullOf [answeredBy serveEscaped 10, answeredBy serveEscaped 20]
    let result := pullStep pageDocument Table.empty last
    PagesFrom pageDocument collection (serveEscaped ∘ QUrlQuery.meant) []
        [QString.literal "%2B", QString.literal "+"] log ∧
      (∀ entry ∈ log, entry.collection = collection) ∧
      last.From pageDocument collection
        (serveEscaped ∘ QUrlQuery.received) ∧
      result.1 = some true ∧
      lastEntry log (QString.literal "b") =
        some (entryOf "b" "two" 1 false) ∧
      (SyncRepository.listRecords result.2 collection true).filter
        (fun record => record.recordId = QString.literal "b") = [] := by
  intro collection log last result
  refine ⟨?_, by decide, ⟨rfl, fun page within => ?_⟩, by decide +kernel,
    by decide, by decide +kernel⟩
  · exact .more
      (by decide +kernel :
        pageAt pageDocument collection (serveEscaped ∘ QUrlQuery.meant) [] =
          some ⟨[entryOf "a" "one" 1 false], QString.literal "%2B", true⟩)
      rfl
      (.more
        (by decide +kernel :
          pageAt pageDocument collection (serveEscaped ∘ QUrlQuery.meant)
              (QString.literal "%2B") =
            some ⟨[entryOf "b" "two" 1 false], QString.literal "+", true⟩)
        rfl
        (.last
          (by decide +kernel :
            pageAt pageDocument collection (serveEscaped ∘ QUrlQuery.meant)
                (QString.literal "+") =
              some ⟨[entryOf "a" "gone" 2 true], [], false⟩)
          rfl))
  · rcases List.mem_pair.mp within with rfl | rfl <;>
      exact fun _ => Or.inl rfl

end Examples

end SyncService
end Services
end VoxDesktop
