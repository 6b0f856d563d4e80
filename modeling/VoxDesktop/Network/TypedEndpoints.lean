import VoxDesktop.Network.AttachmentsApi
import VoxDesktop.Network.ConversationQueries
import VoxDesktop.Qt.ReferenceJson

/-!
# Endpoints with typed results

The endpoints of the five interfaces that return an `ApiResult`.  Their
handlers follow one pattern with small differences; all of them give data
exactly with a result that is `ok`, and only for a response that is.  A list
has one entry for each element of the array it was read from.
-/

namespace VoxDesktop
namespace Network

open Qt

inductive TypedEndpoint
  | registerUser (network : NetworkAccess) (request : RegisterRequest)
  | login (network : NetworkAccess) (request : LoginRequest)
  | refresh (network : NetworkAccess) (request : RefreshRequest)
  | me (network : NetworkAccess)
  | changePassword (network : NetworkAccess)
      (currentPasswordDerived newPasswordDerived wrappedSyncKey
        syncWrapSalt : QString)
      (syncWrapParams : QJsonObject)
  | userByUsername
  | userById
  | searchUsers
  | userDevices
  | listConversations
  | conversation
  | members
  | createConversation
  | sendEnvelope
  | pendingEnvelopes
  | conversationEnvelopes
  | uploadInit
  | download
  | getKeyBundle
  | changes

namespace TypedEndpoint

/-- The type of the data of an endpoint. -/
def Data : TypedEndpoint → Type
  | .registerUser .. => AuthSessionResponse
  | .login .. => AuthSessionResponse
  | .refresh .. => RefreshResponse
  | .me .. => MeResponse
  | .changePassword .. => ℤ
  | .userByUsername => DirectoryUser
  | .userById => DirectoryUser
  | .searchUsers => List DirectoryUser
  | .userDevices => List DeviceDirectoryEntry
  | .listConversations => List ListedConversationDto
  | .conversation => ListedConversationDto
  | .members => ConversationMembersResponseDto
  | .createConversation => ConversationCreateResponse
  | .sendEnvelope => SendEnvelopeResponse
  | .pendingEnvelopes => EnvelopeBatchResponse
  | .conversationEnvelopes => EnvelopeBatchResponse
  | .uploadInit => AttachmentUploadInitResponse
  | .download => QByteArray
  | .getKeyBundle => SyncKeyBundleDto
  | .changes => SyncChangesResponse

/-- The result of an endpoint on a response. -/
def result (json : QJsonDocument) (response : NetworkResponse) :
    (endpoint : TypedEndpoint) → ApiResult endpoint.Data
  | .registerUser network request =>
      (AuthApi.registerUser json network request response).2
  | .login network request =>
      (AuthApi.login json network request response).2
  | .refresh network request =>
      (AuthApi.refresh json network request response).2
  | .me network => (AuthApi.me json network response).2
  | .changePassword network currentPasswordDerived newPasswordDerived
      wrappedSyncKey syncWrapSalt syncWrapParams =>
      (AuthApi.changePassword json network currentPasswordDerived
        newPasswordDerived wrappedSyncKey syncWrapSalt syncWrapParams
        response).2
  | .userByUsername => DirectoryApi.userByUsername json response
  | .userById => DirectoryApi.userById json response
  | .searchUsers => DirectoryApi.searchUsers json response
  | .userDevices => DirectoryApi.userDevices json response
  | .listConversations => ConversationsApi.listConversations json response
  | .conversation => ConversationsApi.conversation json response
  | .members => ConversationsApi.members json response
  | .createConversation => ConversationsApi.createConversation json response
  | .sendEnvelope => ConversationsApi.sendEnvelope json response
  | .pendingEnvelopes => ConversationsApi.pendingEnvelopes json response
  | .conversationEnvelopes =>
      ConversationsApi.conversationEnvelopes json response
  | .uploadInit => AttachmentsApi.uploadInit json response
  | .download => AttachmentsApi.download json response
  | .getKeyBundle => SyncApi.getKeyBundle json response
  | .changes => SyncApi.changes json response

end TypedEndpoint

/-! ## Entries of an array -/

/-- The entries are what a parser makes of the elements of an array, one for
each and in the same order. -/
def EntriesOf
    {α : Type} (parser : QJsonObject → Option α) (object : QJsonObject)
    (field : String) (entries : List α) : Prop :=
  (object.value (QString.literal field)).toArray.map
      (fun element => parser element.toObject) =
    entries.map some

/-- An element of an array that a parser does not accept. -/
def HasMalformed
    {α : Type} (parser : QJsonObject → Option α) (object : QJsonObject)
    (field : String) : Prop :=
  ∃ element ∈ (object.value (QString.literal field)).toArray,
    parser element.toObject = none

namespace TypedEndpoint

/-- The lists in the data of an endpoint have the entries of their arrays. -/
def ListsEntries (object : QJsonObject) :
    (endpoint : TypedEndpoint) → endpoint.Data → Prop
  | .searchUsers, users =>
      EntriesOf parseDirectoryUser object "users" users
  | .userDevices, devices =>
      EntriesOf parseDeviceDirectoryEntry object "devices" devices
  | .listConversations, conversations =>
      EntriesOf parseConversationSummaryDto object "conversations"
        conversations
  | .members, response =>
      EntriesOf parseConversationMemberDto object "members"
          response.members ∧
        EntriesOf parseConversationMemberDto object "admins"
          response.admins ∧
        EntriesOf parseConversationMemberDto object "subscribers"
          response.subscribers
  | .pendingEnvelopes, batch =>
      EntriesOf parseEnvelopeDto object "envelopes" batch.envelopes
  | .conversationEnvelopes, batch =>
      EntriesOf parseEnvelopeDto object "envelopes" batch.envelopes
  | .changes, response =>
      EntriesOf parseSyncRecordDto object "records" response.records
  | _, _ => True

/-- An array that an endpoint reads has an element that is no entry. -/
def Malformed (object : QJsonObject) : TypedEndpoint → Prop
  | .searchUsers => HasMalformed parseDirectoryUser object "users"
  | .userDevices => HasMalformed parseDeviceDirectoryEntry object "devices"
  | .listConversations =>
      HasMalformed parseConversationSummaryDto object "conversations"
  | .members =>
      HasMalformed parseConversationMemberDto object "members" ∨
        HasMalformed parseConversationMemberDto object "admins" ∨
        HasMalformed parseConversationMemberDto object "subscribers"
  | .pendingEnvelopes => HasMalformed parseEnvelopeDto object "envelopes"
  | .conversationEnvelopes => HasMalformed parseEnvelopeDto object "envelopes"
  | .changes => HasMalformed parseSyncRecordDto object "records"
  | _ => False

end TypedEndpoint

section Entries

variable {α : Type} {parser : QJsonObject → Option α} {object : QJsonObject}
  {field : String}

theorem map_eq_of_mapM
    {β : Type} {f : β → Option α} {list : List β} {entries : List α}
    (parsed : list.mapM f = some entries) :
    list.map f = entries.map some := by
  induction list generalizing entries with
  | nil =>
      rw [List.mapM_nil] at parsed
      rw [← Option.some.inj parsed]
      rfl
  | cons element list inductionHypothesis =>
      simp only [List.mapM_cons, Option.bind_eq_bind, Option.pure_def,
        Option.bind_eq_some_iff, Option.some.injEq] at parsed
      obtain ⟨first, here, rest, later, rfl⟩ := parsed
      rw [List.map_cons, List.map_cons, here, inductionHypothesis later]

theorem entriesOf_of_mapM
    {entries : List α}
    (parsed :
      ((object.value (QString.literal field)).toArray.mapM fun element =>
        parser element.toObject) = some entries) :
    EntriesOf parser object field entries :=
  map_eq_of_mapM parsed

/-- There are as many entries as elements. -/
theorem EntriesOf.length_eq
    {entries : List α} (listed : EntriesOf parser object field entries) :
    entries.length =
      (object.value (QString.literal field)).toArray.length := by
  have sized := congrArg List.length listed
  rw [List.length_map, List.length_map] at sized
  exact sized.symm

/-- Where there are entries, no element is malformed. -/
theorem EntriesOf.not_hasMalformed
    {entries : List α} (listed : EntriesOf parser object field entries) :
    ¬HasMalformed parser object field := by
  rintro ⟨element, within, malformed⟩
  have mapped :
      none ∈ (object.value (QString.literal field)).toArray.map
        fun element => parser element.toObject :=
    List.mem_map.mpr ⟨element, within, malformed⟩
  rw [show List.map _ _ = _ from listed] at mapped
  obtain ⟨entry, -, impossible⟩ := List.mem_map.mp mapped
  contradiction

end Entries

/-! ## The pattern of the handlers -/

/-- What every handler keeps to: data exactly with a result that is `ok`, and
that only for a response that is. -/
structure Lawful
    {α : Type} (response : NetworkResponse) (result : ApiResult α) :
    Prop where
  ok_iff : result.ok = true ↔ result.data.isSome = true
  statusCode : result.statusCode = response.statusCode
  accepted : result.ok = true → response.ok = true

/-- `parseRecords`: the answer of `changes`, if each record is one. -/
def parseChanges (object : QJsonObject) : Option SyncChangesResponse := do
  let records ←
    (object.value (QString.literal "records")).toArray.mapM fun entry =>
      parseSyncRecordDto entry.toObject
  return {
    records := records
    nextCursor := (object.value (QString.literal "next_cursor")).toString
    hasMore := (object.value (QString.literal "has_more")).toBool false }

/-- The version that `changePassword` reads. -/
def parseSyncKeyVersion (object : QJsonObject) : Option ℤ :=
  let version := object.value (QString.literal "sync_key_version")
  if version.isDouble then some (version.toInt 0) else none

section Handlers

variable {α : Type} {json : QJsonDocument} {response : NetworkResponse}
  {parser : QJsonObject → Option α}

theorem lawful_parseResult (invalid : String) :
    Lawful response
      (ConversationsApi.parseResult json parser invalid response) := by
  rw [ConversationsApi.parseResult]
  split
  · exact ⟨by simp, rfl, by simp⟩
  · split
    next accepted => exact ⟨Iff.rfl, rfl, fun _ => accepted⟩
    next => exact ⟨by simp, rfl, by simp⟩

theorem lawful_parseTypedResponse :
    Lawful response (AuthApi.parseTypedResponse json response parser) := by
  rw [AuthApi.parseTypedResponse]
  split
  · exact ⟨by simp, rfl, by simp⟩
  · split
    next accepted => exact ⟨Iff.rfl, rfl, fun _ => accepted⟩
    next => exact ⟨by simp, rfl, by simp⟩

theorem lawful_download :
    Lawful response (AttachmentsApi.download json response) := by
  rw [AttachmentsApi.download]
  split
  next accepted => exact ⟨by simp, rfl, fun _ => accepted⟩
  next => exact ⟨by simp, rfl, by simp⟩

/-- `changes` follows the pattern of the other calls. -/
theorem changes_eq_parseResult :
    SyncApi.changes json response =
      ConversationsApi.parseResult json parseChanges
        "Invalid sync record entry" response := by
  rw [SyncApi.changes, ConversationsApi.parseResult]
  cases JsonCodec.parseObject json response.body with
  | error parseError => rfl
  | ok object =>
      dsimp only [parseChanges]
      cases (object.value (QString.literal "records")).toArray.mapM
          fun entry => parseSyncRecordDto entry.toObject with
      | none => rfl
      | some records => rfl

/-- So does `changePassword`. -/
theorem changePassword_eq_parseResult
    (network : NetworkAccess)
    (currentPasswordDerived newPasswordDerived wrappedSyncKey
      syncWrapSalt : QString)
    (syncWrapParams : QJsonObject) :
    (AuthApi.changePassword json network currentPasswordDerived
        newPasswordDerived wrappedSyncKey syncWrapSalt syncWrapParams
        response).2 =
      ConversationsApi.parseResult json parseSyncKeyVersion
        "Missing sync_key_version" response := by
  rw [AuthApi.changePassword, ConversationsApi.parseResult]
  dsimp only
  cases JsonCodec.parseObject json response.body with
  | error parseError => rfl
  | ok object =>
      dsimp only
      by_cases isNumber :
          (object.value (QString.literal "sync_key_version")).isDouble = true
      · have read :
            parseSyncKeyVersion object =
              some
                ((object.value
                  (QString.literal "sync_key_version")).toInt 0) :=
          if_pos isNumber
        rw [read, if_pos isNumber]
        rfl
      · have read : parseSyncKeyVersion object = none := if_neg isNumber
        rw [read, if_neg isNumber]
        rfl

/-- The data of a result is what the parser makes of the response. -/
theorem parseResult_data
    {invalid : String} {data : α}
    (answered :
      (ConversationsApi.parseResult json parser invalid response).data =
        some data) :
    ∃ object, JsonCodec.parseObject json response.body = .ok object ∧
      parser object = some data := by
  rw [ConversationsApi.parseResult] at answered
  split at answered
  · contradiction
  next object parsed =>
    split at answered
    · exact ⟨object, parsed, answered⟩
    · contradiction

theorem parseTypedResponse_data
    {data : α}
    (answered :
      (AuthApi.parseTypedResponse json response parser).data = some data) :
    ∃ object, JsonCodec.parseObject json response.body = .ok object ∧
      parser object = some data := by
  rw [AuthApi.parseTypedResponse] at answered
  split at answered
  · contradiction
  next object parsed =>
    split at answered
    · exact ⟨object, parsed, answered⟩
    · contradiction

end Handlers

/-! ## The parsers of lists -/

section Lists

variable {object : QJsonObject}

theorem entries_of_parseEnvelopeBatchResponse
    {batch : EnvelopeBatchResponse}
    (accepted : parseEnvelopeBatchResponse object = some batch) :
    EntriesOf parseEnvelopeDto object "envelopes" batch.envelopes := by
  simp only [parseEnvelopeBatchResponse, Option.bind_eq_bind,
    Option.bind_eq_some_iff, Option.pure_def, Option.some.injEq] at accepted
  obtain ⟨envelopes, parsed, rfl⟩ := accepted
  exact entriesOf_of_mapM parsed

theorem entries_of_parseChanges
    {response : SyncChangesResponse}
    (accepted : parseChanges object = some response) :
    EntriesOf parseSyncRecordDto object "records" response.records := by
  simp only [parseChanges, Option.bind_eq_bind, Option.bind_eq_some_iff,
    Option.pure_def, Option.some.injEq] at accepted
  obtain ⟨records, parsed, rfl⟩ := accepted
  exact entriesOf_of_mapM parsed

theorem entries_of_parseConversationMembersResponseDto
    {response : ConversationMembersResponseDto}
    (accepted :
      parseConversationMembersResponseDto object = some response) :
    EntriesOf parseConversationMemberDto object "members"
        response.members ∧
      EntriesOf parseConversationMemberDto object "admins" response.admins ∧
      EntriesOf parseConversationMemberDto object "subscribers"
        response.subscribers := by
  simp only [parseConversationMembersResponseDto, Option.bind_eq_bind,
    Option.bind_eq_some_iff, Option.pure_def, Option.some.injEq] at accepted
  obtain ⟨_, _, members, first, admins, second, subscribers, third, rfl⟩ :=
    accepted
  exact ⟨entriesOf_of_mapM first, entriesOf_of_mapM second,
    entriesOf_of_mapM third⟩

end Lists

namespace TypedEndpoint

variable {json : QJsonDocument} {response : NetworkResponse}

theorem lawful_result (endpoint : TypedEndpoint) :
    Lawful response (endpoint.result json response) := by
  cases endpoint with
  | registerUser => exact lawful_parseTypedResponse
  | login => exact lawful_parseTypedResponse
  | refresh => exact lawful_parseTypedResponse
  | me => exact lawful_parseTypedResponse
  | changePassword =>
      rw [result, changePassword_eq_parseResult]
      exact lawful_parseResult _
  | download => exact lawful_download
  | changes =>
      rw [result, changes_eq_parseResult]
      exact lawful_parseResult _
  | _ => exact lawful_parseResult _

/-- Data comes from an object, apart from that of a download. -/
theorem exists_listsEntries
    (endpoint : TypedEndpoint) {data : endpoint.Data}
    (answered : (endpoint.result json response).data = some data) :
    endpoint = .download ∨
      ∃ object, JsonCodec.parseObject json response.body = .ok object ∧
        endpoint.ListsEntries object data := by
  cases endpoint with
  | download => exact Or.inl rfl
  | registerUser | login | refresh | me =>
      obtain ⟨object, parsed, -⟩ := parseTypedResponse_data answered
      exact Or.inr ⟨object, parsed, trivial⟩
  | changePassword =>
      rw [result, changePassword_eq_parseResult] at answered
      obtain ⟨object, parsed, -⟩ := parseResult_data answered
      exact Or.inr ⟨object, parsed, trivial⟩
  | changes =>
      rw [result, changes_eq_parseResult] at answered
      obtain ⟨object, parsed, accepted⟩ := parseResult_data answered
      exact Or.inr ⟨object, parsed, entries_of_parseChanges accepted⟩
  | searchUsers | userDevices | listConversations =>
      obtain ⟨object, parsed, accepted⟩ := parseResult_data answered
      exact Or.inr ⟨object, parsed, entriesOf_of_mapM accepted⟩
  | members =>
      obtain ⟨object, parsed, accepted⟩ := parseResult_data answered
      exact Or.inr ⟨object, parsed,
        entries_of_parseConversationMembersResponseDto accepted⟩
  | pendingEnvelopes | conversationEnvelopes =>
      obtain ⟨object, parsed, accepted⟩ := parseResult_data answered
      exact Or.inr ⟨object, parsed,
        entries_of_parseEnvelopeBatchResponse accepted⟩
  | _ =>
      obtain ⟨object, parsed, -⟩ := parseResult_data answered
      exact Or.inr ⟨object, parsed, trivial⟩

/-- Data that has the entries of its arrays has no malformed element. -/
theorem not_malformed
    {object : QJsonObject} {endpoint : TypedEndpoint} {data : endpoint.Data}
    (listed : endpoint.ListsEntries object data) :
    ¬endpoint.Malformed object := by
  cases endpoint with
  | members =>
      obtain ⟨members, admins, subscribers⟩ := listed
      rintro (malformed | malformed | malformed)
      · exact members.not_hasMalformed malformed
      · exact admins.not_hasMalformed malformed
      · exact subscribers.not_hasMalformed malformed
  | searchUsers | userDevices | listConversations | pendingEnvelopes
    | conversationEnvelopes | changes =>
      exact EntriesOf.not_hasMalformed listed
  | _ => exact id

/-- Every typed endpoint on every response: data exactly when the result is
`ok`, that only with a successful status and no transport error, the entries
of every list one for each element, and no answer with a malformed one. -/
theorem result_law
    (json : QJsonDocument)
    (response : NetworkResponse)
    (endpoint : TypedEndpoint) :
    let result := endpoint.result json response
    (result.ok = true ↔ result.data.isSome = true) ∧
      (result.ok = true →
        200 ≤ result.statusCode ∧ result.statusCode < 300 ∧
          response.errorMessage = []) ∧
      (∀ data, result.data = some data →
        endpoint = .download ∨
          ∃ object, JsonCodec.parseObject json response.body = .ok object ∧
            endpoint.ListsEntries object data) ∧
      ∀ object, JsonCodec.parseObject json response.body = .ok object →
        endpoint.Malformed object → result.ok = false := by
  intro result
  have lawful : Lawful response result := lawful_result endpoint
  refine ⟨lawful.ok_iff, fun ok => ?_,
    fun data answered => exists_listsEntries endpoint answered, ?_⟩
  · have accepted := lawful.accepted ok
    simp only [NetworkResponse.ok, Bool.and_eq_true, decide_eq_true_eq,
      List.isEmpty_iff] at accepted
    rw [lawful.statusCode]
    exact ⟨accepted.1.1, accepted.1.2, accepted.2⟩
  · intro object parsed malformed
    rw [← Bool.not_eq_true]
    intro ok
    obtain ⟨data, answered⟩ :=
      Option.isSome_iff_exists.mp (lawful.ok_iff.mp ok)
    rcases exists_listsEntries endpoint answered with
      rfl | ⟨other, parsedToo, listed⟩
    · exact malformed
    · rw [parsed] at parsedToo
      rw [← Except.ok.inj parsedToo] at listed
      exact not_malformed listed malformed

/-! ## A search -/

section Examples

/-- The answer to a search with two entries. -/
def exampleUsers (second : QJsonObject) : QJsonObject :=
  [(QString.literal "users",
    .array
      [.object
        [stringMember "user_id" (QString.literal "u"),
          stringMember "username" (QString.literal "ann")],
        .object second])]

/-- The first user of the answer. -/
def exampleUsersText (second : String) : QByteArray :=
  QByteArray.literal
    ("\x7b\"users\":[\x7b\"user_id\":\"u\",\"username\":\"ann\"\x7d," ++
      second ++ "]\x7d")

/-- Two users are both in the data, and with a second one that has no id there
is no data at all. -/
theorem searchUsers_law :
    let well :=
      [stringMember "user_id" (QString.literal "w"),
        stringMember "username" (QString.literal "bob")]
    let ill := [stringMember "username" (QString.literal "bob")]
    let wellText :=
      exampleUsersText "\x7b\"user_id\":\"w\",\"username\":\"bob\"\x7d"
    let illText := exampleUsersText "\x7b\"username\":\"bob\"\x7d"
    (∃ users,
        (searchUsers.result
          (ReferenceJson.readsOnly wellText (exampleUsers well))
          ⟨200, wellText, []⟩).data = some users ∧
          EntriesOf parseDirectoryUser (exampleUsers well) "users" users) ∧
      (searchUsers.result
        (ReferenceJson.readsOnly illText (exampleUsers ill))
        ⟨200, illText, []⟩).ok = false := by
  intro well ill wellText illText
  have parsed : ∀ text object,
      JsonCodec.parseObject (ReferenceJson.readsOnly text object) text =
        .ok object := fun _ _ => if_pos rfl
  constructor
  · obtain ⟨-, -, listed, -⟩ :=
      result_law (ReferenceJson.readsOnly wellText (exampleUsers well))
        ⟨200, wellText, []⟩ searchUsers
    refine ⟨_, rfl, ?_⟩
    rcases listed _ rfl with impossible | ⟨object, read, entries⟩
    · contradiction
    · rw [parsed] at read
      rw [Except.ok.inj read]
      exact entries
  · obtain ⟨-, -, -, rejected⟩ :=
      result_law (ReferenceJson.readsOnly illText (exampleUsers ill))
        ⟨200, illText, []⟩ searchUsers
    apply rejected _ (parsed _ _)
    exact ⟨.object ill, List.mem_cons_of_mem _ List.mem_cons_self, rfl⟩

end Examples

end TypedEndpoint

end Network
end VoxDesktop
