import VoxDesktop.Integration.Answers
import VoxDesktop.Integration.Submissions

/-!
# The attachments of the server

The server reserves an attachment under the next number and writes it when a
chunk is put under its id.  The interface of the client and the routes put
together: what a request of an upload or a download does to the attachments,
and what its answer tells.
-/

namespace VoxDesktop
namespace Integration

open Qt Network FakeVoxServer

/-! ## Texts up to another one -/

theorem upTo_append
    {first : UInt16} {needle text : QString} (plain : first ∉ text) :
    upTo (first :: needle) (text ++ first :: needle) = text := by
  induction text with
  | nil => simp [upTo]
  | cons unit text inductionHypothesis =>
      rw [List.mem_cons, not_or] at plain
      rw [List.cons_append, upTo, if_neg, inductionHypothesis plain.2]
      simp [List.isPrefixOf, plain.1]

theorem trimQuery_of_not_mem
    {path : QString} (plain : (0x3F : UInt16) ∉ path) :
    trimQuery path = path := by
  unfold trimQuery
  induction path with
  | nil => rfl
  | cons unit path inductionHypothesis =>
      rw [List.mem_cons, not_or] at plain
      rw [upTo, if_neg, inductionHypothesis plain.2]
      simp [List.isPrefixOf, plain.1]

namespace FakeVoxServer

/-! ## Ids -/

def attachmentIdOf (number : ℕ) : QString :=
  QString.literal "att_" ++ QString.number number

theorem attachmentIdOf_injective : Function.Injective attachmentIdOf := by
  intro first second same
  exact qstringNumber_injective (List.append_cancel_left same)

/-- A decimal form has no punctuation. -/
theorem notMem_number {unit : UInt16} (number : ℕ)
    (isNone : unit.toNat < 0x30 ∨ 0x39 < unit.toNat) :
    unit ∉ QString.number number := by
  intro member
  obtain ⟨octet, within, rfl⟩ := List.mem_map.mp member
  rw [number_natCast] at within
  obtain ⟨digit, digitMember, rfl⟩ := List.mem_map.mp within
  have isDigit :=
    Nat.isDigit_of_mem_toDigits (by decide) (by decide) digitMember
  simp only [Char.isDigit, Bool.and_eq_true, decide_eq_true_eq] at isDigit
  have lower : 48 ≤ digit.toNat := UInt32.le_iff_toNat_le.mp isDigit.1
  have upper : digit.toNat ≤ 57 := UInt32.le_iff_toNat_le.mp isDigit.2
  rw [UInt8.toNat_toUInt16, UInt8.toNat_ofNat', Nat.mod_eq_of_lt (by omega)]
    at isNone
  omega

theorem slash_notMem_attachmentIdOf (number : ℕ) :
    (0x2F : UInt16) ∉ attachmentIdOf number := by
  rw [attachmentIdOf, List.mem_append, not_or]
  exact ⟨by decide, notMem_number number (Or.inl (by decide))⟩

theorem question_notMem_attachmentIdOf (number : ℕ) :
    (0x3F : UInt16) ∉ attachmentIdOf number := by
  rw [attachmentIdOf, List.mem_append, not_or]
  exact ⟨by decide, notMem_number number (Or.inr (by decide))⟩

/-! ## What a request does to the attachments -/

/-- What is stored for an attachment; nothing yet for one that is only
reserved. -/
def blob (server : FakeVoxServer) (attachmentId : QString) : QByteArray :=
  server.m_attachments.valueOr attachmentId []

def initRoute : QString := QString.literal "/v1/attachments/upload-init"

/-- The attachment that a request writes a chunk of. -/
def chunkTarget (request : ServerRequest) : Option QString :=
  let route := trimQuery request.path
  if attachmentsPrefix.isPrefixOf route ∧ chunkSuffix.isSuffixOf route ∧
      request.method = QString.literal "PUT" then
    some (upTo chunkSuffix (route.drop attachmentsPrefix.length))
  else none

/-- The attachments are the same, and so is the next number. -/
def SameAttachments (before after : FakeVoxServer) : Prop :=
  after.m_attachments = before.m_attachments ∧
    after.m_attachmentSeq = before.m_attachmentSeq

/-- What becomes of the attachments when a request is handled. -/
inductive AttachmentsHandled
    (json : QJsonDocument) (server : FakeVoxServer)
    (request : ServerRequest) : NetworkResponse × FakeVoxServer → Prop
  | unchanged {handled : NetworkResponse × FakeVoxServer}
      (same : SameAttachments server handled.2) :
      AttachmentsHandled json server request handled
  | reserved (isInit : trimQuery request.path = initRoute)
      (isPost : request.method = QString.literal "POST") :
      AttachmentsHandled json server request (server.handleUploadInit json)
  | written {attachmentId : QString}
      (isTarget : chunkTarget request = some attachmentId) :
      AttachmentsHandled json server request
        (server.handleChunk json request (trimQuery request.path))

section Handled

variable {json : QJsonDocument} {server : FakeVoxServer}
  {request : ServerRequest} {moment : Moment}

theorem IsRefusal.attachments
    {handled : NetworkResponse × FakeVoxServer}
    (refusal : IsRefusal json server handled) :
    AttachmentsHandled json server request handled := by
  obtain ⟨_, _, _, _, rfl⟩ := refusal
  exact .unchanged ⟨rfl, rfl⟩

theorem handleSession_attachments (userId : QString) :
    AttachmentsHandled json server request
      (server.handleSession json userId request moment
        (trimQuery request.path)) := by
  have answers : ∀ response, AttachmentsHandled json server request
      (response, server) := fun _ => .unchanged ⟨rfl, rfl⟩
  have sends : AttachmentsHandled json server request
      (server.handleSend json userId request moment) := by
    apply AttachmentsHandled.unchanged
    unfold handleSend
    split
    · exact ⟨rfl, rfl⟩
    · split <;> exact ⟨rfl, rfl⟩
  unfold handleSession
  refine iteInduction (fun _ => answers _) fun _ => ?_
  refine iteInduction (fun _ => sends) fun _ => ?_
  refine iteInduction (fun _ => answers _) fun _ => ?_
  refine iteInduction (fun _ => answers _) fun _ => ?_
  refine iteInduction (fun isInit => .reserved isInit.1 isInit.2) fun _ => ?_
  refine iteInduction (fun isChunk => .written (if_pos isChunk)) fun _ => ?_
  iterate 9 refine iteInduction (fun _ => answers _) fun _ => ?_
  exact answers _

theorem handle_attachments :
    AttachmentsHandled json server request
      (server.handle json request moment) := by
  have answers : ∀ response, AttachmentsHandled json server request
      (response, server) := fun _ => .unchanged ⟨rfl, rfl⟩
  unfold handle
  dsimp only
  split
  · exact answers _
  split
  · rcases @handleRegister_cases json server request with
      refusal | ⟨_, _, _, _, result⟩
    · exact refusal.attachments
    · rw [result]
      exact .unchanged ⟨rfl, rfl⟩
  split
  · rcases @handleLogin_cases json server request moment with
      refusal | ⟨_, _, _, _, _, result⟩
    · exact refusal.attachments
    · rw [result]
      exact .unchanged ⟨rfl, rfl⟩
  split
  · rcases @handleRefresh_cases json server request with
      refusal | ⟨_, _, _, _, result⟩
    · exact refusal.attachments
    · rw [result]
      exact .unchanged ⟨rfl, rfl⟩
  split
  · exact answers _
  split
  · exact answers _
  split
  · exact answers _
  split
  · exact answers _
  · exact handleSession_attachments _

/-- The routes that are tried before a user is asked for. -/
def openRoutes : List QString :=
  ["/v1/health", "/v1/register", "/v1/login", "/v1/refresh", "/v1/logout",
    "/v1/me"].map QString.literal

/-- On all other routes, a user is needed. -/
theorem handle_of_notMem_openRoutes
    (isOther : trimQuery request.path ∉ openRoutes) :
    server.handle json request moment =
      if server.authUserFromHeaders request.headers = [] then
        (unauthorized json, server)
      else
        server.handleSession json
          (server.authUserFromHeaders request.headers) request moment
          (trimQuery request.path) := by
  simp only [openRoutes, List.map_cons, List.map_nil, List.mem_cons,
    List.not_mem_nil, or_false, not_or] at isOther
  obtain ⟨notHealth, notRegister, notLogin, notRefresh, notLogout, notMe⟩ :=
    isOther
  unfold handle
  dsimp only
  rw [if_neg fun facts => notHealth facts.1,
    if_neg fun facts => notRegister facts.1,
    if_neg fun facts => notLogin facts.1,
    if_neg fun facts => notRefresh facts.1,
    if_neg fun facts => notLogout facts.1, if_neg fun facts => notMe facts.1]
  split
  · rename_i forced
    rw [authUserFromHeaders, if_pos forced, if_pos rfl]
  · rfl

theorem notMem_openRoutes_of_isPrefixOf
    {start route : QString} (starts : start.isPrefixOf route)
    (none : ∀ other ∈ openRoutes, start.isPrefixOf other = false) :
    route ∉ openRoutes := by
  intro member
  rw [none route member] at starts
  contradiction

/-- On a route of the attachments, a user is needed. -/
theorem handle_attachmentRoute
    (isRoute : attachmentsPrefix.isPrefixOf (trimQuery request.path)) :
    server.handle json request moment =
      if server.authUserFromHeaders request.headers = [] then
        (unauthorized json, server)
      else
        server.handleSession json
          (server.authUserFromHeaders request.headers) request moment
          (trimQuery request.path) :=
  handle_of_notMem_openRoutes
    (notMem_openRoutes_of_isPrefixOf isRoute (by decide))

/-! ## What is stored -/

/-- Nothing is stored under the numbers to come. -/
def Unissued (server : FakeVoxServer) : Prop :=
  ∀ number, server.m_attachmentSeq ≤ number →
    server.blob (attachmentIdOf number) = []

theorem blob_start : ({} : FakeVoxServer).Unissued := fun _ _ => rfl

theorem chunkTarget_eq_some
    {attachmentId : QString}
    (isTarget : chunkTarget request = some attachmentId) :
    attachmentId =
      upTo chunkSuffix
        ((trimQuery request.path).drop attachmentsPrefix.length) := by
  unfold chunkTarget at isTarget
  dsimp only at isTarget
  split at isTarget
  · exact (Option.some.inj isTarget).symm
  · contradiction

theorem handle_attachmentSeq :
    server.m_attachmentSeq ≤
      (server.handle json request moment).2.m_attachmentSeq := by
  have handled := @handle_attachments json server request moment
  generalize server.handle json request moment = result at handled ⊢
  cases handled with
  | unchanged same => exact same.2.ge
  | reserved => exact Nat.le_succ _
  | written =>
      unfold handleChunk
      dsimp only
      split <;> exact Nat.le_refl _

/-- A request changes what is stored for the attachment that it writes a
chunk of, and for no other. -/
theorem blob_handle
    (unissued : server.Unissued) {attachmentId : QString}
    (other : chunkTarget request ≠ some attachmentId) :
    (server.handle json request moment).2.blob attachmentId =
      server.blob attachmentId := by
  have handled := @handle_attachments json server request moment
  generalize server.handle json request moment = result at handled ⊢
  cases handled with
  | unchanged same => rw [blob, same.1, blob]
  | reserved =>
      by_cases isNew : attachmentId = server.newAttachmentId
      · have nothing := unissued server.m_attachmentSeq le_rfl
        rw [isNew]
        refine Eq.trans ?_ nothing.symm
        rw [blob, QHash.valueOr, handleUploadInit]
        dsimp only
        rw [AList.lookup_insert]
        rfl
      · rw [blob, QHash.valueOr, handleUploadInit]
        dsimp only
        rw [AList.lookup_insert_ne isNew]
        rfl
  | @written target isTarget =>
      have different : attachmentId ≠ target := by
        rintro rfl
        exact other isTarget
      rw [chunkTarget_eq_some isTarget] at different
      unfold handleChunk
      dsimp only
      split
      · rfl
      · rw [blob, QHash.valueOr]
        dsimp only
        rw [AList.lookup_insert_ne different]
        rfl

theorem unissued_handle
    (unissued : server.Unissued)
    (old : ∀ number, server.m_attachmentSeq ≤ number →
      chunkTarget request ≠ some (attachmentIdOf number)) :
    (server.handle json request moment).2.Unissued := by
  intro number later
  have before := handle_attachmentSeq.trans later
  rw [blob_handle unissued (old number before)]
  exact unissued number before

end Handled

theorem chunkWritten_nil (chunk : QByteArray) :
    chunkWritten [] chunk 0 = chunk := rfl

end FakeVoxServer

/-! ## Requests of the interface -/

/-- A request as the server sees it. -/
theorem serverRequest_execute
    (network : NetworkAccess) {path : QString}
    (absolute : path.head? = some 0x2F)
    (method : QString) (body : QByteArray) (contentType : QString) :
    serverRequest network (network.execute method path body contentType) [] =
      ⟨method, path, body,
        (network.execute method path body contentType).headers⟩ := by
  simp only [serverRequest, NetworkAccess.execute, if_pos absolute,
    List.drop_left, if_true, List.append_nil]

/-- A request with a query as the server sees it. -/
theorem serverRequest_execute_query
    (network : NetworkAccess) {path : QString}
    (absolute : path.head? = some 0x2F)
    (method : QString) (body : QByteArray) (contentType : QString)
    {query : QUrlQuery} (isQuery : query ≠ []) :
    serverRequest network (network.execute method path body contentType)
        query =
      ⟨method, path ++ 0x3F :: queryString query, body,
        (network.execute method path body contentType).headers⟩ := by
  simp only [serverRequest, NetworkAccess.execute, if_pos absolute,
    List.drop_left, if_neg isQuery]

section Requests

variable {json : QJsonDocument} {server : FakeVoxServer}
  {network : NetworkAccess} {moment : Moment} {number : ℕ}

theorem unauthorized_not_ok : (unauthorized json).ok = false :=
  errorResponse_not_ok _ _ (Or.inr (by decide))

/-- A reservation: it gets the next number, or is refused. -/
theorem handle_uploadInit
    (info : AttachmentUploadInitRequest) :
    let request := serverRequest network
      (AttachmentsApi.uploadInitRequest json network info) []
    chunkTarget request = none ∧
      (server.handle json request moment =
          (unauthorized json, server) ∨
        server.handle json request moment =
          server.handleUploadInit json) := by
  intro request
  have isRequest : request = ⟨QString.literal "POST", initRoute, _, _⟩ :=
    serverRequest_execute network rfl _ _ _
  have route : trimQuery request.path = initRoute := by
    rw [isRequest]
    exact trimQuery_of_not_mem (show (0x3F : UInt16) ∉ initRoute by decide)
  have isPost : request.method = QString.literal "POST" := by
    rw [isRequest]
  refine ⟨if_neg fun facts => ?_, ?_⟩
  · rw [isPost] at facts
    exact absurd facts.2.2 (by decide)
  rw [handle_attachmentRoute (by rw [route]; decide), route]
  split
  · exact Or.inl rfl
  · right
    unfold handleSession
    dsimp only
    iterate 4 rw [if_neg fun facts => absurd facts.1 (by decide)]
    rw [if_pos ⟨rfl, isPost⟩]

theorem attachmentsPrefix_isPrefixOf (rest : QString) :
    attachmentsPrefix.isPrefixOf (attachmentsPrefix ++ rest) = true :=
  List.isPrefixOf_iff_prefix.mpr (List.prefix_append _ _)

/-- A chunk that is put at the beginning: it is written, or refused. -/
theorem handle_uploadChunk (number : ℕ) (ciphertext : QByteArray) :
    let put := AttachmentsApi.uploadChunkRequest network
      (attachmentIdOf number) 0 ciphertext
    let request := serverRequest network put.1 put.2
    let result := server.handle json request moment
    chunkTarget request = some (attachmentIdOf number) ∧
      (result = (unauthorized json, server) ∨
        result.2.blob (attachmentIdOf number) =
          chunkWritten (server.blob (attachmentIdOf number)) ciphertext
            0) := by
  intro put request result
  let route := attachmentsPrefix ++ attachmentIdOf number ++ chunkSuffix
  have isRequest : request =
      ⟨QString.literal "PUT",
        route ++ 0x3F :: QString.literal "offset=0", ciphertext,
        put.1.headers⟩ := by
    have text : queryString [(QString.literal "offset", QString.number 0)] =
        QString.literal "offset=0" := by decide
    rw [← text]
    exact serverRequest_execute_query network rfl _ _ _
      (List.cons_ne_nil _ _)
  have plain : (0x3F : UInt16) ∉ route := by
    simp only [route, List.mem_append, not_or]
    exact ⟨⟨by decide, question_notMem_attachmentIdOf number⟩, by decide⟩
  have isRoute : trimQuery request.path = route := by
    rw [isRequest]
    exact trimQuery_append plain _
  have named : upTo chunkSuffix (route.drop attachmentsPrefix.length) =
      attachmentIdOf number := by
    rw [show route = attachmentsPrefix ++ (attachmentIdOf number ++
      chunkSuffix) from List.append_assoc _ _ _, List.drop_left]
    exact upTo_append (slash_notMem_attachmentIdOf number)
  have isPrefix : attachmentsPrefix.isPrefixOf route = true := by
    rw [show route = attachmentsPrefix ++ (attachmentIdOf number ++
      chunkSuffix) from List.append_assoc _ _ _]
    exact attachmentsPrefix_isPrefixOf _
  have isSuffix : chunkSuffix.isSuffixOf route = true :=
    List.isSuffixOf_iff_suffix.mpr (List.suffix_append _ _)
  have isPut : request.method = QString.literal "PUT" := by
    rw [isRequest]
  constructor
  · unfold chunkTarget
    dsimp only
    rw [isRoute, if_pos ⟨isPrefix, isSuffix, isPut⟩, named]
  unfold result
  rw [handle_attachmentRoute (by rw [isRoute]; exact isPrefix), isRoute]
  split
  · exact Or.inl rfl
  right
  have different : ∀ {other : QString},
      attachmentsPrefix.isPrefixOf other = false → route ≠ other := by
    rintro _ isNone rfl
    rw [isNone] at isPrefix
    contradiction
  have notPost : request.method ≠ QString.literal "POST" := by
    rw [isPut]
    decide
  have session : ∀ userId,
      server.handleSession json userId request moment route =
        server.handleChunk json request route := by
    intro userId
    unfold handleSession
    dsimp only
    iterate 4 rw [if_neg fun facts => different (by decide) facts.1]
    rw [if_neg fun facts => notPost facts.2,
      if_pos ⟨isPrefix, isSuffix, isPut⟩]
  have offset : toLongLong (queryItemValue (queryFromPath request.path)
      (QString.literal "offset")) = 0 := by
    have query : queryFromPath request.path = QString.literal "offset=0" := by
      rw [queryFromPath, isRoute, isRequest]
      rw [show (route ++ 0x3F :: QString.literal "offset=0") =
        (route ++ [0x3F]) ++ QString.literal "offset=0" by simp,
        List.drop_left' (by simp)]
    rw [query]
    decide
  have isBody : request.body = ciphertext := by
    rw [isRequest]
  rw [session, handleChunk, offset, if_neg (by decide), named, isBody, blob,
    QHash.valueOr, AList.lookup_insert]
  rfl

/-- A download: it gets what is stored, or is refused. -/
theorem handle_download (number : ℕ) :
    let get := AttachmentsApi.downloadRequest network (attachmentIdOf number)
    let request := serverRequest network get.1 get.2
    server.handle json request moment =
      if server.authUserFromHeaders get.1.headers = [] then
        (unauthorized json, server)
      else
        (⟨kHttpOk, server.blob (attachmentIdOf number), []⟩, server) := by
  intro get request
  let route := attachmentsPrefix ++ attachmentIdOf number
  have isRequest : request =
      ⟨QString.literal "GET", route, [], get.1.headers⟩ :=
    serverRequest_execute network rfl _ _ _
  have plain : (0x3F : UInt16) ∉ route := by
    simp only [route, List.mem_append, not_or]
    exact ⟨by decide, question_notMem_attachmentIdOf number⟩
  have isRoute : trimQuery request.path = route := by
    rw [isRequest]
    exact trimQuery_of_not_mem plain
  have isPrefix : attachmentsPrefix.isPrefixOf route = true :=
    attachmentsPrefix_isPrefixOf _
  have isGet : request.method = QString.literal "GET" := by
    rw [isRequest]
  have sameHeaders : request.headers = get.1.headers := by
    rw [isRequest]
  rw [handle_attachmentRoute (by rw [isRoute]; exact isPrefix), isRoute,
    sameHeaders]
  have different : ∀ {other : QString},
      attachmentsPrefix.isPrefixOf other = false → route ≠ other := by
    rintro _ isNone rfl
    rw [isNone] at isPrefix
    contradiction
  have notPost : request.method ≠ QString.literal "POST" := by
    rw [isGet]
    decide
  have notPut : request.method ≠ QString.literal "PUT" := by
    rw [isGet]
    decide
  have session : ∀ userId,
      server.handleSession json userId request moment route =
        (server.handleDownload route, server) := by
    intro userId
    unfold handleSession
    dsimp only
    iterate 4 rw [if_neg fun facts => different (by decide) facts.1]
    rw [if_neg fun facts => notPost facts.2,
      if_neg fun facts => notPut facts.2.2,
      if_neg fun facts => notPost facts.2.2, if_pos ⟨isPrefix, isGet⟩]
  rw [session, handleDownload, List.drop_left]
  rfl

/-- Only a response with success is accepted. -/
theorem accepted_parseResult_of_not_ok
    {response : NetworkResponse} (notOk : response.ok = false)
    {α : Type} (parser : QJsonObject → Option α) (invalid : String) :
    (ConversationsApi.parseResult json parser invalid response).accepted =
      none := by
  unfold ConversationsApi.parseResult
  split
  · rfl
  · rw [if_neg (by simp [notOk])]
    rfl

/-- The answer to a reservation is read. -/
theorem accepted_uploadInit (roundTrips : json.RoundTrips) :
    (AttachmentsApi.uploadInit json
        (server.handleUploadInit json).1).accepted =
      some ⟨server.newAttachmentId,
        QString.literal "/blob/" ++ server.newAttachmentId⟩ := by
  let object : QJsonObject :=
    [stringMember "attachment_id" server.newAttachmentId,
      stringMember "blob_path"
        (QString.literal "/blob/" ++ server.newAttachmentId)]
  have distinct : object.keys.Nodup := by
    change [QString.literal "attachment_id",
      QString.literal "blob_path"].Nodup
    decide
  have flat : object.Flat := by
    intro member within
    rcases List.mem_cons.mp within with rfl | within
    · exact Or.inl ⟨_, rfl⟩
    · rw [List.mem_singleton.mp within]
      exact Or.inl ⟨_, rfl⟩
  obtain ⟨members, parsed, read⟩ := roundTrips object flat distinct
  have reads := @getString_of_read _ members distinct read
  have success : (server.handleUploadInit json).1.ok = true := rfl
  rw [AttachmentsApi.uploadInit, ConversationsApi.parseResult,
    JsonCodec.parseObject]
  rw [show json.parse (server.handleUploadInit json).1.body = .ok members
    from parsed]
  dsimp only
  rw [if_pos success, parseAttachmentUploadInitResponse, reads (.head _),
    reads (.tail _ (.head _))]
  rfl

/-- Only a request that puts something writes a chunk. -/
theorem chunkTarget_of_ne
    {request : ServerRequest}
    (other : request.method ≠ QString.literal "PUT") :
    chunkTarget request = none :=
  if_neg fun facts => other facts.2.2

end Requests

end Integration
end VoxDesktop
