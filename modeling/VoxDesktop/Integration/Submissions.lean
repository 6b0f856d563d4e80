import VoxDesktop.Integration.Postings

/-!
# Submissions and polls at the server

What the server makes of a submission of a client, and what a client gets in
a poll.
-/

namespace VoxDesktop
namespace Integration

open Library Qt Crypto Network Storage Services AuthService Application
  MessageSendService ServiceLocator FakeVoxServer

/-! ## Envelopes that are accepted -/

section Accepted

variable {json : QJsonDocument} {server : FakeVoxServer}
  {request : ServerRequest} {moment : Moment}

/-- The user of a request is one that a token was issued to. -/
theorem FakeVoxServer.WellFormed.authUser_ascii
    (wellFormed : server.WellFormed) (headers : List (QString × QString)) :
    IsAsciiText (server.authUserFromHeaders headers) := by
  have noUser : IsAsciiText [] := by decide
  unfold authUserFromHeaders
  split
  · exact noUser
  dsimp only
  split
  · rw [QHash.valueOr]
    cases issued : server.m_userByAccessToken.lookup
        ((headerValue headers (QString.literal "Authorization")).drop
          bearerPrefix.length) with
    | none => exact noUser
    | some userId =>
        obtain ⟨_, account, there⟩ := wellFormed.access _ _ issued
        obtain ⟨number, rfl⟩ := wellFormed.userIdOf_of_isAccountOf there
        exact isAsciiText_userIdOf number
  · exact noUser

theorem toInt_lt (value : QJsonValue) : value.toInt 0 < 2147483648 := by
  unfold QJsonValue.toInt
  split
  · split
    · rename_i bounds
      exact bounds.2.2
    · omega
  · omega

theorem isWritable_accepted
    {ι : Type} (wellFormed : server.WellFormed)
    (readable : SystemEvent.Readable json
      (.server (.request request moment) : SystemEvent ι))
    {envelope : Envelope}
    (accepted : server.acceptedEnvelope json request moment =
      some envelope) :
    envelope.IsWritable := by
  rw [acceptedEnvelope] at accepted
  split at accepted
  · obtain ⟨object, parsed, rfl⟩ := Option.map_eq_some_iff.mp accepted
    obtain ⟨clock, fields⟩ := readable
    obtain ⟨envelopeId, conversationId, deviceId, ciphertext, kind⟩ :=
      fields object parsed
    refine ⟨?_, conversationId, (wellFormed.authUser_ascii _).isUtf16,
      deviceId, ciphertext, clock, kind, toInt_lt _⟩
    rw [receivedEnvelope]
    dsimp only
    split
    · exact ((show IsAsciiText (QString.literal "env_") by decide).append
        (isAsciiText_number _)).isUtf16
    · exact envelopeId
  · contradiction

end Accepted

/-! ## A submission -/

/-- The request of a submission as the server gets it. -/
def submittedRequest
    (json : QJsonDocument) (network : NetworkAccess)
    (context : AuthContext) (conversationId text envelopeId : QString) :
    ServerRequest :=
  posted network ApiPaths.kMessagesSend
    (JsonCodec.toBytes json
      (submittedEnvelope context conversationId text envelopeId).toJson)

/-- The envelope that the server makes of it. -/
def submittedAs
    (context : AuthContext) (conversationId text envelopeId : QString)
    (moment : Moment) : Envelope where
  envelopeId := envelopeId
  conversationId := conversationId
  senderUserId := context.userId
  senderDeviceId := context.deviceId
  ciphertext := encryptForTransport text
  serverTimestamp := moment.currentSecs
  envelopeType := 0

section Submitted

variable {json : QJsonDocument} {toLower : QString → QString}
  {server : FakeVoxServer} {client : Client} {service : AuthService}
  {context : AuthContext} {conversationId text : QString}
  {rules : Option PostingRules} {outcome : SendOutcome}

/-- The server reads what the client has written. -/
theorem parseJson_submitted
    (roundTrips : json.RoundTrips) (envelopeId : QString) :
    ∃ object,
      parseJson json
          (JsonCodec.toBytes json
            (submittedEnvelope context conversationId text
              envelopeId).toJson) = some object ∧
        stringField object "envelope_id" = envelopeId ∧
        stringField object "conversation_id" = conversationId ∧
        stringField object "device_id" = context.deviceId ∧
        stringField object "ciphertext" = encryptForTransport text ∧
        (object.value (QString.literal "envelope_type")).toInt 0 = 0 := by
  let members : QJsonObject :=
    [stringMember "device_id" context.deviceId,
      stringMember "conversation_id" conversationId,
      stringMember "ciphertext" (encryptForTransport text),
      stringMember "envelope_id" envelopeId,
      (QString.literal "envelope_type", .double ((0 : ℕ) : ℚ))]
  have distinct : members.keys.Nodup := by
    change [QString.literal "device_id", QString.literal "conversation_id",
      QString.literal "ciphertext", QString.literal "envelope_id",
      QString.literal "envelope_type"].Nodup
    decide
  have flat : members.Flat := by
    intro member within
    simp only [members, List.mem_cons, List.not_mem_nil, or_false] at within
    rcases within with rfl | rfl | rfl | rfl | rfl
    · exact Or.inl ⟨_, rfl⟩
    · exact Or.inl ⟨_, rfl⟩
    · exact Or.inl ⟨_, rfl⟩
    · exact Or.inl ⟨_, rfl⟩
    · exact Or.inr ⟨0, rfl⟩
  have same : (submittedEnvelope context conversationId text
      envelopeId).toJson = members :=
    QJsonObject.ofMembers_of_nodup distinct
  obtain ⟨object, parsed, read⟩ := roundTrips members flat distinct
  have distinctRead : object.keys.Nodup :=
    ((read.map Prod.fst).nodup_iff).mpr distinct
  have values : ∀ {key : QString} {value : QJsonValue},
      (key, value) ∈ members → object.value key = value :=
    fun within => QJsonObject.value_of_mem distinctRead
      (read.mem_iff.mpr within)
  refine ⟨object, ?_, ?_, ?_, ?_, ?_, ?_⟩
  · rw [same, JsonCodec.toBytes, parseJson, parsed]
  · rw [stringField, values (.tail _ (.tail _ (.tail _ (.head _))))]
    rfl
  · rw [stringField, values (.tail _ (.head _))]
    rfl
  · rw [stringField, values (.head _)]
    rfl
  · rw [stringField, values (.tail _ (.tail _ (.head _)))]
    rfl
  · rw [values (.tail _ (.tail _ (.tail _ (.tail _ (.head _)))))]
    rfl

/-- If the server accepts a submission under a session that it recognises, it
appends the envelope under the user of the session. -/
theorem acceptedEnvelope_submitted
    (roundTrips : json.RoundTrips)
    (wellFormed : server.WellFormed)
    (recognised : Recognised server context)
    {network : NetworkAccess}
    (bearer : network.m_bearerToken = context.accessToken)
    {envelopeId : QString} (named : envelopeId ≠ []) {moment : Moment}
    {envelope : Envelope}
    (accepted :
      server.acceptedEnvelope json
          (submittedRequest json network context conversationId text
            envelopeId) moment =
        some envelope) :
    envelope =
      submittedAs context conversationId text envelopeId moment := by
  rw [acceptedEnvelope] at accepted
  split at accepted
  · rename_i facts
    have signedIn := facts.2.2.1
    have notForced : server.m_forceUnauthorized = false := by
      by_contra forced
      rw [Bool.not_eq_false] at forced
      rw [authUserFromHeaders, if_pos forced] at signedIn
      exact signedIn rfl
    have carried : network.m_bearerToken ≠ [] := by
      rw [bearer]
      exact wellFormed.ne_nil_of_issued recognised.access
    have user : server.authUserFromHeaders
        (submittedRequest json network context conversationId text
          envelopeId).headers = context.userId := by
      refine authUserFromHeaders_of_headerValue notForced
        (headerValue_execute carried (QString.literal "POST")
          ApiPaths.kMessagesSend [] (QString.literal "application/json")) ?_
      rw [bearer]
      exact recognised.access
    rw [user] at accepted
    obtain ⟨object, parsed, rfl⟩ := Option.map_eq_some_iff.mp accepted
    obtain ⟨read, parsedRead, hasId, hasConversation, hasDevice,
      hasCiphertext, hasType⟩ := @parseJson_submitted json context
        conversationId text roundTrips envelopeId
    obtain rfl : read = object :=
      Option.some.inj (parsedRead.symm.trans parsed)
    rw [receivedEnvelope, submittedAs, hasId, hasConversation, hasDevice,
      hasCiphertext, hasType, if_neg named]
  · contradiction

/-- Its text is the one that was submitted. -/
theorem ofEnvelope_submittedAs
    (wellFormed : IsUtf16 text) (nonempty : text ≠ [])
    (noMark : text.head? ≠ some 0xFEFF)
    (envelopeId : QString) (moment : Moment) :
    Posting.ofEnvelope
        (submittedAs context conversationId text envelopeId moment) =
      ⟨envelopeId, conversationId, context.userId, context.deviceId,
        toUtf8 text⟩ := by
  have readable : cachedText
      (submittedAs context conversationId text envelopeId
        moment).listed.toEnvelopeDto = toUtf8 text := by
    rw [cachedText]
    dsimp only [Envelope.listed, submittedAs]
    rw [(decryptForUi_encryptForTransport_iff wellFormed nonempty).mpr
      noMark]
  rw [Posting.ofEnvelope, readable]
  rfl

theorem isWritable_submittedAs
    (device : IsUtf16 context.deviceId) (user : IsUtf16 context.userId)
    (conversation : IsUtf16 conversationId)
    {envelopeId : QString} (named : IsUtf16 envelopeId) {moment : Moment}
    (clock : moment.currentSecs < 9007199254740992) :
    (submittedAs context conversationId text envelopeId
      moment).IsWritable := by
  have kind : (0 : ℤ) ≤ 0 ∧ (0 : ℤ) < 2147483648 := by decide
  refine ⟨named, conversation, user, device, ?_, clock, kind⟩
  rw [submittedAs, encryptForTransport_eq]
  exact (isAsciiText_fromUtf8 (transportOctets_ascii text)).isUtf16

/-- A submission that makes a request has a session and a text. -/
theorem submitted_request
    {request : HttpRequest}
    (made :
      (client.submitted json toLower conversationId text rules outcome).1 =
        some request) :
    ∃ service context,
      client.locator.m_authService = some service ∧
        service.m_context = some context ∧ text ≠ [] ∧
        request =
          ConversationsApi.sendEnvelopeRequest json service.m_network
            (submittedEnvelope context conversationId text
              outcome.envelopeId) := by
  obtain ⟨context, network, isContext, isNetwork, sent⟩ :=
    submitMessage_request made
  obtain ⟨service, active, rfl⟩ := Option.map_eq_some_iff.mp isNetwork
  have inService : service.m_context = some context := by
    rw [ServiceLocator.context, active] at isContext
    exact isContext
  refine ⟨service, context, active, inService, ?_, sent⟩
  rintro rfl
  unfold Client.submitted submitMessage at made
  rw [isContext, isNetwork] at made
  dsimp only at made
  split at made
  · contradiction
  · contradiction

/-- The request does not depend on the response. -/
theorem submitted_request_eq (response : NetworkResponse) :
    (client.submitted json toLower conversationId text rules
        { outcome with response := response }).1 =
      (client.submitted json toLower conversationId text rules
        outcome).1 := by
  unfold Client.submitted submitMessage
  split
  · rfl
  split
  · rfl
  dsimp only
  split
  · rfl
  unfold sendMessage
  split
  · rfl
  split
  · rfl
  · rfl

/-- A submission that makes a request stores its message, marked as sent
exactly when the response is a success. -/
theorem submitted_messages
    {request : HttpRequest}
    (made :
      (client.submitted json toLower conversationId text rules outcome).1 =
        some request)
    (active : client.locator.m_authService = some service)
    (isContext : service.m_context = some context) :
    (client.submitted json toLower conversationId text rules
        outcome).2.2.messages =
      (MessagesRepository.upsertMessage client.tables.messages
        (sentMessage json conversationId context.deviceId
          (encryptForTransport text) (toUtf8 text) outcome
          (if (ConversationsApi.sendEnvelope json outcome.response).ok then
            .sentToServer
          else .queued)) outcome.upserted).2 := by
  have inLocator : client.locator.context = some context := by
    rw [ServiceLocator.context, active]
    exact isContext
  unfold Client.submitted submitMessage at made ⊢
  rw [inLocator, active] at made ⊢
  dsimp only [Option.map_some] at made ⊢
  split at made
  · contradiction
  rename_i permitted
  rw [if_neg permitted]
  unfold sendMessage at made ⊢
  split at made
  · contradiction
  rename_i nonempty
  split at made
  · contradiction
  rename_i complete
  rw [if_neg nonempty, if_neg complete, sendAndStore]
  dsimp only
  split <;> rfl

/-- What a send appends, if it is transmitted: what the server accepts.  It
is there when the client gets a success. -/
theorem exchanged_send
    (network : NetworkAccess) (body : QByteArray) (exchange : Exchange) :
    let request := network.postJson ApiPaths.kMessagesSend body
    let result := exchanged json server network (request, []) exchange
    ∃ appended : Option Envelope,
      result.2.m_envelopes = server.m_envelopes ++ appended.toList ∧
        (∀ envelope, appended = some envelope →
          server.acceptedEnvelope json
              (posted network ApiPaths.kMessagesSend body) exchange.moment =
            some envelope) ∧
        (result.1.ok = true → appended ≠ none) := by
  intro request result
  have isSend : trimQuery ApiPaths.kMessagesSend = sendRoute := by decide
  have sameRequest : serverRequest network request [] =
      posted network ApiPaths.kMessagesSend body :=
    serverRequest_postJson network rfl body
  unfold result exchanged
  dsimp only
  rw [sameRequest]
  obtain ⟨moment, delivered | errorMessage | errorMessage⟩ := exchange
  · refine ⟨_, handle_envelopes, fun _ same => same, fun works => ?_⟩
    obtain ⟨envelope, accepted⟩ := accepted_of_send_ok isSend rfl works
    rw [accepted]
    simp
  · refine ⟨none, (List.append_nil _).symm, by simp, ?_⟩
    exact fun works => absurd works (by simp [failedResponse,
      NetworkResponse.ok, kHttpStatusOkMin])
  · refine ⟨_, handle_envelopes, fun _ same => same, ?_⟩
    exact fun works => absurd works (by simp [failedResponse,
      NetworkResponse.ok, kHttpStatusOkMin])

theorem ok_of_sendEnvelope_ok
    {response : NetworkResponse}
    (works : (ConversationsApi.sendEnvelope json response).ok = true) :
    response.ok = true := by
  rw [ConversationsApi.sendEnvelope, ConversationsApi.parseResult] at works
  split at works
  · contradiction
  · split at works
    · assumption
    · contradiction

/-- A submission without a request changes nothing.  One with a request
appends what the server accepts, and stores a message of its text. -/
theorem submitStep_cases (exchange : Exchange) :
    let result :=
      submitStep json toLower server client conversationId text rules outcome
        exchange
    let made :=
      (client.submitted json toLower conversationId text rules outcome).1
    made = none ∧ result.2 = (server, client) ∨
      made ≠ none ∧
        ∃ service context appended message,
          client.locator.m_authService = some service ∧
          service.m_context = some context ∧ text ≠ [] ∧
          result.2.1.m_envelopes =
            server.m_envelopes ++ Option.toList appended ∧
          (∀ envelope, appended = some envelope →
            server.acceptedEnvelope json
                (submittedRequest json service.m_network context
                  conversationId text outcome.envelopeId) exchange.moment =
              some envelope) ∧
          result.2.2.tables.messages =
            (MessagesRepository.upsertMessage client.tables.messages message
              outcome.upserted).2 ∧
          Shows (MessagesRepository.rowOf message)
            ⟨outcome.envelopeId, conversationId, context.userId,
              context.deviceId, toUtf8 text⟩ ∧
          (message.deliveryState = .sentToServer → appended ≠ none) := by
  intro result made
  unfold result submitStep
  cases isMade : made with
  | none =>
      left
      refine ⟨rfl, ?_⟩
      dsimp only
      rw [show (client.submitted json toLower conversationId text rules
        outcome).1 = none from isMade]
      split
      · contradiction
      · rfl
  | some request =>
      right
      obtain ⟨service, context, active, isContext, nonempty, rfl⟩ :=
        submitted_request isMade
      obtain ⟨appended, log, accepted, present⟩ :=
        @exchanged_send json server service.m_network
          (JsonCodec.toBytes json (submittedEnvelope context conversationId
            text outcome.envelopeId).toJson) exchange
      dsimp only
      rw [show (client.submitted json toLower conversationId text rules
        outcome).1 = _ from isMade, active, Option.map_some]
      dsimp only
      refine ⟨by simp, service, context, appended, _, rfl, isContext,
        nonempty, log, accepted,
        submitted_messages ((submitted_request_eq _).trans isMade) active
          isContext, ⟨rfl, rfl, rfl, rfl⟩, ?_⟩
      dsimp only [sentMessage]
      intro isSent
      split at isSent
      · rename_i works
        exact present (ok_of_sendEnvelope_ok works)
      · contradiction

end Submitted

/-! ## A poll -/

/-- A query is no part of the route. -/
theorem trimQuery_append
    {path : QString} (plain : (0x3F : UInt16) ∉ path) (rest : QString) :
    trimQuery (path ++ 0x3F :: rest) = path := by
  unfold trimQuery
  induction path with
  | nil => simp [upTo, List.isPrefixOf]
  | cons unit path inductionHypothesis =>
      rw [List.mem_cons, not_or] at plain
      rw [List.cons_append, upTo, if_neg, inductionHypothesis plain.2]
      simp [List.isPrefixOf, plain.1]

section Polls

variable {json : QJsonDocument} {server : FakeVoxServer}

theorem handle_pending
    {request : ServerRequest} {moment : Moment}
    (route : trimQuery request.path = ApiPaths.kSyncPending)
    (isGet : request.method = QString.literal "GET") :
    server.handle json request moment =
      if server.authUserFromHeaders request.headers = [] then
        (unauthorized json, server)
      else (okResponse json server.pendingObject, server) := by
  have notPost : request.method ≠ QString.literal "POST" := by
    rw [isGet]
    decide
  have session : ∀ userId,
      server.handleSession json userId request moment ApiPaths.kSyncPending =
        (okResponse json server.pendingObject, server) := by
    intro userId
    unfold handleSession
    dsimp only
    rw [if_neg fun facts => absurd facts.1 (by decide),
      if_neg fun facts => notPost facts.2,
      if_neg fun facts => notPost facts.2, if_pos ⟨rfl, isGet⟩]
  unfold handle
  dsimp only
  rw [route]
  iterate 6 rw [if_neg fun facts => absurd facts.1 (by decide)]
  rw [session]
  split
  · rename_i forced
    rw [authUserFromHeaders, if_pos forced, if_pos rfl]
  · rfl

theorem accepted_pendingEnvelopes_of_not_ok
    {response : NetworkResponse} (notOk : response.ok = false) :
    (ConversationsApi.pendingEnvelopes json response).accepted = none := by
  unfold ConversationsApi.pendingEnvelopes ConversationsApi.parseResult
  split
  · rfl
  · rw [if_neg (by simp [notOk])]
    rfl

/-- A poll is applied, and then to the whole log, or it changes no message;
the server stays as it is. -/
theorem pollStep_cases
    (nested : json.RoundTripsNested)
    (writable : ∀ envelope ∈ server.m_envelopes, envelope.IsWritable)
    (client : Client) (ui : UiState)
    (answers : EnvelopeDto → EnvelopeAnswers) (exchange : Exchange) :
    let result := pollStep json server client ui answers exchange
    result.2.1 = server ∧
      (result.1.applied = false ∧
          result.2.2.tables = client.tables ∨
        result.1.applied = true ∧
          result.2.2.tables.messages =
            applyEnvelopes ui client.locator.context client.tables.messages
              (server.m_envelopes.map fun envelope =>
                arrivalOf answers envelope.listed.toEnvelopeDto)) := by
  intro result
  unfold result pollStep
  cases active : client.locator.m_authService with
  | none => exact ⟨rfl, Or.inl ⟨rfl, rfl⟩⟩
  | some service =>
      dsimp only
      let request := ConversationsApi.pendingEnvelopesRequest
        service.m_network kPendingEnvelopesPageSize client.pendingCursor
      have route : trimQuery
          (serverRequest service.m_network request.1 request.2).path =
            ApiPaths.kSyncPending := by
        have plain : (0x3F : UInt16) ∉ ApiPaths.kSyncPending := by decide
        have path : (serverRequest service.m_network request.1
            request.2).path =
              ApiPaths.kSyncPending ++ 0x3F :: queryString request.2 := by
          have absolute : ApiPaths.kSyncPending.head? = some 0x2F := rfl
          simp only [serverRequest, request,
            ConversationsApi.pendingEnvelopesRequest, NetworkAccess.get,
            NetworkAccess.execute, if_pos absolute, List.drop_left,
            List.cons_ne_nil, if_false]
        rw [path]
        exact trimQuery_append plain _
      have handled := @handle_pending json server
        (serverRequest service.m_network request.1 request.2)
        exchange.moment route rfl
      have lost : ∀ errorMessage,
          (ConversationsApi.pendingEnvelopes json
            (failedResponse errorMessage)).accepted = none :=
        fun errorMessage => accepted_pendingEnvelopes_of_not_ok rfl
      have refused : (ConversationsApi.pendingEnvelopes json
          (unauthorized json)).accepted = none :=
        accepted_pendingEnvelopes_of_not_ok
          (errorResponse_not_ok _ _ (Or.inr (by decide)))
      have same : (server.handle json
          (serverRequest service.m_network request.1 request.2)
            exchange.moment).2 = server := by
        rw [handled]
        split <;> rfl
      obtain ⟨moment, delivered | errorMessage | errorMessage⟩ := exchange
      · dsimp only [exchanged] at handled ⊢
        by_cases noUser : server.authUserFromHeaders
            (serverRequest service.m_network request.1 request.2).headers = []
        · rw [if_pos noUser] at handled
          rw [handled, refused]
          exact ⟨rfl, Or.inl ⟨rfl, rfl⟩⟩
        · rw [if_neg noUser] at handled
          rw [handled, accepted_pendingEnvelopes nested writable]
          refine ⟨rfl, Or.inr ⟨rfl, ?_⟩⟩
          dsimp only
          rw [List.map_map]
          rfl
      · dsimp only [exchanged]
        rw [lost]
        exact ⟨rfl, Or.inl ⟨rfl, rfl⟩⟩
      · dsimp only [exchanged]
        rw [lost]
        exact ⟨same, Or.inl ⟨rfl, rfl⟩⟩

end Polls

end Integration
end VoxDesktop
