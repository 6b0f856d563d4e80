import VoxDesktop.Application.Handlers
import VoxDesktop.Application.SubmittedMessages
import VoxDesktop.Integration.AccountRuns
import VoxDesktop.Qt.AsciiText

/-!
# Clients and their server

Any number of clients that reach one server through the custom handler of
their HTTP access.  A client is the services of its process, over what earlier
processes have left, with its tables of messages and jobs.  Requests and
answers may get lost, and anyone else may send the server any request in
between.
-/

namespace VoxDesktop
namespace Integration

open Library Qt Crypto Network Storage Services AuthService Application
  MessageSendService FakeVoxServer

/-! ## Requests through the custom handler -/

/-- An octet that `QUrl::FullyEncoded` leaves in a query item. -/
def isPlainInQuery (octet : UInt8) : Bool :=
  (isUnreserved octet && octet ≠ 0x20) ||
    (QByteArray.literal "!$'()*+,;:@/?").contains octet

def upperHexDigit (value : ℕ) : UInt8 :=
  UInt8.ofNat (if value < 10 then 0x30 + value else 0x41 + (value - 10))

def escaped (octet : UInt8) : QByteArray :=
  [0x25, upperHexDigit (octet.toNat / 16), upperHexDigit (octet.toNat % 16)]

def encodedOctet (octet : UInt8) : QByteArray :=
  if isPlainInQuery octet then [octet] else escaped octet

/-- Encoding loop; the first argument counts the digits that the escape read
last has already used.  An escape stays, but that of an unreserved octet. -/
def encodeLoop : ℕ → QByteArray → QByteArray
  | _, [] => []
  | used + 1, _ :: rest => encodeLoop used rest
  | 0, octet :: rest =>
      match escapedOctet octet rest with
      | some decoded =>
          (if isUnreserved decoded && decoded ≠ 0x20 then [decoded]
            else escaped decoded) ++ encodeLoop 2 rest
      | none => encodedOctet octet ++ encodeLoop 0 rest

/-- An item of a query, where a lone percent sign makes all of them stand for
themselves. -/
def fullyEncoded (text : QString) : QString :=
  fromLatin1
    (if hasLonePercent text then (toUtf8 text).flatMap encodedOctet
      else encodeLoop 0 (toUtf8 text))

example :
    fullyEncoded (QString.literal "a b%2f%41") =
      QString.literal "a%20b%2FA" := by
  decide

/-- `query.toString(QUrl::FullyEncoded)`. -/
def queryString (query : QUrlQuery) : QString :=
  [0x26].intercalate
    (query.map fun item => fullyEncoded item.1 ++ 0x3D :: fullyEncoded item.2)

/-- What `execute` hands to the custom handler. -/
def serverRequest
    (network : NetworkAccess) (request : HttpRequest) (query : QUrlQuery) :
    ServerRequest where
  method := request.method
  path :=
    request.url.drop network.m_baseUrl.length ++
      if query = [] then [] else 0x3F :: queryString query
  body := request.body
  headers := request.headers

inductive Transmission
  | delivered
  /-- The request gets lost on its way, or the answer does. -/
  | requestLost (errorMessage : QString)
  | answerLost (errorMessage : QString)

/-- What happens around a request of a client. -/
structure Exchange where
  moment : Moment
  transmission : Transmission

/-- The response of a request that fails in transport. -/
def failedResponse (errorMessage : QString) : NetworkResponse :=
  ⟨0, [], errorMessage⟩

/-- The response that a client gets, and the server after its request. -/
def exchanged
    (json : QJsonDocument) (server : FakeVoxServer) (network : NetworkAccess)
    (request : HttpRequest × QUrlQuery) (exchange : Exchange) :
    NetworkResponse × FakeVoxServer :=
  let handled :=
    server.handle json (serverRequest network request.1 request.2)
      exchange.moment
  match exchange.transmission with
  | .delivered => handled
  | .requestLost errorMessage => (failedResponse errorMessage, server)
  | .answerLost errorMessage => (failedResponse errorMessage, handled.2)

theorem failedResponse_not_ok (errorMessage : QString) :
    (failedResponse errorMessage).ok = false := by
  simp [failedResponse, NetworkResponse.ok, kHttpStatusOkMin]

/-- A request is handled or lost, and a lost answer is no success. -/
theorem exchanged_cases
    (json : QJsonDocument) (server : FakeVoxServer) (network : NetworkAccess)
    (request : HttpRequest × QUrlQuery) (exchange : Exchange) :
    let handled :=
      server.handle json (serverRequest network request.1 request.2)
        exchange.moment
    let result := exchanged json server network request exchange
    result.1.ok = false ∧ result.2 = server ∨
      result.1.ok = false ∧ result.2 = handled.2 ∨ result = handled := by
  intro handled result
  obtain ⟨moment, delivered | errorMessage | errorMessage⟩ := exchange
  · exact Or.inr (Or.inr rfl)
  · exact Or.inl ⟨failedResponse_not_ok _, rfl⟩
  · exact Or.inr (Or.inl ⟨failedResponse_not_ok _, rfl⟩)

/-! ## Clients -/

/-- The call with another response of the server. -/
def answered (response : NetworkResponse) : AuthCall → AuthCall
  | .registerUser username passwordDerived outcome =>
      .registerUser username passwordDerived
        { outcome with response := response }
  | .login username passwordDerived outcome =>
      .login username passwordDerived { outcome with response := response }
  | .restoreSession outcome =>
      .restoreSession { outcome with response := response }
  | .logout outcome => .logout { outcome with response := response }

structure Client where
  locator : ServiceLocator
  tables : Tables := ⟨Table.empty, ⟨[], 0⟩⟩
  pendingCursor : QString := []

/-- What the handler of a submission gives for a client. -/
def Client.submitted
    (json : QJsonDocument) (toLower : QString → QString)
    (client : Client) (conversationId text : QString)
    (rules : Option PostingRules) (outcome : SendOutcome) :
    Option HttpRequest × Bool × Tables :=
  submitMessage json toLower
    (client.locator.m_authService.map AuthService.m_network)
    client.locator.context conversationId rules client.tables text outcome

/-- What the application asks about an envelope while it applies it. -/
structure EnvelopeAnswers where
  summary : ApiResult ConversationSummaryDto
  resolved : ApiResult DirectoryUser
  upserted : Bool

def arrivalOf
    (answers : EnvelopeDto → EnvelopeAnswers) (envelope : EnvelopeDto) :
    EnvelopeArrival where
  envelope := envelope
  summary := (answers envelope).summary
  resolved := (answers envelope).resolved
  upserted := (answers envelope).upserted

structure System (ι : Type) where
  server : FakeVoxServer := {}
  clients : ι → Client

inductive SystemEvent (ι : Type)
  /-- A request of anyone else, or a switch of the tests. -/
  | server (event : ServerEvent)
  /-- A new process of the client is initialized. -/
  | initialized (client : ι) (serverBaseUrl vaultPassword : QString)
      (outcome : InitializeOutcome)
  | call (client : ι) (call : AuthCall) (exchange : Exchange)
  | submit (client : ι) (conversationId text : QString)
      (rules : Option PostingRules) (outcome : SendOutcome)
      (exchange : Exchange)
  | poll (client : ι) (ui : UiState)
      (answers : EnvelopeDto → EnvelopeAnswers) (exchange : Exchange)

/-- The name that a call has got from the user. -/
def typedUsername : AuthCall → QString
  | .registerUser username _ _ => username
  | .login username _ _ => username
  | _ => []

section Events

variable {ι : Type}

/-- A process opens the vault of its client with one of the passwords of the
client, and what is typed or drawn is well-formed text. -/
def SystemEvent.Allowed (passwords : ι → List QString) : SystemEvent ι → Prop
  | .initialized client _ vaultPassword outcome =>
      vaultPassword ∈ passwords client ∧ IsUtf16 outcome.uuid
  | .call _ authCall _ => IsUtf16 (typedUsername authCall)
  | _ => True

/-- The client that an event belongs to, if to any. -/
def SystemEvent.client : SystemEvent ι → Option ι
  | .server _ => none
  | .initialized client _ _ _ => some client
  | .call client _ _ => some client
  | .submit client _ _ _ _ _ => some client
  | .poll client _ _ _ => some client

end Events

/-- What an event shows: the call of the authentication service, whether the
client learns that its message is sent, and whether it has applied a batch. -/
structure SystemReport where
  auth : AuthReport := {}
  sent : Bool := false
  applied : Bool := false

section Steps

variable (json : QJsonDocument) (sodium : Sodium)
  (sha256 : QByteArray → List.Vector UInt8 kSha256Bytes)
  (toLower : QString → QString) (appDataPath : QString)

/-- The call with the answer that the server gives to its request, and the
server after it. -/
def answeredCall
    (server : FakeVoxServer) (service : AuthService) (call : AuthCall)
    (exchange : Exchange) : AuthCall × FakeVoxServer :=
  match (service.step json sodium sha256 call).1.posted with
  | none => (call, server)
  | some request =>
      let response :=
        exchanged json server service.m_network (request, []) exchange
      (answered response.1 call, response.2)

/-- A call of the authentication service. -/
def callStep
    (server : FakeVoxServer) (client : Client) (call : AuthCall)
    (exchange : Exchange) : SystemReport × FakeVoxServer × Client :=
  match client.locator.m_authService with
  | none => ({}, server, client)
  | some service =>
      let answered :=
        answeredCall json sodium sha256 server service call exchange
      let result := client.locator.callAuth json sodium sha256 answered.1
      ({ auth := result.1 }, answered.2, { client with locator := result.2 })

/-- The handler of `sendMessageSubmitted`, with the answer that the server
gives to its request. -/
def submitStep
    (server : FakeVoxServer) (client : Client)
    (conversationId text : QString) (rules : Option PostingRules)
    (outcome : SendOutcome) (exchange : Exchange) :
    SystemReport × FakeVoxServer × Client :=
  let submitted := client.submitted json toLower conversationId text rules
  match client.locator.m_authService.map AuthService.m_network,
    (submitted outcome).1 with
  | some network, some request =>
      let response := exchanged json server network (request, []) exchange
      let result :=
        submitted { outcome with response := response.1 }
      ({ sent := result.2.1 }, response.2,
        { client with tables := result.2.2 })
  | _, _ => ({}, server, client)

/-- The handler of the poll timer, with the answer that the server gives to
its request. -/
def pollStep
    (server : FakeVoxServer) (client : Client) (ui : UiState)
    (answers : EnvelopeDto → EnvelopeAnswers) (exchange : Exchange) :
    SystemReport × FakeVoxServer × Client :=
  match client.locator.m_authService with
  | none => ({}, server, client)
  | some service =>
      let request :=
        ConversationsApi.pendingEnvelopesRequest service.m_network
          kPendingEnvelopesPageSize client.pendingCursor
      let response :=
        exchanged json server service.m_network request exchange
      match (ConversationsApi.pendingEnvelopes json response.1).accepted with
      | none => ({}, response.2, client)
      | some batch =>
          ({ applied := true }, response.2,
            { client with
              pendingCursor := batch.nextCursor
              tables := { client.tables with
                messages :=
                  applyEnvelopes ui client.locator.context
                    client.tables.messages
                    (batch.envelopes.map fun envelope =>
                      arrivalOf answers envelope.toEnvelopeDto) } })

variable {ι : Type} [DecidableEq ι]

/-- The system after a step of one client. -/
def System.ofClient
    (system : System ι) (client : ι)
    (result : SystemReport × FakeVoxServer × Client) :
    SystemReport × System ι :=
  (result.1, ⟨result.2.1, Function.update system.clients client result.2.2⟩)

def systemStep (system : System ι) :
    SystemEvent ι → SystemReport × System ι
  | .server event =>
      ({}, { system with server := (serverStep json system.server event).2 })
  | .initialized client serverBaseUrl vaultPassword outcome =>
      let before := system.clients client
      let made :=
        ServiceLocator.initializeServices json sodium appDataPath
          serverBaseUrl vaultPassword before.locator.data outcome
      system.ofClient client
        ({}, system.server,
          { before with locator := made.2, pendingCursor := [] })
  | .call client call exchange =>
      system.ofClient client
        (callStep json sodium sha256 system.server (system.clients client)
          call exchange)
  | .submit client conversationId text rules outcome exchange =>
      system.ofClient client
        (submitStep json toLower system.server (system.clients client)
          conversationId text rules outcome exchange)
  | .poll client ui answers exchange =>
      system.ofClient client
        (pollStep json system.server (system.clients client) ui answers
          exchange)

/-- A system of clients that start on their data directories. -/
def System.start (starts : ι → AppData) : System ι where
  clients client := ⟨⟨starts client, none⟩, ⟨Table.empty, ⟨[], 0⟩⟩, []⟩

def systemAfter (starts : ι → AppData) (events : List (SystemEvent ι)) :
    System ι :=
  Machine.run (systemStep json sodium sha256 toLower appDataPath)
    (.start starts) events

end Steps

end Integration
end VoxDesktop
