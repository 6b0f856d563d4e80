import Mathlib.Data.List.AList
import VoxDesktop.Network.AttachmentsApi
import VoxDesktop.Network.ConversationQueries
import VoxDesktop.Qt.PercentEncoding

/-!
# The server of the integration tests

`tests/integration/FakeVoxServer`: its tables, and the routes of `Handle` in
the order in which it tries them.  The clock and the order in which the table
of accounts is iterated are arguments of a request.
-/

namespace VoxDesktop
namespace Integration

open Qt Network

def kHttpOk : ℤ := 200
def kHttpBadRequest : ℤ := 400
def kHttpUnauthorized : ℤ := 401
def kHttpNotFound : ℤ := 404
def kHttpConflict : ℤ := 409
def kHttpServiceUnavailable : ℤ := 503

def kErrorCodeQueueFull : ℕ := 9

def kFakeConversationCreatedAt : ℕ := 1710000000

/-! ## Paths and queries -/

/-- The text before the first occurrence of another one; all of it when there
is none. -/
def upTo (needle : QString) : QString → QString
  | [] => []
  | unit :: rest =>
      if needle.isPrefixOf (unit :: rest) then [] else unit :: upTo needle rest

/-- `TrimQuery`. -/
def trimQuery (path : QString) : QString := upTo [0x3F] path

/-- The octets that are read from an escape; others stay escaped. -/
def isUnreserved (octet : UInt8) : Bool :=
  (0x30 ≤ octet && octet ≤ 0x39) || (0x41 ≤ octet && octet ≤ 0x5A) ||
    (0x61 ≤ octet && octet ≤ 0x7A) || octet = 0x2D || octet = 0x2E ||
    octet = 0x5F || octet = 0x7E || octet = 0x20

/-- Decoding loop; the first argument counts the digits that the escape
decoded last has already used. -/
def prettyDecodeLoop : ℕ → QByteArray → QByteArray
  | _, [] => []
  | used + 1, _ :: rest => prettyDecodeLoop used rest
  | 0, octet :: rest =>
      match escapedOctet octet rest with
      | some decoded =>
          if isUnreserved decoded then decoded :: prettyDecodeLoop 2 rest
          else octet :: prettyDecodeLoop 0 rest
      | none => octet :: prettyDecodeLoop 0 rest

/-- `QUrlQuery(query).queryItemValue(name)`. -/
def queryItemValue (query name : QString) : QString :=
  match (query.splitOn 0x26).find? fun item => upTo [0x3D] item = name with
  | some item =>
      fromUtf8 (prettyDecodeLoop 0 (toUtf8 (item.drop (name.length + 1))))
  | none => []

/-- `QueryFromPath`. -/
def queryFromPath (path : QString) : QString :=
  path.drop ((trimQuery path).length + 1)

def isDigitUnit (unit : UInt16) : Bool := 0x30 ≤ unit && unit ≤ 0x39

/-- The number that a text of digits writes. -/
def digitsValue (digits : QString) : ℕ :=
  toNatural (digits.map fun unit => UInt8.ofNat unit.toNat)

/-- `QString::toLongLong`: zero for a text that is no number and for a number
out of range. -/
def toLongLong (text : QString) : ℤ :=
  let signed := trimmed text
  let negative := decide (signed.head? = some 0x2D)
  let digits :=
    if negative ∨ signed.head? = some 0x2B then signed.drop 1 else signed
  if digits = [] ∨ digits.all isDigitUnit = false then 0
  else
    let value : ℤ := digitsValue digits
    let result := if negative then -value else value
    if -9223372036854775808 ≤ result ∧ result < 9223372036854775808 then
      result
    else 0

/-- `static_cast<int>`. -/
def toInt32 (value : ℤ) : ℤ :=
  (value + 2147483648) % 4294967296 - 2147483648

/-! ## Tables -/

/-- `QHash<QString, T>`. -/
abbrev QHash (α : Type) : Type := AList fun _ : QString => α

namespace QHash

variable {α : Type}

/-- `value`, where `missing` is the default-constructed value. -/
def valueOr (hash : QHash α) (key : QString) (missing : α) : α :=
  (hash.lookup key).getD missing

def values (hash : QHash α) : List α := hash.entries.map Sigma.snd

end QHash

structure Envelope where
  envelopeId : QString
  conversationId : QString
  senderUserId : QString
  senderDeviceId : QString
  ciphertext : QString
  serverTimestamp : ℕ
  envelopeType : ℤ

structure AccountState where
  userId : QString
  username : QString
  passwordDerived : QString
  deviceId : QString
  accessToken : QString
  refreshToken : QString

/-- The server; its three counters are without the bound of an `int`. -/
structure FakeVoxServer where
  m_forceUnauthorized : Bool := false
  m_failNextSend : Bool := false
  m_userSeq : ℕ := 1
  m_envelopeSeq : ℕ := 1
  m_attachmentSeq : ℕ := 1
  m_usersByUsername : QHash AccountState := ∅
  m_userByAccessToken : QHash QString := ∅
  m_userByRefreshToken : QHash QString := ∅
  m_attachments : QHash QByteArray := ∅
  m_envelopes : List Envelope := []

/-- The arguments of `Handle`. -/
structure ServerRequest where
  method : QString
  path : QString
  body : QByteArray
  headers : List (QString × QString)

/-- What a request meets besides the tables. -/
structure Moment where
  /-- The clock when an access token and when a refresh token is made. -/
  accessMSecs : ℕ
  refreshMSecs : ℕ
  currentSecs : ℕ
  /-- The order in which accounts are iterated. -/
  iterated : List AccountState → List AccountState
  iterated_perm : ∀ accounts, (iterated accounts).Perm accounts

namespace FakeVoxServer

/-! ## Responses -/

section Responses

variable (json : QJsonDocument)

def okResponse (object : QJsonObject) : NetworkResponse :=
  ⟨kHttpOk, json.toJson object, []⟩

def numberMember (field : String) (value : ℤ) : QString × QJsonValue :=
  (QString.literal field, .double value)

def errorResponse (status : ℤ) (code : ℕ) (message : String) :
    NetworkResponse :=
  ⟨status,
    json.toJson
      [(QString.literal "error",
        .object
          [numberMember "code" code,
            stringMember "message" (QString.literal message)])],
    QString.literal message⟩

/-- `ParseJson`. -/
def parseJson (bytes : QByteArray) : Option QJsonObject :=
  match json.parse bytes with
  | .ok object => some object
  | .error _ => none

def unauthorized : NetworkResponse :=
  errorResponse json kHttpUnauthorized 2 "Unauthorized"

def invalidJson : NetworkResponse :=
  errorResponse json kHttpBadRequest 1 "Invalid JSON"

def notFound : NetworkResponse :=
  errorResponse json kHttpNotFound 3 "Not found"

end Responses

def stringField (object : QJsonObject) (field : String) : QString :=
  (object.value (QString.literal field)).toString

def bearerPrefix : QString := QString.literal "Bearer "

/-- `headers.value(name)`. -/
def headerValue (headers : List (QString × QString)) (name : QString) :
    QString :=
  match headers.find? fun header => header.1 = name with
  | some header => header.2
  | none => []

/-! ## Routes without a session -/

section Accounts

variable (json : QJsonDocument) (server : FakeVoxServer)
  (request : ServerRequest) (moment : Moment)

def authUserFromHeaders (headers : List (QString × QString)) : QString :=
  if server.m_forceUnauthorized then []
  else
    let authorization :=
      headerValue headers (QString.literal "Authorization")
    if bearerPrefix.isPrefixOf authorization then
      server.m_userByAccessToken.valueOr
        (authorization.drop bearerPrefix.length) []
    else []

/-- What both kinds of sign-in answer. -/
def sessionResponse (account : AccountState) (deviceStatus : String) :
    NetworkResponse :=
  okResponse json
    [stringMember "user_id" account.userId,
      stringMember "access_token" account.accessToken,
      stringMember "refresh_token" account.refreshToken,
      stringMember "device_status" (QString.literal deviceStatus),
      numberMember "sync_key_version" 1]

/-- The account is there under its name, and its tokens name its user. -/
def withSession (account : AccountState) : FakeVoxServer :=
  { server with
    m_usersByUsername :=
      server.m_usersByUsername.insert account.username account
    m_userByAccessToken :=
      server.m_userByAccessToken.insert account.accessToken account.userId
    m_userByRefreshToken :=
      server.m_userByRefreshToken.insert account.refreshToken
        account.userId }

def newUserId : QString :=
  QString.literal "usr_" ++ QString.number server.m_userSeq

def newAccount (username password deviceId : QString) : AccountState where
  userId := server.newUserId
  username := username
  passwordDerived := password
  deviceId := deviceId
  accessToken := QString.literal "acc_" ++ server.newUserId
  refreshToken := QString.literal "ref_" ++ server.newUserId

def handleRegister : NetworkResponse × FakeVoxServer :=
  match parseJson json request.body with
  | none => (invalidJson json, server)
  | some object =>
      let username := stringField object "username"
      let password := stringField object "password_derived_value"
      let deviceId := stringField object "device_id"
      if username = [] ∨ password = [] ∨ deviceId = [] then
        (errorResponse json kHttpBadRequest 1 "Missing fields", server)
      else
        match server.m_usersByUsername.lookup username with
        | some _ =>
            (errorResponse json kHttpConflict 4 "Username exists", server)
        | none =>
            let account := server.newAccount username password deviceId
            (sessionResponse json account "created",
              { server.withSession account with
                m_userSeq := server.m_userSeq + 1 })

/-- An account with the tokens of a new login. -/
def loggedIn (account : AccountState) (deviceId : QString) : AccountState :=
  { account with
    deviceId := deviceId
    accessToken :=
      QString.literal "acc_" ++ account.userId ++ QString.literal "_" ++
        QString.number moment.accessMSecs
    refreshToken :=
      QString.literal "ref_" ++ account.userId ++ QString.literal "_" ++
        QString.number moment.refreshMSecs }

def handleLogin : NetworkResponse × FakeVoxServer :=
  match parseJson json request.body with
  | none => (invalidJson json, server)
  | some object =>
      let username := stringField object "username"
      let password := stringField object "password_derived_value"
      let deviceId := stringField object "device_id"
      match server.m_usersByUsername.lookup username with
      | none => (unauthorized json, server)
      | some found =>
          if found.passwordDerived ≠ password then
            (unauthorized json, server)
          else
            let account := loggedIn moment found deviceId
            -- The table is written under the name of the request.
            (sessionResponse json account "existing",
              { server.withSession account with
                m_usersByUsername :=
                  server.m_usersByUsername.insert username account })

def refreshedAccess (userId : QString) : QString :=
  QString.literal "acc_" ++ userId ++ QString.literal "_ref"

def refreshedRefresh (userId : QString) : QString :=
  QString.literal "ref_" ++ userId ++ QString.literal "_ref"

def handleRefresh : NetworkResponse × FakeVoxServer :=
  match parseJson json request.body with
  | none => (invalidJson json, server)
  | some object =>
      match server.m_userByRefreshToken.lookup
        (stringField object "refresh_token") with
      | none => (unauthorized json, server)
      | some userId =>
          (okResponse json
              [stringMember "access_token" (refreshedAccess userId),
                stringMember "refresh_token" (refreshedRefresh userId)],
            { server with
              m_userByAccessToken :=
                server.m_userByAccessToken.insert (refreshedAccess userId)
                  userId
              m_userByRefreshToken :=
                server.m_userByRefreshToken.insert (refreshedRefresh userId)
                  userId })

/-- The accounts in the order of an iteration. -/
def iteratedAccounts : List AccountState :=
  moment.iterated server.m_usersByUsername.values

def meResponse (account : AccountState) : NetworkResponse :=
  okResponse json
    [stringMember "user_id" account.userId,
      stringMember "username" account.username,
      stringMember "current_device_id" account.deviceId,
      numberMember "sync_key_version" 1]

def handleMe : NetworkResponse :=
  let userId := server.authUserFromHeaders request.headers
  if userId = [] then unauthorized json
  else
    match (server.iteratedAccounts moment).find? fun account =>
      account.userId = userId with
    | some account => meResponse json account
    | none => notFound json

end Accounts

/-! ## Routes with a session -/

section Sessions

variable (json : QJsonDocument) (server : FakeVoxServer)
  (userId : QString) (request : ServerRequest) (moment : Moment)

def conversationsResponse : NetworkResponse :=
  okResponse json
    [(QString.literal "conversations",
      .array
        [.object
          [stringMember "conversation_id" (QString.literal "conv_1"),
            numberMember "type" 0,
            stringMember "created_by" userId,
            stringMember "created_by_username" (QString.literal "alice"),
            stringMember "peer_user_id" (QString.literal "usr_peer"),
            numberMember "created_at" kFakeConversationCreatedAt,
            numberMember "membership_version" 1,
            stringMember "my_role" (QString.literal "member")]])]

/-- The envelope of a request, with the id that it is accepted under. -/
def receivedEnvelope (object : QJsonObject) : Envelope where
  envelopeId :=
    if stringField object "envelope_id" = [] then
      QString.literal "env_" ++ QString.number server.m_envelopeSeq
    else stringField object "envelope_id"
  conversationId := stringField object "conversation_id"
  senderUserId := userId
  senderDeviceId := stringField object "device_id"
  ciphertext := stringField object "ciphertext"
  serverTimestamp := moment.currentSecs
  envelopeType := (object.value (QString.literal "envelope_type")).toInt 0

def sentResponse (envelope : Envelope) : NetworkResponse :=
  okResponse json
    [stringMember "envelope_id" envelope.envelopeId,
      numberMember "server_timestamp" envelope.serverTimestamp,
      numberMember "delivered_to_count" 1]

def handleSend : NetworkResponse × FakeVoxServer :=
  if server.m_failNextSend then
    (errorResponse json kHttpServiceUnavailable kErrorCodeQueueFull
        "Queue full",
      { server with m_failNextSend := false })
  else
    match parseJson json request.body with
    | none => (invalidJson json, server)
    | some object =>
        let envelope := server.receivedEnvelope userId moment object
        (sentResponse json envelope,
          { server with
            m_envelopeSeq :=
              if stringField object "envelope_id" = [] then
                server.m_envelopeSeq + 1
              else server.m_envelopeSeq
            m_envelopes := server.m_envelopes ++ [envelope] })

def envelopeObject (envelope : Envelope) : QJsonObject :=
  [stringMember "envelope_id" envelope.envelopeId,
    stringMember "conversation_id" envelope.conversationId,
    stringMember "sender_user_id" envelope.senderUserId,
    stringMember "sender_device_id" envelope.senderDeviceId,
    stringMember "ciphertext" envelope.ciphertext,
    numberMember "server_timestamp" envelope.serverTimestamp,
    numberMember "envelope_type" envelope.envelopeType]

/-- The end of a listing that is complete. -/
def lastPage : QJsonObject :=
  [stringMember "next_cursor" [], (QString.literal "has_more", .bool false)]

def pendingObject : QJsonObject :=
  (QString.literal "envelopes",
    .array (server.m_envelopes.map fun envelope =>
      .object (envelopeObject envelope))) :: lastPage

def newAttachmentId : QString :=
  QString.literal "att_" ++ QString.number server.m_attachmentSeq

def handleUploadInit : NetworkResponse × FakeVoxServer :=
  (okResponse json
      [stringMember "attachment_id" server.newAttachmentId,
        stringMember "blob_path"
          (QString.literal "/blob/" ++ server.newAttachmentId)],
    { server with
      m_attachmentSeq := server.m_attachmentSeq + 1
      m_attachments := server.m_attachments.insert server.newAttachmentId [] })

/-- `QByteArray::replace(position, length, after)`. -/
def replaceBytes
    (bytes : QByteArray) (position : ℤ) (after : QByteArray) : QByteArray :=
  if position < 0 ∨ (bytes.length : ℤ) < position then bytes
  else
    bytes.take position.toNat ++ after ++
      bytes.drop (position.toNat + after.length)

/-- The blob after a chunk is written at an offset. -/
def chunkWritten (stored chunk : QByteArray) (offset : ℤ) : QByteArray :=
  let padded :=
    if (stored.length : ℤ) < offset then
      stored ++
        List.replicate (toInt32 (offset - stored.length)).toNat 0
    else stored
  if (padded.length : ℤ) = offset then padded ++ chunk
  else replaceBytes padded (toInt32 offset) chunk

def attachmentsPrefix : QString := QString.literal "/v1/attachments/"
def chunkSuffix : QString := QString.literal "/chunk"
def finalizeSuffix : QString := QString.literal "/finalize"

def handleChunk (route : QString) : NetworkResponse × FakeVoxServer :=
  let id := upTo chunkSuffix (route.drop attachmentsPrefix.length)
  let stored := server.m_attachments.valueOr id []
  let offset :=
    toLongLong
      (queryItemValue (queryFromPath request.path)
        (QString.literal "offset"))
  if offset < 0 then
    (errorResponse json kHttpBadRequest 1 "Bad offset", server)
  else
    (okResponse json [],
      { server with
        m_attachments :=
          server.m_attachments.insert id
            (chunkWritten stored request.body offset) })

def handleDownload (route : QString) : NetworkResponse :=
  ⟨kHttpOk,
    server.m_attachments.valueOr (route.drop attachmentsPrefix.length) [],
    []⟩

def byUsernamePrefix : QString := QString.literal "/v1/users/by-username/"
def usersPrefix : QString := QString.literal "/v1/users/"
def devicesSuffix : QString := QString.literal "/devices"
def recordsPrefix : QString := QString.literal "/v1/sync/records/"

def userObject (account : AccountState) : QJsonObject :=
  [stringMember "user_id" account.userId,
    stringMember "username" account.username]

def handleByUsername (route : QString) : NetworkResponse :=
  match server.m_usersByUsername.lookup
    (route.drop byUsernamePrefix.length) with
  | some account => okResponse json (userObject account)
  | none => notFound json

def handleSearch : NetworkResponse :=
  okResponse json
    [(QString.literal "users",
      .array ((server.iteratedAccounts moment).map fun account =>
        .object (userObject account)))]

def deviceObject (account : AccountState) : QJsonObject :=
  [stringMember "device_id" account.deviceId,
    stringMember "device_label" (QString.literal "Desktop"),
    stringMember "identity_key_public" (QString.literal "idpk"),
    stringMember "signed_prekey_public" (QString.literal "spk"),
    stringMember "signed_prekey_signature" (QString.literal "sig")]

def handleDevices (route : QString) : NetworkResponse :=
  let userId := upTo devicesSuffix (route.drop usersPrefix.length)
  okResponse json
    [(QString.literal "devices",
      .array
        (((server.iteratedAccounts moment).filter fun account =>
          account.userId = userId).map fun account =>
            .object (deviceObject account)))]

def keyBundleResponse : NetworkResponse :=
  okResponse json
    [numberMember "version" 1,
      stringMember "wrapped_sync_key" (QString.literal "wrapped"),
      stringMember "sync_wrap_salt" (QString.literal "salt"),
      (QString.literal "sync_wrap_params",
        .object [stringMember "algorithm" (QString.literal "argon2id")])]

def changesResponse : NetworkResponse :=
  okResponse json ((QString.literal "records", .array []) :: lastPage)

/-- The routes that `Handle` tries for a user. -/
def handleSession (route : QString) : NetworkResponse × FakeVoxServer :=
  let isGet := request.method = QString.literal "GET"
  let isPost := request.method = QString.literal "POST"
  let isPut := request.method = QString.literal "PUT"
  let isDelete := request.method = QString.literal "DELETE"
  if route = QString.literal "/v1/conversations" ∧ isGet then
    (conversationsResponse json userId, server)
  else if route = QString.literal "/v1/messages/send" ∧ isPost then
    server.handleSend json userId request moment
  else if route = QString.literal "/v1/messages/ack" ∧ isPost then
    (okResponse json [], server)
  else if route = QString.literal "/v1/sync/pending" ∧ isGet then
    (okResponse json server.pendingObject, server)
  else if route = QString.literal "/v1/attachments/upload-init" ∧ isPost then
    server.handleUploadInit json
  else if attachmentsPrefix.isPrefixOf route ∧
      chunkSuffix.isSuffixOf route ∧ isPut then
    server.handleChunk json request route
  else if attachmentsPrefix.isPrefixOf route ∧
      finalizeSuffix.isSuffixOf route ∧ isPost then
    (okResponse json [], server)
  else if attachmentsPrefix.isPrefixOf route ∧ isGet then
    (server.handleDownload route, server)
  else if byUsernamePrefix.isPrefixOf route ∧ isGet then
    (server.handleByUsername json route, server)
  else if route = QString.literal "/v1/users/search" ∧ isGet then
    (server.handleSearch json moment, server)
  else if usersPrefix.isPrefixOf route ∧ devicesSuffix.isSuffixOf route ∧
      isGet then
    (server.handleDevices json moment route, server)
  else if route = QString.literal "/v1/sync/key-bundle" ∧ isGet then
    (keyBundleResponse json, server)
  else if route = QString.literal "/v1/sync/key-bundle" ∧ isPut then
    (okResponse json [], server)
  else if route = QString.literal "/v1/sync/changes" ∧ isGet then
    (changesResponse json, server)
  else if recordsPrefix.isPrefixOf route ∧ (isPut ∨ isDelete) then
    (okResponse json [], server)
  else (notFound json, server)

/-- `Handle`. -/
def handle : NetworkResponse × FakeVoxServer :=
  let route := trimQuery request.path
  let isGet := request.method = QString.literal "GET"
  let isPost := request.method = QString.literal "POST"
  if route = QString.literal "/v1/health" ∧ isGet then
    (okResponse json [stringMember "status" (QString.literal "ok")], server)
  else if route = QString.literal "/v1/register" ∧ isPost then
    server.handleRegister json request
  else if route = QString.literal "/v1/login" ∧ isPost then
    server.handleLogin json request moment
  else if route = QString.literal "/v1/refresh" ∧ isPost then
    server.handleRefresh json request
  else if route = QString.literal "/v1/logout" ∧ isPost then
    (okResponse json [], server)
  else if route = QString.literal "/v1/me" ∧ isGet then
    (server.handleMe json request moment, server)
  else if server.m_forceUnauthorized then (unauthorized json, server)
  else
    let userId := server.authUserFromHeaders request.headers
    if userId = [] then (unauthorized json, server)
    else server.handleSession json userId request moment route

def setForceUnauthorized (value : Bool) : FakeVoxServer :=
  { server with m_forceUnauthorized := value }

def setFailNextSend (value : Bool) : FakeVoxServer :=
  { server with m_failNextSend := value }

end Sessions

end FakeVoxServer
end Integration
end VoxDesktop
