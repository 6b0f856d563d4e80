import VoxDesktop.Network.ConversationsApi
import VoxDesktop.Qt.ByteArray

/-!
# Queries about conversations

`network/DirectoryApi` and the part of `network/ConversationsApi` that reads or
creates: the list of conversations, one conversation, its members, a new
conversation, the users of the directory and their devices, and the envelopes
of a conversation or those that are pending.  Of the other calls that name a
user or a conversation, the requests are here.
-/

namespace VoxDesktop
namespace Network

open Qt

namespace ApiPaths

def kUsersByUsernamePrefix : QString :=
  QString.literal "/v1/users/by-username/"
def kUsersSearch : QString := QString.literal "/v1/users/search"
def kUsersPrefix : QString := QString.literal "/v1/users/"
def kConversations : QString := QString.literal "/v1/conversations"
def kSyncPending : QString := QString.literal "/v1/sync/pending"

end ApiPaths

/-! ## Parsers -/

/-- The summary of a conversation with what its listing reads of it. -/
structure ListedConversationDto extends ConversationSummaryDto where
  conversationId : QString
  createdBy : QString
  createdAt : ℤ
  membershipVersion : ℤ
  title : QString

def parseConversationSummaryDto
    (object : QJsonObject) : Option ListedConversationDto := do
  let conversationId ← getString object "conversation_id"
  let createdBy ← getString object "created_by"
  let createdAt ← getInteger object "created_at"
  let membershipVersion :=
    object.value (QString.literal "membership_version")
  guard membershipVersion.isDouble
  return {
    conversationId := conversationId
    type := (object.value (QString.literal "type")).toInt 0
    createdBy := createdBy
    createdAt := createdAt
    membershipVersion := membershipVersion.toInt 0
    title := (object.value (QString.literal "title")).toString
    peerUserId :=
      if QString.literal "peer_user_id" ∈ object.keys then
        some (object.value (QString.literal "peer_user_id")).toString
      else none }

structure ConversationMemberDto where
  userId : QString
  username : QString

def parseConversationMemberDto
    (object : QJsonObject) : Option ConversationMemberDto := do
  let userId ← getString object "user_id"
  return ⟨userId, (object.value (QString.literal "username")).toString⟩

structure ConversationMembersResponseDto where
  conversationId : QString
  members : List ConversationMemberDto
  admins : List ConversationMemberDto
  subscribers : List ConversationMemberDto

/-- `push_entries`: all entries of an array, if each of them is a member. -/
def memberEntries
    (object : QJsonObject) (field : String) :
    Option (List ConversationMemberDto) :=
  (object.value (QString.literal field)).toArray.mapM fun entry =>
    parseConversationMemberDto entry.toObject

def parseConversationMembersResponseDto
    (object : QJsonObject) : Option ConversationMembersResponseDto := do
  let conversationId ← getString object "conversation_id"
  let members ← memberEntries object "members"
  let admins ← memberEntries object "admins"
  let subscribers ← memberEntries object "subscribers"
  return ⟨conversationId, members, admins, subscribers⟩

def parseDirectoryUser (object : QJsonObject) : Option DirectoryUser := do
  let userId ← getString object "user_id"
  let username ← getString object "username"
  return ⟨userId, username⟩

structure DeviceDirectoryEntry where
  deviceId : QString
  deviceLabel : QString
  identityKeyPublic : QString
  signedPrekeyPublic : QString
  signedPrekeySignature : QString

def parseDeviceDirectoryEntry
    (object : QJsonObject) : Option DeviceDirectoryEntry := do
  let deviceId ← getString object "device_id"
  let identityKeyPublic ← getString object "identity_key_public"
  let signedPrekeyPublic ← getString object "signed_prekey_public"
  let signedPrekeySignature ← getString object "signed_prekey_signature"
  return {
    deviceId := deviceId
    deviceLabel := (object.value (QString.literal "device_label")).toString
    identityKeyPublic := identityKeyPublic
    signedPrekeyPublic := signedPrekeyPublic
    signedPrekeySignature := signedPrekeySignature }

structure ConversationCreateRequest where
  type : QString
  peerUserId : QString
  members : List QString
  admins : List QString
  subscribers : List QString

/-- A member with an array of texts, unless there are none. -/
def arrayMember (field : String) (texts : List QString) : QJsonObject :=
  if texts = [] then []
  else [(QString.literal field, .array (texts.map .string))]

def ConversationCreateRequest.toJson (request : ConversationCreateRequest) :
    QJsonObject :=
  .ofMembers <|
    stringMember "type" request.type ::
      (if request.type = QString.literal "dm" then
          [stringMember "peer_user_id" request.peerUserId]
        else []) ++
      arrayMember "members" request.members ++
      arrayMember "admins" request.admins ++
      arrayMember "subscribers" request.subscribers

structure ConversationCreateResponse where
  conversationId : QString

def parseConversationCreateResponse
    (object : QJsonObject) : Option ConversationCreateResponse := do
  let conversationId ← getString object "conversation_id"
  return ⟨conversationId⟩

/-- An envelope with its type and its place in the order of its batch. -/
structure ListedEnvelopeDto extends EnvelopeDto where
  envelopeType : ℤ
  orderingEpoch : Option ℤ

def parseEnvelopeDto (object : QJsonObject) : Option ListedEnvelopeDto := do
  let envelopeId ← getString object "envelope_id"
  let conversationId ← getString object "conversation_id"
  let senderUserId ← getString object "sender_user_id"
  let senderDeviceId ← getString object "sender_device_id"
  let ciphertext ← getString object "ciphertext"
  let serverTimestamp ← getInteger object "server_timestamp"
  let orderingEpoch := object.value (QString.literal "ordering_epoch")
  return {
    envelopeId := envelopeId
    conversationId := conversationId
    senderUserId := senderUserId
    senderDeviceId := senderDeviceId
    ciphertext := ciphertext
    serverTimestamp := serverTimestamp
    envelopeType :=
      (object.value (QString.literal "envelope_type")).toInt 0
    orderingEpoch :=
      if QString.literal "ordering_epoch" ∈ object.keys ∧
          orderingEpoch.isDouble then
        some (orderingEpoch.toInt 0)
      else none }

structure EnvelopeBatchResponse where
  envelopes : List ListedEnvelopeDto
  nextCursor : QString
  hasMore : Bool

def parseEnvelopeBatchResponse
    (object : QJsonObject) : Option EnvelopeBatchResponse := do
  let envelopes ←
    (object.value (QString.literal "envelopes")).toArray.mapM fun item =>
      parseEnvelopeDto item.toObject
  return {
    envelopes := envelopes
    nextCursor := (object.value (QString.literal "next_cursor")).toString
    hasMore := (object.value (QString.literal "has_more")).toBool false }

/-! ## Calls -/

namespace DirectoryApi

def userByIdRequest (network : NetworkAccess) (userId : QString) :
    HttpRequest × QUrlQuery :=
  network.get (ApiPaths.kUsersPrefix ++ userId) []

def userByUsernameRequest (network : NetworkAccess) (username : QString) :
    HttpRequest × QUrlQuery :=
  network.get (ApiPaths.kUsersByUsernamePrefix ++ username) []

def userDevicesRequest (network : NetworkAccess) (userId : QString) :
    HttpRequest × QUrlQuery :=
  network.get
    (ApiPaths.kUsersPrefix ++ userId ++ QString.literal "/devices") []

def searchUsersRequest
    (network : NetworkAccess) (query : QString) (limit : ℤ) :
    HttpRequest × QUrlQuery :=
  network.get ApiPaths.kUsersSearch
    [(QString.literal "q", query),
      (QString.literal "limit", QString.number limit)]

/-- The result of `userById`. -/
def userById (json : QJsonDocument) (response : NetworkResponse) :
    ApiResult DirectoryUser :=
  ConversationsApi.parseResult json parseDirectoryUser
    "Invalid directory user payload" response

/-- The result of `userByUsername`. -/
def userByUsername (json : QJsonDocument) (response : NetworkResponse) :
    ApiResult DirectoryUser :=
  ConversationsApi.parseResult json parseDirectoryUser
    "Invalid directory user payload" response

/-- The users of a search, if each entry is one. -/
def parseUsers (object : QJsonObject) : Option (List DirectoryUser) :=
  (object.value (QString.literal "users")).toArray.mapM fun item =>
    parseDirectoryUser item.toObject

/-- The result of `searchUsers`. -/
def searchUsers (json : QJsonDocument) (response : NetworkResponse) :
    ApiResult (List DirectoryUser) :=
  ConversationsApi.parseResult json parseUsers
    "Invalid user entry in search result" response

/-- The devices of a user, if each entry is one. -/
def parseDevices (object : QJsonObject) : Option (List DeviceDirectoryEntry) :=
  (object.value (QString.literal "devices")).toArray.mapM fun item =>
    parseDeviceDirectoryEntry item.toObject

/-- The result of `userDevices`. -/
def userDevices (json : QJsonDocument) (response : NetworkResponse) :
    ApiResult (List DeviceDirectoryEntry) :=
  ConversationsApi.parseResult json parseDevices "Invalid device entry"
    response

end DirectoryApi

namespace ConversationsApi

/-- The entries of a listing, if each of them is a conversation. -/
def parseConversations
    (object : QJsonObject) : Option (List ListedConversationDto) :=
  (object.value (QString.literal "conversations")).toArray.mapM fun entry =>
    parseConversationSummaryDto entry.toObject

/-- The result of `listConversations`. -/
def listConversations (json : QJsonDocument) (response : NetworkResponse) :
    ApiResult (List ListedConversationDto) :=
  parseResult json parseConversations "Invalid conversation entry" response

def conversationRequest (network : NetworkAccess) (conversationId : QString) :
    HttpRequest × QUrlQuery :=
  network.get
    (ApiPaths.kConversations ++ QString.literal "/" ++ conversationId) []

/-- The result of `conversation`. -/
def conversation (json : QJsonDocument) (response : NetworkResponse) :
    ApiResult ListedConversationDto :=
  parseResult json parseConversationSummaryDto "Invalid conversation payload"
    response

def membersRequest (network : NetworkAccess) (conversationId : QString) :
    HttpRequest × QUrlQuery :=
  network.get
    (ApiPaths.kConversations ++ QString.literal "/" ++ conversationId ++
      QString.literal "/members") []

/-- The result of `members`. -/
def members (json : QJsonDocument) (response : NetworkResponse) :
    ApiResult ConversationMembersResponseDto :=
  parseResult json parseConversationMembersResponseDto
    "Invalid members payload" response

def createConversationRequest
    (json : QJsonDocument) (network : NetworkAccess)
    (request : ConversationCreateRequest) : HttpRequest :=
  network.postJson ApiPaths.kConversations
    (JsonCodec.toBytes json request.toJson)

/-- The result of `createConversation`. -/
def createConversation (json : QJsonDocument) (response : NetworkResponse) :
    ApiResult ConversationCreateResponse :=
  parseResult json parseConversationCreateResponse
    "Invalid create conversation payload" response

def addMemberRequest
    (json : QJsonDocument) (network : NetworkAccess)
    (conversationId userId role : QString) : HttpRequest :=
  network.postJson
    (ApiPaths.kConversations ++ QString.literal "/" ++ conversationId ++
      QString.literal "/members")
    (JsonCodec.toBytes json
      (.ofMembers [stringMember "user_id" userId, stringMember "role" role]))

def removeMemberRequest
    (network : NetworkAccess) (conversationId userId : QString) :
    HttpRequest :=
  network.deleteRequest
    (ApiPaths.kConversations ++ QString.literal "/" ++ conversationId ++
      QString.literal "/members/" ++ userId)

def subscribeRequest
    (json : QJsonDocument) (network : NetworkAccess)
    (conversationId : QString) : HttpRequest :=
  network.postJson
    (ApiPaths.kConversations ++ QString.literal "/" ++ conversationId ++
      QString.literal "/subscribe") (JsonCodec.toBytes json [])

def unsubscribeRequest
    (json : QJsonDocument) (network : NetworkAccess)
    (conversationId : QString) : HttpRequest :=
  network.postJson
    (ApiPaths.kConversations ++ QString.literal "/" ++ conversationId ++
      QString.literal "/unsubscribe") (JsonCodec.toBytes json [])

def conversationEnvelopesRequest
    (network : NetworkAccess) (conversationId : QString) (limit : ℤ)
    (cursor : QString) (since : Option ℤ) : HttpRequest × QUrlQuery :=
  network.get
    (ApiPaths.kConversations ++ QString.literal "/" ++ conversationId ++
      QString.literal "/envelopes") <|
    (QString.literal "limit", QString.number limit) ::
      if cursor = [] then
        match since with
        | some since => [(QString.literal "since", QString.number since)]
        | none => []
      else [(QString.literal "cursor", cursor)]

def pendingEnvelopesRequest
    (network : NetworkAccess) (limit : ℤ) (cursor : QString) :
    HttpRequest × QUrlQuery :=
  network.get ApiPaths.kSyncPending <|
    (QString.literal "limit", QString.number limit) ::
      if cursor = [] then [] else [(QString.literal "cursor", cursor)]

/-- The result of `conversationEnvelopes`. -/
def conversationEnvelopes (json : QJsonDocument) (response : NetworkResponse) :
    ApiResult EnvelopeBatchResponse :=
  parseResult json parseEnvelopeBatchResponse
    "Invalid conversation envelopes response" response

/-- The result of `pendingEnvelopes`. -/
def pendingEnvelopes (json : QJsonDocument) (response : NetworkResponse) :
    ApiResult EnvelopeBatchResponse :=
  parseResult json parseEnvelopeBatchResponse
    "Invalid pending envelopes response" response

end ConversationsApi
end Network
end VoxDesktop
