import VoxDesktop.Network.AuthApi

/-!
# The conversations interface

`network/ConversationsApi` as far as envelopes are sent: the request and the
result of the response to it.  The data of envelopes, conversations and users
that the application reads from other responses is here as well.
-/

namespace VoxDesktop
namespace Network

open Qt

namespace ApiPaths

def kMessagesSend : QString := QString.literal "/v1/messages/send"

end ApiPaths

/-- `GetInteger`: a member that is a number. -/
def getInteger (object : QJsonObject) (field : String) : Option ℤ :=
  let value := object.value (QString.literal field)
  if value.isDouble then some value.toInteger else none

structure SendEnvelopeRequest where
  deviceId : QString
  conversationId : QString
  ciphertext : QString
  envelopeId : QString
  envelopeType : ℤ
  orderingEpoch : Option ℤ := none

def SendEnvelopeRequest.toJson (request : SendEnvelopeRequest) :
    QJsonObject :=
  .ofMembers <|
    [stringMember "device_id" request.deviceId,
      stringMember "conversation_id" request.conversationId,
      stringMember "ciphertext" request.ciphertext,
      stringMember "envelope_id" request.envelopeId,
      (QString.literal "envelope_type", .double request.envelopeType)] ++
    match request.orderingEpoch with
    | none => []
    | some epoch => [(QString.literal "ordering_epoch", .double epoch)]

structure SendEnvelopeResponse where
  envelopeId : QString
  serverTimestamp : ℤ
  deliveredToCount : ℤ

def parseSendEnvelopeResponse
    (object : QJsonObject) : Option SendEnvelopeResponse := do
  let envelopeId ← getString object "envelope_id"
  let serverTimestamp ← getInteger object "server_timestamp"
  return {
    envelopeId := envelopeId
    serverTimestamp := serverTimestamp
    deliveredToCount :=
      (object.value (QString.literal "delivered_to_count")).toInt 0 }

/-- An envelope as it arrives. -/
structure EnvelopeDto where
  envelopeId : QString
  conversationId : QString
  senderUserId : QString
  senderDeviceId : QString
  ciphertext : QString
  serverTimestamp : ℤ

/-- Of a conversation, what tells whether it is a direct message to
oneself. -/
structure ConversationSummaryDto where
  type : ℤ
  peerUserId : Option QString

structure DirectoryUser where
  userId : QString
  username : QString

namespace ConversationsApi

/-- The result of a response with a typed object, where `invalid` is the error
for an object of another shape. -/
def parseResult
    {α : Type} (json : QJsonDocument) (parser : QJsonObject → Option α)
    (invalid : String) (response : NetworkResponse) : ApiResult α :=
  match JsonCodec.parseObject json response.body with
  | .error parseError => ⟨false, response.statusCode, parseError, none⟩
  | .ok object =>
      if response.ok then
        let data := parser object
        { ok := data.isSome
          statusCode := response.statusCode
          error := if data.isSome then [] else QString.literal invalid
          data := data }
      else
        { ok := false
          statusCode := response.statusCode
          error :=
            match parseApiError object with
            | some apiError => apiError.message
            | none => response.errorMessage
          data := none }

def sendEnvelopeRequest
    (json : QJsonDocument) (network : NetworkAccess)
    (request : SendEnvelopeRequest) : HttpRequest :=
  network.postJson ApiPaths.kMessagesSend
    (JsonCodec.toBytes json request.toJson)

/-- The result of `sendEnvelope`. -/
def sendEnvelope (json : QJsonDocument) (response : NetworkResponse) :
    ApiResult SendEnvelopeResponse :=
  parseResult json parseSendEnvelopeResponse "Invalid send response" response

end ConversationsApi
end Network
end VoxDesktop
