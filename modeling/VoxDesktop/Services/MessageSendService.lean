import VoxDesktop.Network.ConversationsApi
import VoxDesktop.Storage.JobsRepository
import VoxDesktop.Storage.MessagesRepository

/-!
# Sending messages

`services/MessageSendService` over the tables of messages and jobs.  The id of
the envelope, the server's response, the clock and whether statements execute
are arguments of a call.
-/

namespace VoxDesktop
namespace Services

open Qt Domain Network Storage

/-- What happens around one call. -/
structure SendOutcome where
  /-- `QUuid::createUuid()`. -/
  envelopeId : QString
  response : NetworkResponse
  currentMSecs : ℤ
  upserted : Bool
  /-- The clock when the job is queued. -/
  queuedMSecs : ℤ
  enqueued : Bool

namespace MessageSendService

def kMillisPerSecond : ℤ := 1000
def kMessageRetryDelayMs : ℤ := 1000

/-- The tables a call writes. -/
structure Tables where
  messages : MessageTable
  jobs : JobTable

section Calls

variable (json : QJsonDocument) (tables : Tables)
  (conversationId deviceId ciphertext : QString)

/-- The message that is stored for a send, in the state given. -/
def sentMessage
    (plaintextCache : QByteArray) (outcome : SendOutcome)
    (deliveryState : DeliveryState) : Message where
  messageId := outcome.envelopeId
  conversationId := conversationId
  senderDeviceId := deviceId
  senderUserId := QString.literal "me"
  clientCreatedAtMs := outcome.currentMSecs
  serverReceivedAtMs :=
    match (ConversationsApi.sendEnvelope json outcome.response).data with
    | some sent => sent.serverTimestamp * kMillisPerSecond
    | none => 0
  ciphertextBlob := toUtf8 ciphertext
  plaintextCacheCiphertext := plaintextCache
  isOutgoing := true
  deliveryState := deliveryState

/-- What both ways of sending do once their arguments are not empty: send,
store the message and, when the server has not accepted it, queue a job. -/
def sendAndStore
    (plaintextCache : QByteArray) (outcome : SendOutcome) : Bool × Tables :=
  let message :=
    sentMessage json conversationId deviceId ciphertext plaintextCache outcome
  if (ConversationsApi.sendEnvelope json outcome.response).ok then
    let upserted :=
      MessagesRepository.upsertMessage tables.messages (message .sentToServer)
        outcome.upserted
    (upserted.1, { tables with messages := upserted.2 })
  else
    let upserted :=
      MessagesRepository.upsertMessage tables.messages (message .queued)
        outcome.upserted
    let queued :=
      JobsRepository.enqueueJob tables.jobs (QString.literal "send_message")
        (toUtf8 ciphertext) (outcome.queuedMSecs + kMessageRetryDelayMs)
        outcome.enqueued
    (upserted.1 && queued.1, ⟨upserted.2, queued.2⟩)

/-- The request a call puts on the wire. -/
def sendRequest
    (network : NetworkAccess) (envelopeType : ℤ) (outcome : SendOutcome) :
    HttpRequest :=
  ConversationsApi.sendEnvelopeRequest json network
    { deviceId := deviceId
      conversationId := conversationId
      ciphertext := ciphertext
      envelopeId := outcome.envelopeId
      envelopeType := envelopeType }

def sendCiphertext
    (network : NetworkAccess) (envelopeType : ℤ) (outcome : SendOutcome) :
    Option HttpRequest × Bool × Tables :=
  if conversationId = [] ∨ deviceId = [] ∨ ciphertext = [] then
    (none, false, tables)
  else
    (some (sendRequest json conversationId deviceId ciphertext network
        envelopeType outcome),
      sendAndStore json tables conversationId deviceId ciphertext [] outcome)

def sendMessage
    (network : NetworkAccess) (plaintext : QString) (envelopeType : ℤ)
    (outcome : SendOutcome) : Option HttpRequest × Bool × Tables :=
  if plaintext = [] then (none, false, tables)
  else if conversationId = [] ∨ deviceId = [] ∨ ciphertext = [] then
    (none, false, tables)
  else
    (some (sendRequest json conversationId deviceId ciphertext network
        envelopeType outcome),
      sendAndStore json tables conversationId deviceId ciphertext
        (toUtf8 plaintext) outcome)

end Calls

end MessageSendService
end Services
end VoxDesktop
