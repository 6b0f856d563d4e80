import VoxDesktop.Qt.ByteArray
import VoxDesktop.Services.AuthService
import VoxDesktop.Services.MessageSendService

/-!
# Envelopes in the application

What `bin/Application` does with envelopes that arrive: by the web socket and
the poll of pending envelopes through `apply_envelope`, and by the history of
a conversation that is selected, once the services are initialized.  Both
build the message that is stored in the same way and ignore whether it is
stored.
-/

namespace VoxDesktop
namespace Application

open Qt Domain Network Services Storage

def kMillisPerSecond : ℤ := 1000
def kConversationIdSuffixLength : ℕ := 6

/-! ## The text of a message -/

def transportPrefix : QString := QString.literal "vox1:"

/-- `DecryptForUi`. -/
def decryptForUi (ciphertext : QString) : Option QString :=
  if ciphertext.all isSpace then some []
  else
    let asUtf8 := toUtf8 ciphertext
    let decoded := fromBase64 false (asUtf8.drop 5)
    if transportPrefix.isPrefixOf ciphertext ∧ decoded ≠ [] then
      some (fromUtf8 decoded)
    else if asUtf8.all fun octet => octet ≠ 0 then some ciphertext
    else
      let decoded := fromBase64 false asUtf8
      if decoded ≠ [] then some (fromUtf8 decoded) else none

/-- `EncryptForTransport`. -/
def encryptForTransport (plaintext : QString) : QString :=
  transportPrefix ++ fromUtf8 (toBase64 ⟨false, false⟩ (toUtf8 plaintext))

/-- The text that is cached for an envelope. -/
def cachedText (envelope : EnvelopeDto) : QByteArray :=
  match decryptForUi envelope.ciphertext with
  | some plaintext => toUtf8 plaintext
  | none =>
      toUtf8
        (QString.literal "[Encrypted envelope " ++
          envelope.envelopeId.drop
            (envelope.envelopeId.length - kConversationIdSuffixLength) ++
          QString.literal "]")

/-! ## The message of an envelope -/

section Message

variable (auth : Option AuthContext)

def myUserId : QString := (auth.map AuthContext.userId).getD []
def myDeviceId : QString := (auth.map AuthContext.deviceId).getD []
def myUsername : QString := (auth.map AuthContext.username).getD []

/-- A direct message to oneself is outgoing when this device has sent it, any
other message when this user has. -/
def isOutgoing (envelope : EnvelopeDto) (isSelfDm : Bool) : Bool :=
  if isSelfDm then
    myDeviceId auth ≠ [] && envelope.senderDeviceId = myDeviceId auth
  else myUserId auth ≠ [] && envelope.senderUserId = myUserId auth

/-- The author that is stored for the view, where `resolved` is what the
directory answers for the sender. -/
def authorLabel
    (envelope : EnvelopeDto) (isSelfDm : Bool)
    (resolved : ApiResult DirectoryUser) : QString :=
  if isOutgoing auth envelope isSelfDm then
    if myUsername auth = [] then QString.literal "me" else myUsername auth
  else if envelope.senderUserId = [] then envelope.senderUserId
  else
    match resolved.accepted with
    | some user =>
        if user.username = [] then envelope.senderUserId else user.username
    | none => envelope.senderUserId

/-- The message that is stored for an envelope. -/
def envelopeMessage
    (envelope : EnvelopeDto) (isSelfDm : Bool)
    (resolved : ApiResult DirectoryUser) : Domain.Message where
  messageId := envelope.envelopeId
  conversationId := envelope.conversationId
  senderUserId := authorLabel auth envelope isSelfDm resolved
  senderDeviceId := envelope.senderDeviceId
  serverReceivedAtMs := envelope.serverTimestamp * kMillisPerSecond
  clientCreatedAtMs := envelope.serverTimestamp * kMillisPerSecond
  ciphertextBlob := toUtf8 envelope.ciphertext
  plaintextCacheCiphertext := cachedText envelope
  isOutgoing := isOutgoing auth envelope isSelfDm

end Message

/-- A conversation is a direct message to the user. -/
def isSelfDm
    (auth : Option AuthContext)
    (summary : ApiResult ConversationSummaryDto) : Bool :=
  match summary.accepted with
  | some conversation =>
      conversation.type = 0 &&
        conversation.peerUserId = some (myUserId auth)
  | none => false

/-! ## The handlers -/

structure UiState where
  selectedConversationId : QString
  selectedConversationIsSelfDm : Bool

/-- An envelope and what happens around storing its message. -/
structure EnvelopeArrival where
  envelope : EnvelopeDto
  /-- What the server answers about the conversation. -/
  summary : ApiResult ConversationSummaryDto
  /-- What the directory answers about the sender. -/
  resolved : ApiResult DirectoryUser
  upserted : Bool

/-- The message that `apply_envelope` stores. -/
def appliedMessage
    (state : UiState) (auth : Option AuthContext)
    (arrival : EnvelopeArrival) : Domain.Message :=
  let selfDm :=
    if arrival.envelope.conversationId = state.selectedConversationId then
      state.selectedConversationIsSelfDm
    else isSelfDm auth arrival.summary
  envelopeMessage auth arrival.envelope selfDm arrival.resolved

/-- The message that is stored for an envelope of the history, where `summary`
is what the server answers about the conversation. -/
def historyMessage
    (auth : Option AuthContext) (summary : ApiResult ConversationSummaryDto)
    (arrival : EnvelopeArrival) : Domain.Message :=
  envelopeMessage auth arrival.envelope (isSelfDm auth summary)
    arrival.resolved

/-- What `apply_envelope` does to the table of messages. -/
def applyEnvelope
    (state : UiState) (auth : Option AuthContext) (table : MessageTable)
    (arrival : EnvelopeArrival) : MessageTable :=
  (MessagesRepository.upsertMessage table (appliedMessage state auth arrival)
    arrival.upserted).2

/-- The loop of the poll over the envelopes of a batch. -/
def applyEnvelopes
    (state : UiState) (auth : Option AuthContext) (table : MessageTable)
    (arrivals : List EnvelopeArrival) : MessageTable :=
  arrivals.foldl (applyEnvelope state auth) table

/-- The loop over the history of a conversation that is selected. -/
def loadHistory
    (auth : Option AuthContext) (summary : ApiResult ConversationSummaryDto)
    (table : MessageTable) (arrivals : List EnvelopeArrival) : MessageTable :=
  arrivals.foldl
    (fun table arrival =>
      (MessagesRepository.upsertMessage table
        (historyMessage auth summary arrival) arrival.upserted).2)
    table

end Application
end VoxDesktop
