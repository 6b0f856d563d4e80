import VoxDesktop.Application.DeliveryStates
import VoxDesktop.Network.ParsedNumbers

/-!
# Timestamps in milliseconds

The server counts in seconds and the tables in milliseconds.  The conversion
multiplies whatever 64-bit number the server has sent, in `apply_envelope`, in
the loop over the history and when a message was sent.
-/

namespace VoxDesktop
namespace Application

open Qt Domain Network Services Storage

/-- What a `qint64` can hold. -/
def InQint64 (value : ℤ) : Prop :=
  -9223372036854775808 ≤ value ∧ value < 9223372036854775808

/-- The seconds whose milliseconds a `qint64` can hold. -/
def Convertible (seconds : ℤ) : Prop :=
  -9223372036854775 ≤ seconds ∧ seconds ≤ 9223372036854775

/-- The timestamp of an object as `GetInteger` reads it. -/
def serverTimestamp (object : QJsonObject) : ℤ :=
  (object.value (QString.literal "server_timestamp")).toInteger

theorem inQint64_mul_iff (seconds : ℤ) :
    InQint64 (seconds * 1000) ↔ Convertible seconds := by
  rw [InQint64, Convertible]
  omega

section Converted

variable {object : QJsonObject}

theorem envelopeMessage_converts_iff
    {dto : ListedEnvelopeDto} {envelope : EnvelopeDto}
    (accepted : parseEnvelopeDto object = some dto)
    (same : envelope = dto.toEnvelopeDto)
    (auth : Option AuthContext) (isSelfDm : Bool)
    (resolved : ApiResult DirectoryUser) :
    InQint64
        (envelopeMessage auth envelope isSelfDm resolved).serverReceivedAtMs ↔
      Convertible (serverTimestamp object) := by
  obtain ⟨-, timestamp⟩ :=
    getInteger_eq_some (of_parseEnvelopeDto accepted).1
  rw [serverTimestamp, ← timestamp, same]
  exact inQint64_mul_iff dto.serverTimestamp

theorem sentMessage_converts_iff
    {response : SendEnvelopeResponse} {json : QJsonDocument}
    {outcome : SendOutcome}
    (accepted : parseSendEnvelopeResponse object = some response)
    (answered :
      (ConversationsApi.sendEnvelope json outcome.response).data =
        some response)
    (conversationId deviceId ciphertext : QString)
    (plaintextCache : QByteArray) (deliveryState : DeliveryState) :
    InQint64
        (MessageSendService.sentMessage json conversationId deviceId
          ciphertext plaintextCache outcome deliveryState).serverReceivedAtMs ↔
      Convertible (serverTimestamp object) := by
  obtain ⟨-, timestamp⟩ :=
    getInteger_eq_some (of_parseSendEnvelopeResponse accepted)
  rw [serverTimestamp, ← timestamp, MessageSendService.sentMessage]
  dsimp only
  rw [answered]
  exact inQint64_mul_iff response.serverTimestamp

end Converted

/-- The conversion of the timestamp of an accepted object stays in a `qint64`
exactly for the timestamps below the bound, in each of its three places. -/
theorem timestamp_converts_iff (object : QJsonObject) :
    (∀ dto, parseEnvelopeDto object = some dto →
      ∀ (state : UiState) (auth : Option AuthContext)
        (summary : ApiResult ConversationSummaryDto)
        (arrival : EnvelopeArrival),
        arrival.envelope = dto.toEnvelopeDto →
          (InQint64
                (appliedMessage state auth arrival).serverReceivedAtMs ↔
              Convertible (serverTimestamp object)) ∧
            (InQint64
                (historyMessage auth summary arrival).serverReceivedAtMs ↔
              Convertible (serverTimestamp object))) ∧
      ∀ response, parseSendEnvelopeResponse object = some response →
        ∀ (json : QJsonDocument) (outcome : SendOutcome),
          (ConversationsApi.sendEnvelope json outcome.response).data =
              some response →
            ∀ (conversationId deviceId ciphertext : QString)
              (plaintextCache : QByteArray) (deliveryState : DeliveryState),
              InQint64
                  (MessageSendService.sentMessage json conversationId deviceId
                    ciphertext plaintextCache outcome
                    deliveryState).serverReceivedAtMs ↔
                Convertible (serverTimestamp object) := by
  constructor
  · intro dto accepted state auth summary arrival same
    exact ⟨envelopeMessage_converts_iff accepted same auth _ _,
      envelopeMessage_converts_iff accepted same auth _ _⟩
  · intro response accepted json outcome answered
    exact sentMessage_converts_iff accepted answered

/-! ## Two timestamps -/

section Examples

/-- A server that answers with a text. -/
def answering (text : QByteArray) : SendOutcome :=
  ⟨QString.literal "e", ⟨200, text, []⟩, 0, true, 0, true⟩

def exampleArrival (timestamp : ℚ) : EnvelopeArrival where
  envelope :=
    ⟨QString.literal "e", QString.literal "c", QString.literal "u",
      QString.literal "d", QString.literal "hi",
      QJsonValue.toInteger (.double timestamp)⟩
  summary := ⟨false, 0, [], none⟩
  resolved := ⟨false, 0, [], none⟩
  upserted := true

/-- A timestamp of today converts. -/
theorem timestamp_converts_today :
    let arrival := exampleArrival 1760000000
    let text :=
      QByteArray.literal
        "\x7b\"envelope_id\":\"e\",\"server_timestamp\":1760000000\x7d"
    let json := ReferenceJson.readsOnly text (exampleSent 1760000000)
    InQint64
        (appliedMessage ⟨[], false⟩ none arrival).serverReceivedAtMs ∧
      InQint64
        (historyMessage none arrival.summary arrival).serverReceivedAtMs ∧
      InQint64
        (MessageSendService.sentMessage json (QString.literal "c")
          (QString.literal "d") (QString.literal "hi") [] (answering text)
          .sentToServer).serverReceivedAtMs := by
  intro arrival text json
  have seconds : Convertible 1760000000 := by
    rw [Convertible]
    omega
  have envelope :=
    (timestamp_converts_iff (exampleEnvelope 1760000000 7)).1 _ rfl
      ⟨[], false⟩ none arrival.summary arrival rfl
  have sent :=
    (timestamp_converts_iff (exampleSent 1760000000)).2 _ rfl json
      (answering text) rfl
  exact ⟨envelope.1.mpr seconds, envelope.2.mpr seconds,
    (sent _ _ _ _ _).mpr seconds⟩

/-- The next second after the last that converts overflows in all three
places. -/
theorem timestamp_overflows :
    let arrival := exampleArrival 9223372036854776
    let text :=
      QByteArray.literal
        "\x7b\"envelope_id\":\"e\",\"server_timestamp\":9223372036854776\x7d"
    let json := ReferenceJson.readsOnly text (exampleSent 9223372036854776)
    (parseEnvelopeDto (exampleEnvelope 9223372036854776 7)).map
          ListedEnvelopeDto.toEnvelopeDto = some arrival.envelope ∧
      ¬InQint64
        (appliedMessage ⟨[], false⟩ none arrival).serverReceivedAtMs ∧
      ¬InQint64
        (historyMessage none arrival.summary arrival).serverReceivedAtMs ∧
      ¬InQint64
        (MessageSendService.sentMessage json (QString.literal "c")
          (QString.literal "d") (QString.literal "hi") [] (answering text)
          .sentToServer).serverReceivedAtMs := by
  intro arrival text json
  have overflows : ¬Convertible 9223372036854776 := by
    rw [Convertible]
    omega
  have accepted :
      parseEnvelopeDto (exampleEnvelope 9223372036854776 7) =
        some ⟨arrival.envelope, 0, some 7⟩ := rfl
  have applied :=
    envelopeMessage_converts_iff accepted rfl none false arrival.resolved
  have sent :=
    sentMessage_converts_iff
      (rfl : parseSendEnvelopeResponse (exampleSent 9223372036854776) = _)
      (rfl : (ConversationsApi.sendEnvelope json
        (answering text).response).data = _)
      (QString.literal "c") (QString.literal "d") (QString.literal "hi") []
      .sentToServer
  exact ⟨by rw [accepted, Option.map_some], applied.not.mpr overflows,
    applied.not.mpr overflows, sent.not.mpr overflows⟩

end Examples

end Application
end VoxDesktop
