import VoxDesktop.Application.DeliveryStates

/-!
# A send and its echo

The server's reply to a send and its push of the same envelope race, and both
end in an upsert under the id of the envelope.  The columns that an upsert
overwrites are those of the last writer, and the two writers fill them
differently: the delivery state always, the creation time and the sender
unless the clocks and the label happen to agree.
-/

namespace VoxDesktop
namespace Application

open Qt Library Domain Network Services Storage MessageSendService

/-- A row has the delivery state, creation time and sender of a message. -/
structure WrittenBy (row : MessageRow) (message : Message) : Prop where
  deliveryState : row.deliveryState = message.deliveryState.toString
  clientCreatedAtMs : row.clientCreatedAtMs = message.clientCreatedAtMs
  senderUserId : row.senderUserId = message.senderUserId

/-- An upsert leaves a row with these columns, whatever was stored. -/
theorem lookup_upsertMessage_writtenBy
    (table : MessageTable) (message : Message) :
    ∃ row,
      (MessagesRepository.upsertMessage table message true).2.lookup
          message.messageId = some row ∧
        WrittenBy row message := by
  refine ⟨_, MessagesRepository.lookup_upsertMessage table message, ?_⟩
  cases table.lookup message.messageId <;> exact ⟨rfl, rfl, rfl⟩

section Send

variable {json : QJsonDocument} {tables : Tables}
  {conversationId deviceId plaintext ciphertext : QString}
  {network : NetworkAccess} {envelopeType : ℤ} {outcome : SendOutcome}

/-- A send that the server accepts and that returns true has stored its
message as sent. -/
theorem sendMessage_accepted
    (accepted :
      (ConversationsApi.sendEnvelope json outcome.response).ok = true)
    (returned :
      (sendMessage json tables conversationId deviceId ciphertext network
        plaintext envelopeType outcome).2.1 = true)
    (other : Tables) :
    (sendMessage json other conversationId deviceId ciphertext network
        plaintext envelopeType outcome).2.2.messages =
      (MessagesRepository.upsertMessage other.messages
        (sentMessage json conversationId deviceId ciphertext
          (toUtf8 plaintext) outcome .sentToServer) true).2 := by
  unfold sendMessage at returned ⊢
  split at returned
  · contradiction
  rename_i plaintextNonempty
  split at returned
  · contradiction
  rename_i complete
  rw [if_neg plaintextNonempty, if_neg complete]
  rw [sendAndStore, if_pos accepted] at returned ⊢
  dsimp only at returned ⊢
  cases upserted : outcome.upserted with
  | true => rfl
  | false =>
      rw [upserted] at returned
      contradiction

end Send

/-- The message stored for the reply and the one stored for an echo of the
same envelope, each as the last writer: the rows differ in every case, and
agree in creation time and sender only where the two messages do. -/
theorem stored_row_depends_on_order
    (json : QJsonDocument)
    (tables : Tables)
    (conversationId deviceId plaintext ciphertext : QString)
    (network : NetworkAccess)
    (envelopeType : ℤ)
    (outcome : SendOutcome)
    (state : UiState)
    (auth : Option AuthContext)
    (arrival : EnvelopeArrival)
    (accepted :
      (ConversationsApi.sendEnvelope json outcome.response).ok = true)
    (returned :
      (sendMessage json tables conversationId deviceId ciphertext network
        plaintext envelopeType outcome).2.1 = true)
    (sameEnvelope : arrival.envelope.envelopeId = outcome.envelopeId)
    (upserted : arrival.upserted = true) :
    let send : MessageEvent :=
      .sendMessage network conversationId deviceId plaintext ciphertext
        envelopeType outcome
    let echo : MessageEvent := .envelopeReceived state auth arrival
    let stored := fun events =>
      (Machine.run (messageStep json) tables events).messages.lookup
        outcome.envelopeId
    stored [send, echo] ≠ stored [echo, send] ∧
      ∃ echoLast replyLast,
        stored [send, echo] = some echoLast ∧
          stored [echo, send] = some replyLast ∧
          echoLast.deliveryState = DeliveryState.draft.toString ∧
          replyLast.deliveryState = DeliveryState.sentToServer.toString ∧
          (echoLast.clientCreatedAtMs = replyLast.clientCreatedAtMs ↔
            arrival.envelope.serverTimestamp *
              Application.kMillisPerSecond = outcome.currentMSecs) ∧
          (echoLast.senderUserId = replyLast.senderUserId ↔
            (appliedMessage state auth arrival).senderUserId =
              QString.literal "me") := by
  intro send echo stored
  obtain ⟨echoLast, echoFound, echoWritten⟩ :=
    lookup_upsertMessage_writtenBy
      (messageStep json tables send).2.messages
      (appliedMessage state auth arrival)
  obtain ⟨replyLast, replyFound, replyWritten⟩ :=
    lookup_upsertMessage_writtenBy
      (messageStep json tables echo).2.messages
      (sentMessage json conversationId deviceId ciphertext
        (toUtf8 plaintext) outcome .sentToServer)
  have echoStored : stored [send, echo] = some echoLast := by
    rw [← echoFound, ← upserted]
    exact congrArg
      (Table.lookup
        (messageStep json (messageStep json tables send).2 echo).2.messages)
      sameEnvelope.symm
  have replyStored : stored [echo, send] = some replyLast := by
    rw [← replyFound]
    exact congrArg (fun table : MessageTable =>
      table.lookup outcome.envelopeId)
      (sendMessage_accepted accepted returned (messageStep json tables echo).2)
  have distinct : DeliveryState.draft.toString ≠
      DeliveryState.sentToServer.toString := by
    decide
  refine ⟨?_, echoLast, replyLast, echoStored, replyStored,
    echoWritten.deliveryState, replyWritten.deliveryState, ?_, ?_⟩
  · rw [echoStored, replyStored]
    rintro same
    have sameState := congrArg MessageRow.deliveryState (Option.some.inj same)
    rw [echoWritten.deliveryState, replyWritten.deliveryState] at sameState
    exact distinct sameState
  · rw [echoWritten.clientCreatedAtMs, replyWritten.clientCreatedAtMs]
    rfl
  · rw [echoWritten.senderUserId, replyWritten.senderUserId]
    rfl

section Examples

/-- The text `hi` is sent and echoed. -/
theorem stored_row_depends_on_order_hi :
    let stored := fun events =>
      (Machine.run (messageStep ReferenceJson.json) ⟨Table.empty, ⟨[], 0⟩⟩
        events).messages.lookup (QString.literal "e")
    stored [sendHi, echoOfHi] ≠ stored [echoOfHi, sendHi] :=
  (stored_row_depends_on_order ReferenceJson.json ⟨Table.empty, ⟨[], 0⟩⟩
    (QString.literal "c") (QString.literal "d") (QString.literal "hi")
    (encryptForTransport (QString.literal "hi"))
    ⟨QString.literal "https://vox", QString.literal "token"⟩ 0
    ⟨QString.literal "e", acceptedResponse, 100000, true, 100000, true⟩
    _ _ _ (by decide +kernel) (by decide +kernel) rfl rfl).1

/-- With a clock that is not on a full second and a user who is not called
`me`, the order of the two writes decides all three columns. -/
theorem echo_and_reply_leave_different_rows :
    let send : MessageEvent :=
      .sendMessage ⟨QString.literal "https://vox", QString.literal "token"⟩
        (QString.literal "c") (QString.literal "d") (QString.literal "hi")
        (encryptForTransport (QString.literal "hi")) 0
        ⟨QString.literal "e", acceptedResponse, 100500, true, 100500, true⟩
    let echo : MessageEvent :=
      .envelopeReceived ⟨QString.literal "c", false⟩
        (some ⟨QString.literal "u", QString.literal "bob",
          QString.literal "d", QString.literal "token",
          QString.literal "refresh"⟩)
        { envelope :=
            ⟨QString.literal "e", QString.literal "c", QString.literal "u",
              QString.literal "d", encryptForTransport (QString.literal "hi"),
              100⟩
          summary := ⟨false, 0, [], none⟩
          resolved := ⟨false, 0, [], none⟩
          upserted := true }
    let columns := fun events =>
      ((Machine.run (messageStep ReferenceJson.json) ⟨Table.empty, ⟨[], 0⟩⟩
        events).messages.lookup (QString.literal "e")).map fun row =>
          (row.clientCreatedAtMs, row.senderUserId, row.deliveryState)
    columns [send, echo] =
        some (100000, QString.literal "bob", QString.literal "Draft") ∧
      columns [echo, send] =
        some
          (100500, QString.literal "me", QString.literal "SentToServer") := by
  decide +kernel

end Examples

end Application
end VoxDesktop
