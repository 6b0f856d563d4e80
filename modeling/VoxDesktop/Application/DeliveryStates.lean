import VoxDesktop.Application.Envelopes
import VoxDesktop.Library.Machine
import VoxDesktop.Qt.ReferenceJson

/-!
# The delivery state of a message

Sends and arriving envelopes write the table of messages through one upsert,
which overwrites the delivery state.  The message built for an envelope has
the default state, so an envelope that arrives under the id of a message that
was sent takes it back to `Draft`.  A run keeps sent messages sent exactly
when no such write happens in it.
-/

namespace VoxDesktop
namespace Application

open Qt Library Domain Network Services Storage MessageSendService

/-- The delivery state that is stored for a message id. -/
def storedState (table : MessageTable) (messageId : QString) :
    Option DeliveryState :=
  (table.lookup messageId).bind fun row =>
    DeliveryState.fromString row.deliveryState

/-- The message is stored as sent. -/
def IsSent (table : MessageTable) (messageId : QString) : Prop :=
  storedState table messageId = some .sentToServer

/-- The message is stored in a state before `SentToServer`. -/
def IsEarlier (table : MessageTable) (messageId : QString) : Prop :=
  ∃ state, storedState table messageId = some state ∧
    state.rank < DeliveryState.sentToServer.rank

/-! ## Writes -/

section Writes

theorem storedState_upsertMessage
    (table : MessageTable) (message : Message) :
    storedState (MessagesRepository.upsertMessage table message true).2
        message.messageId =
      some message.deliveryState := by
  rw [storedState, MessagesRepository.lookup_upsertMessage, Option.bind_some]
  cases table.lookup message.messageId <;>
    exact DeliveryState.fromString_toString _

theorem storedState_upsertMessage_of_ne
    (table : MessageTable) {message : Message} (executed : Bool)
    {messageId : QString} (other : messageId ≠ message.messageId) :
    storedState (MessagesRepository.upsertMessage table message executed).2
        messageId =
      storedState table messageId := by
  rw [storedState, MessagesRepository.lookup_upsertMessage_of_ne table executed
    other, storedState]

/-- After an upsert a message id has the state written for it, if it is, and
else the one it had. -/
theorem storedState_upsertMessage_cases
    (table : MessageTable) (message : Message) (executed : Bool)
    (messageId : QString) :
    storedState (MessagesRepository.upsertMessage table message executed).2
        messageId =
      if executed = true ∧ message.messageId = messageId then
        some message.deliveryState
      else storedState table messageId := by
  split
  · rename_i written
    obtain ⟨rfl, rfl⟩ := written
    exact storedState_upsertMessage table message
  · rename_i notWritten
    cases executed with
    | false => rfl
    | true =>
        exact storedState_upsertMessage_of_ne table true fun same =>
          notWritten ⟨rfl, same.symm⟩

/-- The arrival writes a row under this id. -/
def EnvelopeArrival.Writes
    (arrival : EnvelopeArrival) (messageId : QString) : Prop :=
  arrival.upserted = true ∧ arrival.envelope.envelopeId = messageId

/-- Every arrival stores the default state, whatever message is built for
it. -/
theorem storedState_foldl_arrivals
    (build : EnvelopeArrival → Message)
    (sameId : ∀ arrival,
      (build arrival).messageId = arrival.envelope.envelopeId)
    (draft : ∀ arrival, (build arrival).deliveryState = .draft)
    (table : MessageTable) (arrivals : List EnvelopeArrival)
    (messageId : QString) :
    let after := arrivals.foldl
      (fun table arrival =>
        (MessagesRepository.upsertMessage table (build arrival)
          arrival.upserted).2) table
    ((∃ arrival ∈ arrivals, arrival.Writes messageId) →
        storedState after messageId = some .draft) ∧
      ((∀ arrival ∈ arrivals, ¬arrival.Writes messageId) →
        storedState after messageId = storedState table messageId) := by
  intro after
  induction arrivals generalizing table with
  | nil => exact ⟨by simp, fun _ => rfl⟩
  | cons arrival arrivals inductionHypothesis =>
      obtain ⟨written, untouched⟩ := inductionHypothesis
        (MessagesRepository.upsertMessage table (build arrival)
          arrival.upserted).2
      have head := storedState_upsertMessage_cases table (build arrival)
        arrival.upserted messageId
      rw [sameId, draft] at head
      refine ⟨fun ⟨writer, within, writes⟩ => ?_, fun none => ?_⟩
      · by_cases later : ∃ other ∈ arrivals, other.Writes messageId
        · exact written later
        · have here : arrival.Writes messageId := by
            rcases List.mem_cons.mp within with rfl | within
            · exact writes
            · exact absurd ⟨writer, within, writes⟩ later
          exact (untouched fun other member writesLater =>
            later ⟨other, member, writesLater⟩).trans
              (head.trans (if_pos here))
      · exact (untouched fun other member =>
          none other (List.mem_cons_of_mem _ member)).trans
            (head.trans (if_neg (none arrival List.mem_cons_self)))

end Writes

/-! ## Events -/

inductive MessageEvent
  | sendCiphertext (network : NetworkAccess)
      (conversationId deviceId ciphertext : QString) (envelopeType : ℤ)
      (outcome : SendOutcome)
  | sendMessage (network : NetworkAccess)
      (conversationId deviceId plaintext ciphertext : QString)
      (envelopeType : ℤ) (outcome : SendOutcome)
  /-- The web socket pushes an envelope. -/
  | envelopeReceived (state : UiState) (auth : Option AuthContext)
      (arrival : EnvelopeArrival)
  /-- The poll gets a batch of pending envelopes. -/
  | poll (state : UiState) (auth : Option AuthContext)
      (arrivals : List EnvelopeArrival)
  /-- The history of a conversation that is selected is loaded. -/
  | conversationSelected (auth : Option AuthContext)
      (summary : ApiResult ConversationSummaryDto)
      (arrivals : List EnvelopeArrival)

/-- What a send returns, and the tables after an event. -/
def messageStep (json : QJsonDocument) (tables : Tables) :
    MessageEvent → Option Bool × Tables
  | .sendCiphertext network conversationId deviceId ciphertext envelopeType
      outcome =>
      let sent := sendCiphertext json tables conversationId deviceId
        ciphertext network envelopeType outcome
      (some sent.2.1, sent.2.2)
  | .sendMessage network conversationId deviceId plaintext ciphertext
      envelopeType outcome =>
      let sent := sendMessage json tables conversationId deviceId ciphertext
        network plaintext envelopeType outcome
      (some sent.2.1, sent.2.2)
  | .envelopeReceived state auth arrival =>
      (none, { tables with
        messages := applyEnvelope state auth tables.messages arrival })
  | .poll state auth arrivals =>
      (none, { tables with
        messages := applyEnvelopes state auth tables.messages arrivals })
  | .conversationSelected auth summary arrivals =>
      (none, { tables with
        messages := loadHistory auth summary tables.messages arrivals })

/-- A send that is made, is not accepted by the server, and has its message
stored under this id. -/
def QueuesUnder
    (json : QJsonDocument) (conversationId deviceId ciphertext : QString)
    (outcome : SendOutcome) (messageId : QString) : Prop :=
  (conversationId ≠ [] ∧ deviceId ≠ [] ∧ ciphertext ≠ []) ∧
    (ConversationsApi.sendEnvelope json outcome.response).ok = false ∧
    outcome.upserted = true ∧ outcome.envelopeId = messageId

/-- The event is an envelope that is stored under this id, or a failed send
that is. -/
def MessageEvent.WritesUnsent
    (json : QJsonDocument) (messageId : QString) : MessageEvent → Prop
  | sendCiphertext _ conversationId deviceId ciphertext _ outcome =>
      QueuesUnder json conversationId deviceId ciphertext outcome messageId
  | sendMessage _ conversationId deviceId plaintext ciphertext _ outcome =>
      plaintext ≠ [] ∧
        QueuesUnder json conversationId deviceId ciphertext outcome messageId
  | envelopeReceived _ _ arrival => arrival.Writes messageId
  | poll _ _ arrivals => ∃ arrival ∈ arrivals, arrival.Writes messageId
  | conversationSelected _ _ arrivals =>
      ∃ arrival ∈ arrivals, arrival.Writes messageId

/-- The event stores an envelope or a failed send under the id of a message
that is stored as sent. -/
def Overwrites
    (json : QJsonDocument) (tables : Tables) (event : MessageEvent) : Prop :=
  ∃ messageId, event.WritesUnsent json messageId ∧
    IsSent tables.messages messageId

/-! ## One event -/

section Events

variable {json : QJsonDocument} {tables : Tables}

/-- What a send does to the state of a message. -/
theorem storedState_sendAndStore
    (conversationId deviceId ciphertext : QString)
    (plaintextCache : QByteArray) (outcome : SendOutcome)
    (messageId : QString) :
    storedState
        (sendAndStore json tables conversationId deviceId ciphertext
          plaintextCache outcome).2.messages messageId =
      if outcome.upserted = true ∧ outcome.envelopeId = messageId then
        if (ConversationsApi.sendEnvelope json outcome.response).ok then
          some .sentToServer
        else some .queued
      else storedState tables.messages messageId := by
  rw [sendAndStore]
  dsimp only
  split
  · exact storedState_upsertMessage_cases tables.messages _ outcome.upserted
      messageId
  · exact storedState_upsertMessage_cases tables.messages _ outcome.upserted
      messageId

/-- A send whose arguments are not empty queues its message or leaves every
state that is there or writes `SentToServer`. -/
theorem sendAndStore_spec
    {conversationId deviceId ciphertext : QString}
    (complete : conversationId ≠ [] ∧ deviceId ≠ [] ∧ ciphertext ≠ [])
    (plaintextCache : QByteArray) (outcome : SendOutcome)
    (messageId : QString) :
    let after := (sendAndStore json tables conversationId deviceId ciphertext
      plaintextCache outcome).2.messages
    (QueuesUnder json conversationId deviceId ciphertext outcome messageId →
        IsEarlier after messageId) ∧
      (¬QueuesUnder json conversationId deviceId ciphertext outcome
          messageId →
        storedState after messageId = storedState tables.messages messageId ∨
          IsSent after messageId) := by
  intro after
  have stored := @storedState_sendAndStore json tables conversationId deviceId
    ciphertext plaintextCache outcome messageId
  by_cases written :
      outcome.upserted = true ∧ outcome.envelopeId = messageId
  · rw [if_pos written] at stored
    cases accepted :
        (ConversationsApi.sendEnvelope json outcome.response).ok with
    | false =>
        rw [accepted] at stored
        exact ⟨fun _ => ⟨.queued, stored, by decide⟩,
          fun notQueued => absurd ⟨complete, accepted, written⟩ notQueued⟩
    | true =>
        rw [accepted] at stored
        exact ⟨fun queued => absurd (accepted.symm.trans queued.2.1) (by simp),
          fun _ => Or.inr stored⟩
  · rw [if_neg written] at stored
    exact ⟨fun queued => absurd queued.2.2 written, fun _ => Or.inl stored⟩

/-- Arrivals take the messages they write to `Draft` and leave all others. -/
theorem foldl_arrivals_spec
    (build : EnvelopeArrival → Message)
    (sameId : ∀ arrival,
      (build arrival).messageId = arrival.envelope.envelopeId)
    (draft : ∀ arrival, (build arrival).deliveryState = .draft)
    (table : MessageTable) (arrivals : List EnvelopeArrival)
    (messageId : QString) :
    let after := arrivals.foldl
      (fun table arrival =>
        (MessagesRepository.upsertMessage table (build arrival)
          arrival.upserted).2) table
    ((∃ arrival ∈ arrivals, arrival.Writes messageId) →
        IsEarlier after messageId) ∧
      ((¬∃ arrival ∈ arrivals, arrival.Writes messageId) →
        storedState after messageId = storedState table messageId ∨
          IsSent after messageId) := by
  obtain ⟨written, untouched⟩ :=
    storedState_foldl_arrivals build sameId draft table arrivals messageId
  refine ⟨fun writes => ⟨.draft, written writes, by decide⟩, fun none => ?_⟩
  exact Or.inl (untouched fun arrival within writes =>
    none ⟨arrival, within, writes⟩)

/-- An event takes the messages it writes unsent to an earlier state; any
other message keeps its state or becomes sent. -/
theorem messageStep_spec
    (event : MessageEvent) (messageId : QString) :
    let after := (messageStep json tables event).2.messages
    (event.WritesUnsent json messageId → IsEarlier after messageId) ∧
      (¬event.WritesUnsent json messageId →
        storedState after messageId = storedState tables.messages messageId ∨
          IsSent after messageId) := by
  intro after
  cases event with
  | sendCiphertext network conversationId deviceId ciphertext envelopeType
      outcome =>
      simp only [after, messageStep, sendCiphertext]
      split
      · rename_i missing
        exact ⟨fun queued => absurd queued.1 (by tauto),
          fun _ => Or.inl rfl⟩
      · rename_i complete
        exact sendAndStore_spec (by tauto) [] outcome messageId
  | sendMessage network conversationId deviceId plaintext ciphertext
      envelopeType outcome =>
      simp only [after, messageStep, sendMessage]
      split
      · rename_i empty
        exact ⟨fun queued => absurd empty queued.1, fun _ => Or.inl rfl⟩
      · rename_i nonempty
        split
        · rename_i missing
          exact ⟨fun queued => absurd queued.2.1 (by tauto),
            fun _ => Or.inl rfl⟩
        · rename_i complete
          obtain ⟨queues, leaves⟩ :=
            @sendAndStore_spec json tables conversationId deviceId ciphertext
              (by tauto) (toUtf8 plaintext) outcome messageId
          exact ⟨fun queued => queues queued.2,
            fun notQueued => leaves fun queued =>
              notQueued ⟨nonempty, queued⟩⟩
  | envelopeReceived state auth arrival =>
      have spec := foldl_arrivals_spec (appliedMessage state auth)
        (fun _ => rfl) (fun _ => rfl) tables.messages [arrival] messageId
      simp only [List.mem_singleton, exists_eq_left] at spec
      exact spec
  | poll state auth arrivals =>
      exact foldl_arrivals_spec (appliedMessage state auth) (fun _ => rfl)
        (fun _ => rfl) tables.messages arrivals messageId
  | conversationSelected auth summary arrivals =>
      exact foldl_arrivals_spec (historyMessage auth summary) (fun _ => rfl)
        (fun _ => rfl) tables.messages arrivals messageId

end Events

/-! ## Runs -/

theorem not_isEarlier_of_isSent
    {table : MessageTable} {messageId : QString}
    (sent : IsSent table messageId) :
    ¬IsEarlier table messageId := by
  rintro ⟨state, stored, earlier⟩
  obtain rfl := Option.some.inj (sent.symm.trans stored)
  exact lt_irrefl _ earlier

/-- In a run, sent messages are never stored in an earlier state exactly when
no envelope and no failed send is stored under the id of a sent message. -/
theorem delivery_state_never_goes_back_iff
    (json : QJsonDocument)
    (start : Tables)
    (events : List MessageEvent) :
    let tablesAfter := fun events =>
      (Machine.run (messageStep json) start events).messages
    (∀ earlier between later, events = earlier ++ between ++ later →
      ∀ messageId, IsSent (tablesAfter earlier) messageId →
        ¬IsEarlier (tablesAfter (earlier ++ between)) messageId) ↔
      Machine.EachStep (fun tables event => ¬Overwrites json tables event)
        (messageStep json) start events := by
  intro tablesAfter
  rw [Machine.eachStep_iff_split]
  constructor
  · rintro kept earlier event later rfl ⟨messageId, writes, sent⟩
    refine kept earlier [event] later (by simp) messageId sent ?_
    simp only [tablesAfter, Machine.run_append]
    exact (messageStep_spec event messageId).1 writes
  · rintro meets earlier between later rfl messageId sent
    apply not_isEarlier_of_isSent
    simp only [tablesAfter, Machine.run_append]
    -- The rest of the run starts where the message is sent.
    have rest : Machine.EachStep
        (fun tables event => ¬Overwrites json tables event)
        (messageStep json)
        (Machine.run (messageStep json) start earlier) between := by
      rw [Machine.eachStep_iff_split]
      rintro before event after rfl
      rw [← Machine.run_append]
      exact meets (earlier ++ before) event (after ++ later) (by simp)
    refine Machine.run_invariant_of_eachStep
      (fun tables => IsSent tables.messages messageId)
      (fun tables event => ¬Overwrites json tables event) ?_ sent rest
    intro tables event sentHere allowed
    have unwritten : ¬event.WritesUnsent json messageId :=
      fun writes => allowed ⟨messageId, writes, sentHere⟩
    rcases (messageStep_spec event messageId).2 unwritten with same | sentNext
    · exact same.trans sentHere
    · exact sentNext

section Examples

/-- A server that accepts the envelope `e`. -/
def acceptedResponse : NetworkResponse :=
  ⟨200, ReferenceJson.json.toJson
    [stringMember "envelope_id" (QString.literal "e"),
      (QString.literal "server_timestamp", .double 100),
      (QString.literal "delivered_to_count", .double 1)], []⟩

/-- The text `hi` is sent. -/
def sendHi : MessageEvent :=
  .sendMessage ⟨QString.literal "https://vox", QString.literal "token"⟩
    (QString.literal "c") (QString.literal "d") (QString.literal "hi")
    (encryptForTransport (QString.literal "hi")) 0
    ⟨QString.literal "e", acceptedResponse, 100000, true, 100000, true⟩

/-- The server pushes the envelope back to the sender. -/
def echoOfHi : MessageEvent :=
  .envelopeReceived ⟨QString.literal "c", false⟩
    (some ⟨QString.literal "u", QString.literal "me", QString.literal "d",
      QString.literal "token", QString.literal "refresh"⟩)
    { envelope :=
        ⟨QString.literal "e", QString.literal "c", QString.literal "u",
          QString.literal "d", encryptForTransport (QString.literal "hi"),
          100⟩
      summary := ⟨false, 0, [], none⟩
      resolved := ⟨false, 0, [], none⟩
      upserted := true }

/-- The echo of a message that was sent takes it back to `Draft`. -/
theorem echo_takes_message_back :
    let sent := (messageStep ReferenceJson.json
      ⟨Table.empty, ⟨[], 0⟩⟩ sendHi).2
    let echoed := (messageStep ReferenceJson.json sent echoOfHi).2
    storedState sent.messages (QString.literal "e") = some .sentToServer ∧
      storedState echoed.messages (QString.literal "e") = some .draft := by
  decide +kernel

end Examples

end Application
end VoxDesktop
