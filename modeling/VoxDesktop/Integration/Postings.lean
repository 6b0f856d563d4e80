import VoxDesktop.Integration.Log
import VoxDesktop.Integration.SessionRuns
import VoxDesktop.Library.Ledger

/-!
# What is posted

The ledger of a run: each submission of a client that makes a request, and
each envelope that the server accepts from anyone else, with the octets of its
text.  The log of the server and the tables of messages of all clients have
entries of the ledger only, under their ids and with their texts.
-/

namespace VoxDesktop
namespace Integration

open Library Qt Crypto Network Storage Services AuthService Application
  MessageSendService ServiceLocator VaultService FakeVoxServer

/-! ## The ledger -/

structure Posting where
  messageId : QString
  conversationId : QString
  senderUserId : QString
  senderDeviceId : QString
  text : QByteArray
deriving DecidableEq

/-- An envelope of the log, with the text that is read in it. -/
def Posting.ofEnvelope (envelope : Envelope) : Posting where
  messageId := envelope.envelopeId
  conversationId := envelope.conversationId
  senderUserId := envelope.senderUserId
  senderDeviceId := envelope.senderDeviceId
  text := cachedText envelope.listed.toEnvelopeDto

section Ledgers

variable (json : QJsonDocument) (toLower : QString → QString) {ι : Type}

/-- What an event posts, if anything. -/
def System.posting (system : System ι) : SystemEvent ι → Option Posting
  | .server (.request request moment) =>
      (acceptedEnvelope json system.server request moment).map
        Posting.ofEnvelope
  | .submit client conversationId text rules outcome _ =>
      let poster := system.clients client
      match poster.locator.context,
        (poster.submitted json toLower conversationId text rules
          outcome).1 with
      | some context, some _ =>
          some
            ⟨outcome.envelopeId, conversationId, context.userId,
              context.deviceId, toUtf8 text⟩
      | _, _ => none
  | _ => none

/-- What is posted in a run. -/
def postings [DecidableEq ι]
    (sodium : Sodium)
    (sha256 : QByteArray → List.Vector UInt8 kSha256Bytes)
    (appDataPath : QString) (starts : ι → AppData)
    (events : List (SystemEvent ι)) : List Posting :=
  Machine.observed (System.posting json toLower)
    (systemStep json sodium sha256 toLower appDataPath) (.start starts) events

/-- What is submitted can be written without loss, under an id, and comes back
from its transport form; so can what anyone else sends. -/
def SystemEvent.Readable : SystemEvent ι → Prop
  | .server (.request request moment) =>
      moment.currentSecs < 9007199254740992 ∧
        ∀ object, parseJson json request.body = some object →
          IsUtf16 (stringField object "envelope_id") ∧
            IsUtf16 (stringField object "conversation_id") ∧
            IsUtf16 (stringField object "device_id") ∧
            IsUtf16 (stringField object "ciphertext") ∧
            0 ≤ (object.value (QString.literal "envelope_type")).toInt 0
  | .submit _ conversationId text _ outcome exchange =>
      exchange.moment.currentSecs < 9007199254740992 ∧
        IsUtf16 conversationId ∧ IsUtf16 outcome.envelopeId ∧
        outcome.envelopeId ≠ [] ∧ IsUtf16 text ∧ text.head? ≠ some 0xFEFF
  | _ => True

end Ledgers

/-! ## Rows of the ledger -/

/-- A row has id, conversation, device and text of a posting. -/
structure Shows (row : MessageRow) (posting : Posting) : Prop where
  messageId : row.messageId = posting.messageId
  conversationId : row.conversationId = posting.conversationId
  senderDeviceId : row.senderDeviceId = posting.senderDeviceId
  text : row.plaintextCacheCiphertext = posting.text

theorem keyed_shows :
    Ledger.Keyed MessageRow.messageId Posting.messageId Shows :=
  fun _ _ isShown => isShown.messageId

theorem keptByUpdates_shows :
    Ledger.KeptByUpdates Shows MessagesRepository.updateRow :=
  fun _ _ _ stored isShown =>
    ⟨stored.messageId, stored.conversationId, isShown.senderDeviceId,
      isShown.text⟩

/-- Messages whose rows show postings are stored. -/
theorem replicates_upsertMessage
    {ledger : List Posting}
    (distinct : (ledger.map Posting.messageId).Nodup)
    {table : MessageTable} (replicates : Ledger.Replicates Shows ledger table)
    {message : Domain.Message} {posting : Posting} (member : posting ∈ ledger)
    (isShown : Shows (MessagesRepository.rowOf message) posting)
    (executed : Bool) :
    Ledger.Replicates Shows ledger
      (MessagesRepository.upsertMessage table message executed).2 := by
  cases executed with
  | false => exact replicates
  | true =>
      exact replicates.upsert keyed_shows distinct keptByUpdates_shows
        MessagesRepository.keepsKey_updateRow member isShown

/-- The message of an envelope shows it. -/
theorem shows_appliedMessage
    (ui : UiState) (auth : Option AuthContext)
    (answers : EnvelopeDto → EnvelopeAnswers) (envelope : Envelope) :
    Shows
      (MessagesRepository.rowOf (appliedMessage ui auth
        (arrivalOf answers envelope.listed.toEnvelopeDto)))
      (.ofEnvelope envelope) :=
  ⟨rfl, rfl, rfl, rfl⟩

theorem replicates_applyEnvelopes
    {ledger : List Posting}
    (distinct : (ledger.map Posting.messageId).Nodup)
    {table : MessageTable} (replicates : Ledger.Replicates Shows ledger table)
    (ui : UiState) (auth : Option AuthContext)
    (answers : EnvelopeDto → EnvelopeAnswers)
    {envelopes : List Envelope}
    (posted : ∀ envelope ∈ envelopes, Posting.ofEnvelope envelope ∈ ledger) :
    Ledger.Replicates Shows ledger
      (applyEnvelopes ui auth table
        (envelopes.map fun envelope =>
          arrivalOf answers envelope.listed.toEnvelopeDto)) := by
  induction envelopes generalizing table with
  | nil => exact replicates
  | cons envelope envelopes inductionHypothesis =>
      apply inductionHypothesis
      · exact replicates_upsertMessage distinct replicates
          (posted envelope List.mem_cons_self)
          (shows_appliedMessage ui auth answers envelope) _
      · exact fun later within =>
          posted later (List.mem_cons_of_mem _ within)

/-! ## Rows that are marked as sent -/

def sentMark : QString := Domain.DeliveryState.sentToServer.toString

/-- A row that is marked as sent is in the log. -/
def MarkedInLog (log : List Envelope) (row : MessageRow) : Prop :=
  row.deliveryState = sentMark →
    ∃ envelope ∈ log, envelope.envelopeId = row.messageId

theorem forall_upsertMessage
    {kept : MessageRow → Prop} {table : MessageTable}
    (before : ∀ row ∈ table.rows, kept row) {message : Domain.Message}
    (stored : ∀ row : MessageRow, row.messageId = message.messageId →
      row.deliveryState = message.deliveryState.toString → kept row)
    (executed : Bool) :
    ∀ row ∈ (MessagesRepository.upsertMessage table message executed).2.rows,
      kept row := by
  intro row within
  have found := (Table.lookup_eq_some_iff _ row.messageId row).mpr
    ⟨within, rfl⟩
  cases executed with
  | false => exact before row within
  | true =>
      by_cases same : row.messageId = message.messageId
      · rw [same, MessagesRepository.lookup_upsertMessage,
          Option.some.injEq] at found
        apply stored row same
        rw [← found]
        cases table.lookup message.messageId <;> rfl
      · rw [MessagesRepository.lookup_upsertMessage_of_ne table true same]
          at found
        exact before row ((Table.lookup_eq_some_iff _ _ _).mp found).1

theorem markedInLog_applyEnvelopes
    {log : List Envelope} {table : MessageTable}
    (before : ∀ row ∈ table.rows, MarkedInLog log row)
    (ui : UiState) (auth : Option AuthContext)
    (arrivals : List EnvelopeArrival) :
    ∀ row ∈ (applyEnvelopes ui auth table arrivals).rows,
      MarkedInLog log row := by
  induction arrivals generalizing table with
  | nil => exact before
  | cons arrival arrivals inductionHypothesis =>
      apply inductionHypothesis
      refine forall_upsertMessage before ?_ arrival.upserted
      intro row _ draft marked
      rw [draft] at marked
      change Domain.DeliveryState.draft.toString = sentMark at marked
      exact absurd marked (by decide)

end Integration
end VoxDesktop
