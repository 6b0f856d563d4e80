import Mathlib.Data.List.Sort
import VoxDesktop.Domain.Models
import VoxDesktop.Library.Table

/-!
# The table of messages

`SqlMessagesRepository` over the rows of `messages`, whose primary key is the
message id.  A row has the columns of the table; states and kinds are stored
by their names.  Whether a statement executes is an argument.
-/

namespace VoxDesktop
namespace Storage

open Qt Library Domain

structure MessageRow where
  messageId : QString
  conversationId : QString
  senderUserId : QString
  senderDeviceId : QString
  serverSeq : ℤ
  clientCreatedAtMs : ℤ
  serverReceivedAtMs : ℤ
  contentKind : QString
  ciphertextBlob : QByteArray
  plaintextCacheCiphertext : QByteArray
  deliveryState : QString
  readState : QString
  isOutgoing : ℤ
  replyToMessageId : QString
  senderKeyEpoch : ℤ
deriving DecidableEq

abbrev MessageTable : Type := Table MessageRow.messageId

namespace MessagesRepository

/-- The values bound for a message. -/
def rowOf (message : Message) : MessageRow where
  messageId := message.messageId
  conversationId := message.conversationId
  senderUserId := message.senderUserId
  senderDeviceId := message.senderDeviceId
  serverSeq := message.serverSeq
  clientCreatedAtMs := message.clientCreatedAtMs
  serverReceivedAtMs := message.serverReceivedAtMs
  contentKind := message.contentKind.toString
  ciphertextBlob := message.ciphertextBlob
  plaintextCacheCiphertext := message.plaintextCacheCiphertext
  deliveryState := message.deliveryState.toString
  readState := QString.literal "unread"
  isOutgoing := if message.isOutgoing then 1 else 0
  replyToMessageId := message.replyToMessageId.getD []
  senderKeyEpoch := message.senderKeyEpoch

/-- The columns that `ON CONFLICT(message_id) DO UPDATE` sets. -/
def updateRow (stored excluded : MessageRow) : MessageRow :=
  { stored with
    senderUserId := excluded.senderUserId
    senderDeviceId := excluded.senderDeviceId
    clientCreatedAtMs := excluded.clientCreatedAtMs
    serverReceivedAtMs := excluded.serverReceivedAtMs
    ciphertextBlob := excluded.ciphertextBlob
    plaintextCacheCiphertext := excluded.plaintextCacheCiphertext
    deliveryState := excluded.deliveryState
    isOutgoing := excluded.isOutgoing }

theorem keepsKey_updateRow :
    Table.KeepsKey MessageRow.messageId updateRow :=
  fun _ _ same => same

def upsertMessage
    (table : MessageTable) (message : Message) (executed : Bool) :
    Bool × MessageTable :=
  if executed then
    (true, table.upsert updateRow keepsKey_updateRow (rowOf message))
  else (false, table)

/-- The message read from a row. -/
def readMessage (row : MessageRow) : Message where
  messageId := row.messageId
  conversationId := row.conversationId
  senderUserId := row.senderUserId
  senderDeviceId := row.senderDeviceId
  serverSeq := row.serverSeq
  clientCreatedAtMs := row.clientCreatedAtMs
  serverReceivedAtMs := row.serverReceivedAtMs
  contentKind := (ContentKind.fromString row.contentKind).getD .text
  ciphertextBlob := row.ciphertextBlob
  plaintextCacheCiphertext := row.plaintextCacheCiphertext
  deliveryState := (DeliveryState.fromString row.deliveryState).getD .queued
  isOutgoing := row.isOutgoing ≠ 0
  replyToMessageId :=
    if row.replyToMessageId = [] then none else some row.replyToMessageId
  senderKeyEpoch := row.senderKeyEpoch

/-- The rows of a conversation, in the order of the table. -/
def conversationRows (table : MessageTable) (conversationId : QString) :
    List MessageRow :=
  table.rows.filter fun row => row.conversationId = conversationId

/-- `ORDER BY client_created_at_ms ASC`; the sorter keeps equal rows in the
order of the table. -/
def sortRows (rows : List MessageRow) : List MessageRow :=
  rows.insertionSort fun first second =>
    first.clientCreatedAtMs ≤ second.clientCreatedAtMs

/-- `LIMIT ?`: a negative limit is none. -/
def limitRows (rows : List MessageRow) (limit : ℤ) : List MessageRow :=
  if limit < 0 then rows else rows.take limit.toNat

def listConversationMessages
    (table : MessageTable) (conversationId : QString) (limit : ℤ)
    (executed : Bool) : List Message :=
  if executed then
    (limitRows (sortRows (conversationRows table conversationId)) limit).map
      readMessage
  else []

/-- A stored message is read back, except that a reply to the empty id is no
reply. -/
theorem readMessage_rowOf
    {message : Message} (reply : message.replyToMessageId ≠ some []) :
    readMessage (rowOf message) = message := by
  obtain ⟨_, _, _, _, _, _, _, _, _, _, _, isOutgoing, replyTo, _⟩ := message
  rw [readMessage, rowOf]
  cases replyTo with
  | none => cases isOutgoing <;> simp
  | some replied =>
      have nonempty : replied ≠ [] := fun empty => reply (by rw [empty])
      cases isOutgoing <;> simp [nonempty]

/-- The row of a message after it is stored. -/
theorem lookup_upsertMessage
    (table : MessageTable) (message : Message) :
    (upsertMessage table message true).2.lookup message.messageId =
      some ((table.lookup message.messageId).elim (rowOf message)
        fun stored => updateRow stored (rowOf message)) :=
  Table.lookup_upsert_self table keepsKey_updateRow (rowOf message)

/-- Storing a row again over what it left changes nothing. -/
theorem updateRow_again (before : Option MessageRow) (row : MessageRow) :
    updateRow (before.elim row fun stored => updateRow stored row) row =
      before.elim row fun stored => updateRow stored row := by
  cases before <;> rfl

/-- The direction that is stored is that of the last message. -/
theorem isOutgoing_stored (before : Option MessageRow) (message : Message) :
    (before.elim (rowOf message) fun stored =>
        updateRow stored (rowOf message)).isOutgoing =
      if message.isOutgoing then 1 else 0 := by
  cases before <;> rfl

theorem lookup_upsertMessage_of_ne
    (table : MessageTable) {message : Message} (executed : Bool)
    {messageId : QString} (other : messageId ≠ message.messageId) :
    (upsertMessage table message executed).2.lookup messageId =
      table.lookup messageId := by
  cases executed with
  | false => rfl
  | true =>
      exact Table.lookup_upsert_of_ne table keepsKey_updateRow
        (show messageId ≠ (rowOf message).messageId from other)

end MessagesRepository
end Storage
end VoxDesktop
