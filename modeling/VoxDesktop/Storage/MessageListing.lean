import VoxDesktop.Library.MostRecent
import VoxDesktop.Qt.ByteArray
import VoxDesktop.Storage.MessagesRepository

/-!
# Listing a conversation

`listConversationMessages` orders by time and cuts the list off at the limit,
so a conversation that has outgrown the limit is listed with its oldest
messages, and a message newer than all others is not shown.
-/

namespace VoxDesktop
namespace Storage
namespace MessagesRepository

open Qt Library Domain

/-- Limit of the list that is shown when a conversation is selected. -/
def kPendingEnvelopesPageSize : ℤ := 100

/-- A sequence of successful `upsertMessage` calls. -/
def upsertMessages (table : MessageTable) (messages : List Message) :
    MessageTable :=
  messages.foldl
    (fun table message => (upsertMessage table message true).2) table

/-- The messages of a conversation, in the order of the table. -/
def conversationMessages (table : MessageTable) (conversationId : QString) :
    List Message :=
  (conversationRows table conversationId).map readMessage

/-- A listing with a limit is a beginning of the sorted messages. -/
theorem listConversationMessages_eq_take
    (table : MessageTable) (conversationId : QString) {limit : ℤ}
    (nonnegative : 0 ≤ limit) :
    listConversationMessages table conversationId limit true =
      (MostRecent.sorted Message.clientCreatedAtMs
        (conversationMessages table conversationId)).take limit.toNat := by
  have sortedRows :
      (sortRows (conversationRows table conversationId)).map readMessage =
        MostRecent.sorted Message.clientCreatedAtMs
          (conversationMessages table conversationId) :=
    List.map_insertionSort _ _ readMessage _ fun _ _ _ _ => Iff.rfl
  rw [listConversationMessages, if_pos rfl, limitRows,
    if_neg (by omega), List.map_take, sortedRows]

/-- After every sequence of stored messages, the listing of a conversation
whose messages have distinct times is that of its most recent messages exactly
when it has no more messages than the limit. -/
theorem listConversationMessages_mostRecent_iff
    (table : MessageTable)
    (messages : List Message)
    (conversationId : QString)
    (limit : ℤ)
    (positive : 1 ≤ limit)
    (distinct :
      ((conversationMessages (upsertMessages table messages)
        conversationId).map Message.clientCreatedAtMs).Nodup) :
    let stored := upsertMessages table messages
    MostRecent Message.clientCreatedAtMs limit.toNat
        (conversationMessages stored conversationId)
        (listConversationMessages stored conversationId limit true) ↔
      (conversationMessages stored conversationId).length ≤ limit := by
  intro stored
  rw [listConversationMessages_eq_take stored conversationId (by omega),
    MostRecent.take_sorted_iff distinct (by omega)]
  exact Int.le_toNat (by omega)

section Examples

/-- A message of one conversation at a time. -/
def messageAt (index : ℕ) : Message where
  messageId := QString.number index
  conversationId := QString.literal "c"
  senderUserId := QString.literal "me"
  senderDeviceId := QString.literal "d"
  clientCreatedAtMs := index
  ciphertextBlob := [1]

def storedMessages (count : ℕ) : MessageTable :=
  upsertMessages Table.empty ((List.range count).map messageAt)

/-- Of two messages with a limit of two, the most recent ones are listed. -/
theorem listConversationMessages_mostRecent_two :
    MostRecent Message.clientCreatedAtMs 2
      (conversationMessages (storedMessages 2) (QString.literal "c"))
      (listConversationMessages (storedMessages 2) (QString.literal "c") 2
        true) :=
  (listConversationMessages_mostRecent_iff Table.empty
    ((List.range 2).map messageAt) (QString.literal "c") 2 (by decide)
    (by decide +kernel)).mpr (by decide +kernel)

/-- The newest of 101 messages is missing from the list that is shown when
the conversation is selected. -/
theorem newest_message_not_listed :
    let listed :=
      listConversationMessages (storedMessages 101) (QString.literal "c")
        kPendingEnvelopesPageSize true
    ((conversationMessages (storedMessages 101)
        (QString.literal "c")).map Message.clientCreatedAtMs).Nodup ∧
      messageAt 100 ∈
        conversationMessages (storedMessages 101) (QString.literal "c") ∧
      messageAt 100 ∉ listed ∧ messageAt 0 ∈ listed := by
  decide +kernel

end Examples

end MessagesRepository
end Storage
end VoxDesktop
