import Mathlib.Data.List.Sort
import VoxDesktop.Domain.Conversations
import VoxDesktop.Library.Table

/-!
# The table of conversations

`SqlConversationsRepository` over the rows of `conversations`, whose primary
key is the conversation id.  It has no statement that removes a row.  Whether
a statement executes is an argument.
-/

namespace VoxDesktop
namespace Storage

open Qt Library Domain

structure ConversationRow where
  conversationId : QString
  serverId : QString
  type : QString
  titleCiphertext : QByteArray
  lastMessageAtMs : ℤ
  lastSortKey : ℤ
  muteState : ℤ
  pinRank : ℤ
  draftCiphertext : QByteArray
  epoch : ℤ
deriving DecidableEq

abbrev ConversationTable : Type := Table ConversationRow.conversationId

namespace ConversationsRepository

/-- The values bound for a conversation; the draft is always empty. -/
def rowOf (conversation : Conversation) : ConversationRow where
  conversationId := conversation.conversationId
  serverId := conversation.serverId
  type := conversation.type.toString
  titleCiphertext := toUtf8 conversation.title
  lastMessageAtMs := conversation.lastMessageAt
  lastSortKey := conversation.lastMessageAt
  muteState := if conversation.muted then 1 else 0
  pinRank := conversation.pinRank
  draftCiphertext := []
  epoch := conversation.epoch

/-- The columns that `ON CONFLICT(conversation_id) DO UPDATE` sets. -/
def updateRow (stored excluded : ConversationRow) : ConversationRow :=
  { stored with
    serverId := excluded.serverId
    type := excluded.type
    titleCiphertext := excluded.titleCiphertext
    lastMessageAtMs := excluded.lastMessageAtMs
    lastSortKey := excluded.lastSortKey
    muteState := excluded.muteState
    pinRank := excluded.pinRank
    draftCiphertext := excluded.draftCiphertext
    epoch := excluded.epoch }

theorem keepsKey_updateRow :
    Table.KeepsKey ConversationRow.conversationId updateRow :=
  fun _ _ same => same

def upsertConversation
    (table : ConversationTable) (conversation : Conversation)
    (executed : Bool) : Bool × ConversationTable :=
  if executed then
    (true, table.upsert updateRow keepsKey_updateRow (rowOf conversation))
  else (false, table)

/-- The conversation read from a row. -/
def readConversation (row : ConversationRow) : Conversation where
  conversationId := row.conversationId
  serverId := row.serverId
  type := (ConversationType.fromString row.type).getD .dm
  title := fromUtf8 row.titleCiphertext
  lastMessageAt := row.lastMessageAtMs
  muted := row.muteState ≠ 0
  pinRank := row.pinRank
  epoch := row.epoch

/-- `ORDER BY pin_rank DESC, last_message_at_ms DESC`; the sorter keeps equal
rows in the order of the table. -/
def sortRows (rows : List ConversationRow) : List ConversationRow :=
  rows.insertionSort fun first second =>
    second.pinRank < first.pinRank ∨
      second.pinRank = first.pinRank ∧
        second.lastMessageAtMs ≤ first.lastMessageAtMs

def listConversations
    (table : ConversationTable) (executed : Bool) : List Conversation :=
  if executed then (sortRows table.rows).map readConversation else []

/-- The listing has the conversations of the table. -/
theorem mem_listConversations
    (table : ConversationTable) (conversation : Conversation) :
    conversation ∈ listConversations table true ↔
      ∃ row ∈ table.rows, readConversation row = conversation := by
  simp [listConversations, sortRows]

/-- The update of a row leaves nothing of it. -/
theorem updateRow_eq
    {stored excluded : ConversationRow}
    (same : stored.conversationId = excluded.conversationId) :
    updateRow stored excluded = excluded := by
  obtain ⟨_, _, _, _, _, _, _, _, _, _⟩ := excluded
  rw [updateRow, same]

/-- An upsert puts a new row in place of the stored one. -/
theorem upsertConversation_true
    (table : ConversationTable) (conversation : Conversation) :
    upsertConversation table conversation true =
      (true, table.replace (rowOf conversation)) := by
  rw [upsertConversation, if_pos rfl, Table.upsert_eq_replace]
  exact fun stored same => updateRow_eq same

end ConversationsRepository
end Storage
end VoxDesktop
