import VoxDesktop.Qt.ReferenceJson
import VoxDesktop.Services.ConversationService

/-!
# What a refresh of the list leaves

A refresh adds the conversations of the answer to those of the table and
removes none.  It replaces the row of a conversation that it writes, with all
that was kept there.
-/

namespace VoxDesktop
namespace Services

open Library Qt Domain Network Storage ConversationService

/-! ## The conversations that are listed -/

section Listed

/-- The ids that are listed are those of the rows. -/
theorem mem_conversations
    (table : ConversationTable) (conversationId : QString) :
    conversationId ∈
        (conversations table true).map Conversation.conversationId ↔
      conversationId ∈ table.rows.map ConversationRow.conversationId := by
  simp only [conversations, List.mem_map,
    ConversationsRepository.mem_listConversations]
  constructor
  · rintro ⟨_, ⟨row, within, rfl⟩, rfl⟩
    exact ⟨row, within, rfl⟩
  · rintro ⟨row, within, rfl⟩
    exact ⟨_, ⟨row, within, rfl⟩, rfl⟩

/-- After a refresh that returns true, the ids that are listed are those of
the table before it and those of the answer; so they are exactly those of the
answer when the answer has every conversation of the table. -/
theorem refreshed_conversations
    (json : QJsonDocument) (table : ConversationTable)
    (response : NetworkResponse) (outcomes : ℕ → EntryOutcome)
    (refreshed :
      (refreshConversations json table response outcomes).1 = true) :
    ∃ entries,
      (ConversationsApi.listConversations json response).accepted =
          some entries ∧
        let listed :=
          (conversations
            (refreshConversations json table response outcomes).2 true).map
              Conversation.conversationId
        let answered := entries.map ListedConversationDto.conversationId
        let stored := table.rows.map ConversationRow.conversationId
        (∀ conversationId, conversationId ∈ listed ↔
            conversationId ∈ stored ∨ conversationId ∈ answered) ∧
          ((∀ conversationId,
              conversationId ∈ listed ↔ conversationId ∈ answered) ↔
            ∀ conversationId ∈ stored, conversationId ∈ answered) := by
  cases accepted :
      (ConversationsApi.listConversations json response).accepted with
  | none =>
      rw [refreshConversations, accepted] at refreshed
      cases refreshed
  | some entries =>
      refine ⟨entries, rfl, ?_⟩
      intro listed answered stored
      have union : ∀ conversationId, conversationId ∈ listed ↔
          conversationId ∈ stored ∨ conversationId ∈ answered := by
        intro conversationId
        rw [refreshConversations, accepted] at refreshed
        rw [mem_conversations, mem_keys_refreshConversations,
          refreshedEntries, accepted,
          writtenEntries_of_storeEntries refreshed]
      refine ⟨union, ?_⟩
      simp only [union]
      constructor
      · intro same conversationId within
        exact (same conversationId).mp (Or.inl within)
      · intro included conversationId
        exact ⟨fun either => either.elim (included conversationId) id,
          Or.inr⟩

end Listed

/-! ## The fields that are kept locally -/

section Kept

/-- Every conversation keeps whether it is muted, its rank, its draft, and a
time of the last message that is not earlier. -/
def KeepsLocalFields (before after : ConversationTable) : Prop :=
  ∀ row ∈ before.rows, ∃ kept,
    after.lookup row.conversationId = some kept ∧
      (ConversationsRepository.readConversation kept).muted =
        (ConversationsRepository.readConversation row).muted ∧
      kept.pinRank = row.pinRank ∧
      kept.draftCiphertext = row.draftCiphertext ∧
      row.lastMessageAtMs ≤ kept.lastMessageAtMs

/-- The row has nothing that is kept locally, and a last message that is not
later than a time. -/
def HoldsNothing (row : ConversationRow) (lastMessageAtMs : ℤ) : Prop :=
  row.muteState = 0 ∧ row.pinRank = 0 ∧ row.draftCiphertext = [] ∧
    row.lastMessageAtMs ≤ lastMessageAtMs

/-- A refresh keeps the local fields exactly when every conversation that it
writes is not muted, not ranked and without a draft, and the time of its last
message is not later than the creation time in its last entry. -/
theorem refresh_keeps_local_fields_iff
    (json : QJsonDocument) (table : ConversationTable)
    (response : NetworkResponse) (outcomes : ℕ → EntryOutcome) :
    KeepsLocalFields table
        (refreshConversations json table response outcomes).2 ↔
      ∀ row ∈ table.rows, ∀ written,
        Table.lastOf
            (fun written : ListedConversationDto × EntryOutcome =>
              written.1.conversationId)
            (refreshedEntries json response outcomes) row.conversationId =
          some written →
        HoldsNothing row (msecsSinceEpoch written.1.createdAt) := by
  refine forall₂_congr fun row within => ?_
  have stored := (table.lookup_eq_some_iff row.conversationId row).mpr
    ⟨within, rfl⟩
  rw [lookup_refreshConversations, stored]
  cases Table.lastOf
      (fun written : ListedConversationDto × EntryOutcome =>
        written.1.conversationId)
      (refreshedEntries json response outcomes) row.conversationId with
  | none => simp
  | some written =>
      have muted :
          (ConversationsRepository.readConversation
            (writtenRow json written)).muted = false := rfl
      simp only [Option.map_some, Option.some_or, Option.some.injEq,
        exists_eq_left', forall_eq', muted]
      constructor
      · rintro ⟨sameMuted, sameRank, sameDraft, later⟩
        exact ⟨not_not.mp (of_decide_eq_false sameMuted.symm),
          sameRank.symm, sameDraft.symm, later⟩
      · rintro ⟨rowMute, rowRank, rowDraft, later⟩
        exact ⟨(decide_eq_false (not_not_intro rowMute)).symm,
          rowRank.symm, rowDraft.symm, later⟩

end Kept

section Examples

/-- Body of a listing with the group `b`, created at second 100. -/
def listingBody : QByteArray :=
  QByteArray.literal <|
    "\x7b\"conversations\":[" ++
    "\x7b\"conversation_id\":\"b\",\"created_at\":100," ++
    "\"created_by\":\"u\",\"membership_version\":1," ++
    "\"title\":\"B\",\"type\":1\x7d]\x7d"

/-- What a parser makes of the body. -/
def listingDocument : QJsonDocument where
  toJson := fun _ => []
  parse := fun bytes =>
    if bytes = listingBody then
      .ok [(QString.literal "conversations", .array [.object
        [stringMember "conversation_id" (QString.literal "b"),
          (QString.literal "created_at", .double 100),
          stringMember "created_by" (QString.literal "u"),
          (QString.literal "membership_version", .double 1),
          stringMember "title" (QString.literal "B"),
          (QString.literal "type", .double 1)]])]
    else .error (QString.literal "illegal value")

def listing : NetworkResponse := ⟨200, listingBody, []⟩

/-- Every statement executes; no title is asked for. -/
def entryStored : EntryOutcome :=
  ⟨⟨0, [], []⟩, ⟨0, [], []⟩, ⟨0, [], []⟩, true⟩

/-- A table with one conversation. -/
def tableWith (conversation : Conversation) : ConversationTable :=
  (ConversationsRepository.upsertConversation Table.empty conversation
    true).2

/-- A conversation that another user has had. -/
def earlierConversation : Conversation where
  conversationId := QString.literal "a"
  serverId := QString.literal "default"
  title := QString.literal "A"
  lastMessageAt := 50000

/-- The conversation `b`, muted, with a message after its creation. -/
def mutedConversation : Conversation where
  conversationId := QString.literal "b"
  serverId := QString.literal "default"
  type := .group
  title := QString.literal "B"
  lastMessageAt := 200000
  muted := true

/-- A table that is in the answer is listed as the answer is. -/
theorem refresh_of_answered_table :
    let after := refreshConversations listingDocument
      (tableWith mutedConversation) listing fun _ => entryStored
    {conversationId | conversationId ∈
        (conversations after.2 true).map Conversation.conversationId} =
      {QString.literal "b"} := by
  obtain ⟨entries, accepted, _, exactly⟩ :=
    refreshed_conversations listingDocument (tableWith mutedConversation)
      listing (fun _ => entryStored) (by decide +kernel)
  have answered :
      (ConversationsApi.listConversations listingDocument
          listing).accepted.map
            (List.map ListedConversationDto.conversationId) =
        some [QString.literal "b"] := by
    decide +kernel
  rw [accepted, Option.map_some, Option.some.injEq] at answered
  rw [answered] at exactly
  ext conversationId
  rw [Set.mem_ofPred_eq, Set.mem_singleton_iff, ← List.mem_singleton]
  exact exactly.mpr (by decide +kernel) conversationId

/-- A conversation of the table that the answer does not have stays in the
list. -/
theorem earlier_conversation_stays_listed :
    let after := refreshConversations listingDocument
      (tableWith earlierConversation) listing fun _ => entryStored
    after.1 = true ∧
      (ConversationsApi.listConversations listingDocument
          listing).accepted.map
            (List.map ListedConversationDto.conversationId) =
        some [QString.literal "b"] ∧
      QString.literal "a" ∈
        (conversations after.2 true).map Conversation.conversationId := by
  decide +kernel

/-- A refresh unmutes the conversation and takes its last message back to
its creation. -/
theorem refresh_unmutes :
    ¬KeepsLocalFields (tableWith mutedConversation)
        (refreshConversations listingDocument (tableWith mutedConversation)
          listing fun _ => entryStored).2 ∧
      (conversations (tableWith mutedConversation) true).map
          (fun conversation =>
            (conversation.muted, conversation.lastMessageAt)) =
        [(true, 200000)] ∧
      (conversations
          (refreshConversations listingDocument (tableWith mutedConversation)
            listing fun _ => entryStored).2 true).map
          (fun conversation =>
            (conversation.muted, conversation.lastMessageAt)) =
        [(false, 100000)] := by
  refine ⟨?_, by decide +kernel, by decide +kernel⟩
  intro keeps
  obtain ⟨kept, found, muted, _⟩ := keeps
    (ConversationsRepository.rowOf mutedConversation)
    (by decide +kernel)
  have unmuted :
      ((refreshConversations listingDocument (tableWith mutedConversation)
          listing fun _ => entryStored).2.lookup
            (QString.literal "b")).map ConversationRow.muteState =
        some 0 := by
    decide +kernel
  rw [show QString.literal "b" =
    (ConversationsRepository.rowOf mutedConversation).conversationId from rfl,
    found, Option.map_some, Option.some.injEq] at unmuted
  have shown : (ConversationsRepository.readConversation kept).muted = false :=
    decide_eq_false (not_not_intro unmuted)
  exact absurd (shown.symm.trans muted) (by decide)

end Examples

end Services
end VoxDesktop
