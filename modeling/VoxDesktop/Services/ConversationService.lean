import VoxDesktop.Network.ConversationQueries
import VoxDesktop.Storage.ConversationsRepository

/-!
# The list of conversations

`services/ConversationService` over the table of conversations.  The responses
to the listing and to the queries made for the title of an entry, and whether
its statement executes, are arguments.
-/

namespace VoxDesktop
namespace Services

open Library Qt Domain Network Storage

/-- What happens around one entry of the listing. -/
structure EntryOutcome where
  /-- The response to `userById` for the peer. -/
  peer : NetworkResponse
  /-- The response to `conversation`. -/
  detail : NetworkResponse
  /-- The response to `members`. -/
  members : NetworkResponse
  upserted : Bool

namespace ConversationService

def kConversationIdSuffixLength : ℕ := 6
def kGroupTitleNames : ℕ := 3

def last6 (text : QString) : QString :=
  if text.length ≤ kConversationIdSuffixLength then text
  else text.drop (text.length - kConversationIdSuffixLength)

/-- `QDateTime::fromSecsSinceEpoch(secs).toMSecsSinceEpoch()`: milliseconds
that are no `qint64` make the date invalid, and it reads as zero. -/
def msecsSinceEpoch (secs : ℤ) : ℤ :=
  let msecs := secs * 1000
  if -9223372036854775808 ≤ msecs ∧ msecs < 9223372036854775808 then msecs
  else 0

section Titles

variable (json : QJsonDocument) (entry : ListedConversationDto)
  (outcome : EntryOutcome)

def dmTitle (peerUserId : QString) : QString :=
  match (DirectoryApi.userById json outcome.peer).accepted with
  | some peer =>
      if peer.username = [] then last6 peerUserId else peer.username
  | none => last6 peerUserId

def channelTitle : QString :=
  let fallback := QString.literal "Channel " ++ last6 entry.conversationId
  match (ConversationsApi.conversation json outcome.detail).accepted with
  | some detail => if detail.title = [] then fallback else detail.title
  | none => fallback

/-- The first names of the members that have one. -/
def groupTitle : QString :=
  let fallback := QString.literal "Group " ++ last6 entry.conversationId
  match (ConversationsApi.members json outcome.members).accepted with
  | some response =>
      let names :=
        ((response.members.map ConversationMemberDto.username).filter
          fun username => username ≠ []).take kGroupTitleNames
      if names = [] then fallback
      else (QString.literal ", ").intercalate names
  | none => fallback

/-- The title that is stored for an entry. -/
def titleOf : QString :=
  if trimmed entry.title ≠ [] then entry.title
  else
    match entry.peerUserId with
    | some peerUserId =>
        if entry.type = 0 ∧ peerUserId ≠ [] then dmTitle json outcome peerUserId
        else untitled
    | none => untitled
where
  /-- The title of an entry that is no direct message to a known peer. -/
  untitled : QString :=
    if entry.type = 2 then channelTitle json entry outcome
    else if entry.type = 1 then groupTitle json entry outcome
    else last6 entry.conversationId

/-- The conversation that is stored for an entry. -/
def conversationOf : Conversation where
  conversationId := entry.conversationId
  serverId := QString.literal "default"
  type := ConversationType.ofInt entry.type
  title := titleOf json entry outcome
  lastMessageAt := msecsSinceEpoch entry.createdAt
  epoch := entry.membershipVersion

end Titles

section Refresh

variable (json : QJsonDocument)

/-- The loop over the entries; it ends at the first that is not stored. -/
def storeEntries (table : ConversationTable) :
    List ListedConversationDto → (ℕ → EntryOutcome) → Bool × ConversationTable
  | [], _ => (true, table)
  | entry :: entries, outcomes =>
      let upserted :=
        ConversationsRepository.upsertConversation table
          (conversationOf json entry (outcomes 0)) (outcomes 0).upserted
      if upserted.1 then
        storeEntries upserted.2 entries fun position => outcomes (position + 1)
      else (false, upserted.2)

def refreshConversations
    (table : ConversationTable) (response : NetworkResponse)
    (outcomes : ℕ → EntryOutcome) : Bool × ConversationTable :=
  match (ConversationsApi.listConversations json response).accepted with
  | none => (false, table)
  | some entries => storeEntries json table entries outcomes

def conversations (table : ConversationTable) (executed : Bool) :
    List Conversation :=
  ConversationsRepository.listConversations table executed

end Refresh

/-! ## What a refresh writes -/

section Written

/-- The entries a loop writes: those before the first whose statement
fails. -/
def writtenEntries :
    List ListedConversationDto → (ℕ → EntryOutcome) →
      List (ListedConversationDto × EntryOutcome)
  | [], _ => []
  | entry :: entries, outcomes =>
      if (outcomes 0).upserted then
        (entry, outcomes 0) ::
          writtenEntries entries fun position => outcomes (position + 1)
      else []

variable (json : QJsonDocument)

/-- The entries a refresh writes. -/
def refreshedEntries
    (response : NetworkResponse) (outcomes : ℕ → EntryOutcome) :
    List (ListedConversationDto × EntryOutcome) :=
  match (ConversationsApi.listConversations json response).accepted with
  | none => []
  | some entries => writtenEntries entries outcomes

/-- The row of an entry that is written. -/
def writtenRow (written : ListedConversationDto × EntryOutcome) :
    ConversationRow :=
  ConversationsRepository.rowOf (conversationOf json written.1 written.2)

variable {json}

theorem storeEntries_table
    (table : ConversationTable) (entries : List ListedConversationDto)
    (outcomes : ℕ → EntryOutcome) :
    (storeEntries json table entries outcomes).2 =
      table.replaceAll
        ((writtenEntries entries outcomes).map (writtenRow json)) := by
  induction entries generalizing table outcomes with
  | nil => rfl
  | cons entry entries inductionHypothesis =>
      rw [storeEntries, writtenEntries]
      cases executed : (outcomes 0).upserted with
      | false => rfl
      | true =>
          rw [ConversationsRepository.upsertConversation_true]
          exact inductionHypothesis _ _

/-- A loop that ends well has written every entry. -/
theorem writtenEntries_of_storeEntries
    {table : ConversationTable} {entries : List ListedConversationDto}
    {outcomes : ℕ → EntryOutcome}
    (stored : (storeEntries json table entries outcomes).1 = true) :
    (writtenEntries entries outcomes).map Prod.fst = entries := by
  induction entries generalizing table outcomes with
  | nil => rfl
  | cons entry entries inductionHypothesis =>
      rw [storeEntries] at stored
      rw [writtenEntries]
      cases executed : (outcomes 0).upserted with
      | false =>
          rw [executed] at stored
          cases stored
      | true =>
          rw [executed, ConversationsRepository.upsertConversation_true]
            at stored
          rw [if_pos rfl, List.map_cons, inductionHypothesis stored]

/-- The table after a refresh. -/
theorem refreshConversations_table
    (table : ConversationTable) (response : NetworkResponse)
    (outcomes : ℕ → EntryOutcome) :
    (refreshConversations json table response outcomes).2 =
      table.replaceAll
        ((refreshedEntries json response outcomes).map
          (writtenRow json)) := by
  rw [refreshConversations, refreshedEntries]
  cases (ConversationsApi.listConversations json response).accepted with
  | none => rfl
  | some entries => exact storeEntries_table table entries outcomes

/-- After a refresh a conversation has the row of its last entry, if one is
written. -/
theorem lookup_refreshConversations
    (table : ConversationTable) (response : NetworkResponse)
    (outcomes : ℕ → EntryOutcome) (conversationId : QString) :
    (refreshConversations json table response outcomes).2.lookup
        conversationId =
      ((Table.lastOf
          (fun written : ListedConversationDto × EntryOutcome =>
            written.1.conversationId)
          (refreshedEntries json response outcomes)
          conversationId).map (writtenRow json)).or
        (table.lookup conversationId) := by
  rw [refreshConversations_table, Table.lookup_replaceAll, Table.lastOf_map]
  rfl

/-- After a refresh the table has the ids it had and those of the entries that
are written. -/
theorem mem_keys_refreshConversations
    (table : ConversationTable) (response : NetworkResponse)
    (outcomes : ℕ → EntryOutcome) (conversationId : QString) :
    conversationId ∈
        (refreshConversations json table response outcomes).2.rows.map
          ConversationRow.conversationId ↔
      conversationId ∈ table.rows.map ConversationRow.conversationId ∨
        conversationId ∈
          ((refreshedEntries json response outcomes).map Prod.fst).map
            ListedConversationDto.conversationId := by
  rw [refreshConversations_table, Table.mem_keys_replaceAll, List.map_map,
    List.map_map]
  rfl

end Written

end ConversationService
end Services
end VoxDesktop
