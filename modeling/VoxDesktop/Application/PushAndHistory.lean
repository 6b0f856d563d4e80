import VoxDesktop.Application.ReferenceApplication

/-!
# Pushed envelopes and the history

An envelope of the selected conversation is stored when it is pushed or polled
and again when the conversation is selected again.  Both times the same row is
built but for one decision: whether the conversation is a direct message to
the user.  The history decides it on a fresh summary.  A push takes what the
last selection with a summary decided, which may have been the selection of
another conversation.
-/

namespace VoxDesktop
namespace Application

open Library Qt Domain Network Storage Services Ui

/-! ## The decision that a push uses -/

/-- What a selection whose summary is loaded decides. -/
def decision (state : AppState) : AppEvent → Option Bool
  | .conversationSelected _ summary =>
      if state.servicesInitialized then
        summary.accepted.map fun _ => isSelfDm state.services.context summary
      else none
  | _ => none

/-- The decision of the last selection whose summary was loaded. -/
def lastDecision
    (env : Environment) (start : AppState) (events : List AppEvent) : Bool :=
  (Machine.observed decision (appStep env) start events).getLast?.getD
    start.ui.selectedConversationIsSelfDm

theorem selfDm_appStep
    (env : Environment) (state : AppState) (event : AppEvent) :
    (appStep env state event).2.ui.selectedConversationIsSelfDm =
      (decision state event).getD
        state.ui.selectedConversationIsSelfDm := by
  by_cases inside : event.outsideFrame = false
  · rw [(appStep_frame inside).selfDm]
    cases event <;> first | rfl | contradiction
  · cases event <;> try exact absurd rfl inside
    case conversationSelected conversationId summary =>
      simp only [appStep, AppState.conversationSelected, decision]
      cases state.servicesInitialized with
      | false => rfl
      | true => cases summary.accepted <;> rfl
    case pollTimeout response =>
      simp only [appStep, AppState.pollTimeout]
      split
      · split <;> rfl
      · rfl

theorem selfDm_run
    (env : Environment) (start : AppState) (events : List AppEvent) :
    (Machine.run (appStep env) start events).ui.selectedConversationIsSelfDm =
      lastDecision env start events :=
  Machine.read_run_eq_getLast
    (fun state : AppState => state.ui.selectedConversationIsSelfDm)
    (selfDm_appStep env) start events

/-! ## Rows of envelopes -/

section Rows

variable {auth : Option AuthContext} {table later : MessageTable}

/-- The row of an envelope depends on the decision through its direction
only. -/
theorem envelopeMessage_eq
    {envelope : EnvelopeDto} {first second : Bool}
    (sameDirection :
      isOutgoing auth envelope first = isOutgoing auth envelope second)
    (resolved : ApiResult DirectoryUser) :
    envelopeMessage auth envelope first resolved =
      envelopeMessage auth envelope second resolved := by
  rw [envelopeMessage, envelopeMessage, authorLabel, authorLabel,
    sameDirection]

theorem isOutgoing_eq_iff
    (auth : Option AuthContext) (envelope : EnvelopeDto)
    (first second : Bool) :
    isOutgoing auth envelope first = isOutgoing auth envelope second ↔
      first = second ∨
        isOutgoing auth envelope true = isOutgoing auth envelope false := by
  cases first with
  | false => cases second <;> simp [eq_comm]
  | true => cases second <;> simp

/-- An envelope stored again, over the row from before it was stored or over
its own, has the row that it had exactly when its direction is the same. -/
theorem upsertMessage_agrees_iff
    {envelope : EnvelopeDto} {resolved : ApiResult DirectoryUser}
    {first second : Bool}
    (origin :
      let messageId := envelope.envelopeId
      let pushed := MessagesRepository.upsertMessage table
        (envelopeMessage auth envelope first resolved) true
      later.lookup messageId = table.lookup messageId ∨
        later.lookup messageId = pushed.2.lookup messageId) :
    (MessagesRepository.upsertMessage later
        (envelopeMessage auth envelope second resolved) true).2.lookup
          envelope.envelopeId =
      (MessagesRepository.upsertMessage table
        (envelopeMessage auth envelope first resolved) true).2.lookup
          envelope.envelopeId ↔
      isOutgoing auth envelope first = isOutgoing auth envelope second := by
  have rowAfter := fun (table : MessageTable) (selfDm : Bool) =>
    MessagesRepository.lookup_upsertMessage table
      (envelopeMessage auth envelope selfDm resolved)
  simp only [show ∀ selfDm, (envelopeMessage auth envelope selfDm
    resolved).messageId = envelope.envelopeId from fun _ => rfl] at rowAfter
  dsimp only at origin
  rw [rowAfter] at origin
  rw [rowAfter, rowAfter, Option.some.injEq]
  constructor
  · intro sameRow
    have sameColumn := congrArg MessageRow.isOutgoing sameRow
    rw [MessagesRepository.isOutgoing_stored,
      MessagesRepository.isOutgoing_stored] at sameColumn
    have injective : ∀ direction other : Bool,
        (if direction then (1 : ℤ) else 0) = (if other then 1 else 0) →
          other = direction := by
      decide
    exact injective _ _ sameColumn
  · intro sameDirection
    rw [← envelopeMessage_eq sameDirection]
    rcases origin with before | pushed
    · rw [before]
    · rw [pushed]
      exact MessagesRepository.updateRow_again _ _

end Rows

/-- Other envelopes of a history leave the row of an envelope alone. -/
theorem lookup_loadHistory_of_ne
    {auth : Option AuthContext} {summary : ApiResult ConversationSummaryDto}
    {arrivals : List EnvelopeArrival} {messageId : QString}
    (others : ∀ other ∈ arrivals, other.envelope.envelopeId ≠ messageId)
    (table : MessageTable) :
    (loadHistory auth summary table arrivals).lookup messageId =
      table.lookup messageId := by
  induction arrivals generalizing table with
  | nil => rfl
  | cons arrival arrivals inductionHypothesis =>
      rw [loadHistory, List.foldl_cons, ← loadHistory,
        inductionHypothesis fun other within =>
          others other (List.mem_cons_of_mem _ within)]
      exact MessagesRepository.lookup_upsertMessage_of_ne table
        arrival.upserted (others arrival List.mem_cons_self).symm

/-! ## Agreement -/

/-- In every state that the application reaches, a pushed envelope of the
selected conversation has the row that the history stores for it, over the
table from before the push or over one that has its row, exactly when the last
selection whose summary was loaded decided as the present summary does, or the
envelope has the same direction by its device and by its user. -/
theorem push_agrees_with_history_iff
    (env : Environment)
    (page : WelcomePage)
    (data : AppData)
    (events : List AppEvent)
    (auth : Option AuthContext)
    (table later : MessageTable)
    (arrival : EnvelopeArrival)
    (before after : List EnvelopeArrival)
    (selected : arrival.envelope.conversationId =
      (Machine.run (appStep env) (.start page data)
        events).ui.selectedConversationId)
    (stored : arrival.upserted = true)
    (others : ∀ other ∈ before ++ after,
      other.envelope.envelopeId ≠ arrival.envelope.envelopeId)
    (origin :
      let state := Machine.run (appStep env) (.start page data) events
      let messageId := arrival.envelope.envelopeId
      later.lookup messageId = table.lookup messageId ∨
        later.lookup messageId =
          (applyEnvelope state.ui auth table arrival).lookup messageId) :
    let state := Machine.run (appStep env) (.start page data) events
    let messageId := arrival.envelope.envelopeId
    (applyEnvelope state.ui auth table arrival).lookup messageId =
        (loadHistory auth arrival.summary later
          (before ++ arrival :: after)).lookup messageId ↔
      lastDecision env (.start page data) events =
          isSelfDm auth arrival.summary ∨
        isOutgoing auth arrival.envelope true =
          isOutgoing auth arrival.envelope false := by
  intro state messageId
  have applied : applyEnvelope state.ui auth table arrival =
      (MessagesRepository.upsertMessage table
        (envelopeMessage auth arrival.envelope
          state.ui.selectedConversationIsSelfDm arrival.resolved) true).2 := by
    unfold applyEnvelope appliedMessage
    rw [if_pos selected, stored]
  have othersBefore : ∀ other ∈ before,
      other.envelope.envelopeId ≠ messageId :=
    fun other member => others other (List.mem_append_left _ member)
  have othersAfter : ∀ other ∈ after,
      other.envelope.envelopeId ≠ messageId :=
    fun other member => others other (List.mem_append_right _ member)
  -- Only the arrival itself writes its row in the history.
  let reached := loadHistory auth arrival.summary later before
  have reachedRow : reached.lookup messageId = later.lookup messageId :=
    lookup_loadHistory_of_ne othersBefore later
  have loaded :
      (loadHistory auth arrival.summary later
          (before ++ arrival :: after)).lookup messageId =
        (MessagesRepository.upsertMessage reached
          (envelopeMessage auth arrival.envelope
            (isSelfDm auth arrival.summary) arrival.resolved) true).2.lookup
          messageId := by
    rw [loadHistory, List.foldl_append, List.foldl_cons, ← loadHistory,
      ← loadHistory, lookup_loadHistory_of_ne othersAfter, stored]
    rfl
  have reachedOrigin :
      reached.lookup messageId = table.lookup messageId ∨
        reached.lookup messageId =
          (MessagesRepository.upsertMessage table
            (envelopeMessage auth arrival.envelope
              state.ui.selectedConversationIsSelfDm arrival.resolved)
            true).2.lookup messageId := by
    rw [reachedRow, ← applied]
    exact origin
  rw [loaded, applied, eq_comm, upsertMessage_agrees_iff reachedOrigin,
    isOutgoing_eq_iff, ← selfDm_run]

/-! ## A group after a direct message to oneself -/

section Examples

open ReferenceApplication

def conversationAnswer (type : ℤ) (peerUserId : Option QString) :
    ApiResult ConversationSummaryDto :=
  ⟨true, 200, [], some ⟨type, peerUserId⟩⟩

/-- The user has a direct message to himself selected. -/
def selfDmSelected : List AppEvent :=
  connecting firstServer ++
    [loggingIn, .conversationSelected (QString.literal "c1")
      (conversationAnswer 0 (some (QString.literal "u1")))]

/-- The user then makes a group. -/
def groupCreated : List AppEvent :=
  selfDmSelected ++ [.createGroupRequested (some (QString.literal "g1")) none]

/-- An envelope that another device of the user has sent. -/
def fromOtherDevice
    (conversationId : String) (summary : ApiResult ConversationSummaryDto) :
    EnvelopeArrival where
  envelope :=
    { envelopeId := QString.literal "e1"
      conversationId := QString.literal conversationId
      senderUserId := QString.literal "u1"
      senderDeviceId := QString.literal "dev_phone"
      ciphertext := encryptForTransport (QString.literal "hi")
      serverTimestamp := 1 }
  summary := summary
  resolved := ⟨true, 200, [], some ⟨QString.literal "u1",
    QString.literal "alice"⟩⟩
  upserted := true

def inSelfDm : EnvelopeArrival :=
  fromOtherDevice "c1" (conversationAnswer 0 (some (QString.literal "u1")))

def inGroup : EnvelopeArrival :=
  fromOtherDevice "g1" (conversationAnswer 1 none)

/-- The state after a run. -/
def stateAfter (events : List AppEvent) : AppState :=
  Machine.run (appStep environment) (.start page emptyData) events

/-- In the direct message that was selected, a push agrees with the
history. -/
theorem push_agrees_with_history_selfDm :
    let auth := (stateAfter selfDmSelected).services.context
    let state :=
      Machine.run (appStep environment) (.start page emptyData) selfDmSelected
    let messageId := inSelfDm.envelope.envelopeId
    (applyEnvelope state.ui auth .empty inSelfDm).lookup messageId =
      (loadHistory auth inSelfDm.summary .empty
        ([] ++ inSelfDm :: [])).lookup messageId := by
  have selected : inSelfDm.envelope.conversationId =
      (Machine.run (appStep environment) (.start page emptyData)
        selfDmSelected).ui.selectedConversationId := by
    decide +kernel
  have decided :
      lastDecision environment (.start page emptyData) selfDmSelected =
        isSelfDm (stateAfter selfDmSelected).services.context
          inSelfDm.summary := by
    decide +kernel
  exact (push_agrees_with_history_iff environment page emptyData
    selfDmSelected (stateAfter selfDmSelected).services.context .empty .empty
    inSelfDm [] [] selected rfl (by simp) (Or.inl rfl)).mpr (Or.inl decided)

/-- In the group, which the user has not selected himself, a push stores the
envelope as incoming and the history as outgoing. -/
theorem push_differs_from_history_in_group :
    let state := stateAfter groupCreated
    let auth := state.services.context
    let messageId := inGroup.envelope.envelopeId
    let pushed := (applyEnvelope state.ui auth .empty inGroup).lookup messageId
    let loaded :=
      (loadHistory auth inGroup.summary .empty [inGroup]).lookup messageId
    inGroup.envelope.conversationId = state.ui.selectedConversationId ∧
      pushed.map MessageRow.isOutgoing = some 0 ∧
      loaded.map MessageRow.isOutgoing = some 1 ∧ pushed ≠ loaded := by
  decide +kernel

end Examples

end Application
end VoxDesktop
