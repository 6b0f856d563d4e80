import VoxDesktop.Application.ReferenceApplication

/-!
# The cursor of the poll

The poll asks for pending envelopes after a cursor, which is what the last
answered poll has returned.  Signing in and out leave it alone, so a session
may start with the cursor of another one.  It is only the first polls of a
session that can carry one: once a poll of the session is answered, the cursor
is its own.
-/

namespace VoxDesktop
namespace Application

open Library Qt Network Storage Services AuthService Ui

/-- The cursor of a request for pending envelopes. -/
def sentCursor (request : HttpRequest × QUrlQuery) : QString :=
  (request.2.lookup (QString.literal "cursor")).getD []

theorem sentCursor_pendingEnvelopesRequest
    (network : NetworkAccess) (limit : ℤ) (cursor : QString) :
    sentCursor
        (ConversationsApi.pendingEnvelopesRequest network limit cursor) =
      cursor := by
  unfold sentCursor ConversationsApi.pendingEnvelopesRequest
  by_cases empty : cursor = []
  · rw [if_pos empty, empty]
    rfl
  · rw [if_neg empty]
    rfl

/-- The cursor that the answer to a poll returns. -/
def answeredCursor (env : Environment) (state : AppState) (event : AppEvent) :
    Option QString :=
  match event with
  | .pollTimeout response =>
      if (appStep env state event).1.poll.isSome then
        (ConversationsApi.pendingEnvelopes env.json response).accepted.map
          EnvelopeBatchResponse.nextCursor
      else none
  | _ => none

/-- The event starts or ends a session: a logout, or a call of the
authentication service that returns true or gets as far as installing what a
server has offered. -/
def changesSession (env : Environment) (state : AppState) (event : AppEvent) :
    Bool :=
  match event with
  | .logoutRequested _ => true
  | _ =>
      let report := (appStep env state event).1.auth
      report.returned || report.persisted

/-! ## Sessions -/

/-- The application with the cursors that the polls of the present session
have returned. -/
structure PolledSession where
  app : AppState
  cursors : List QString := []

def PolledSession.step
    (env : Environment) (session : PolledSession) (event : AppEvent) :
    AppReport × PolledSession :=
  let result := appStep env session.app event
  (result.1,
    { app := result.2
      cursors :=
        if changesSession env session.app event then []
        else session.cursors ++
          (answeredCursor env session.app event).toList })

/-- A poll asks with no cursor or with one of its session. -/
def PollsWithOwnCursor
    (env : Environment) (session : PolledSession) (event : AppEvent) : Prop :=
  ∀ request, (session.step env event).1.poll = some request →
    sentCursor request = [] ∨ sentCursor request ∈ session.cursors

/-- A poll that no answered poll of its session precedes finds an empty
cursor. -/
def StartsEmpty
    (env : Environment) (session : PolledSession) (event : AppEvent) : Prop :=
  (session.step env event).1.poll.isSome = true → session.cursors = [] →
    session.app.pendingCursor = []

section Steps

variable {env : Environment} {state : AppState} {event : AppEvent}

theorem poll_healthFinished
    (health : NetworkResponse) (outcome : InitializeOutcome)
    (restore : RestoreOutcome) (refreshed : Refreshed) :
    (state.healthFinished env health outcome restore refreshed).1.poll =
      none := by
  unfold AppState.healthFinished
  split
  · rfl
  dsimp only
  split
  · rfl
  unfold AppState.serverBaseUrlReady
  split
  · rfl
  dsimp only
  split <;> rfl

/-- The poll does nothing, or asks with its cursor and takes the next one from
the answer. -/
theorem pollTimeout_cases (response : NetworkResponse) :
    state.pollTimeout env response = ({}, state) ∨
      ∃ network,
        state.pollTimeout env response =
          ({ poll := some
              (ConversationsApi.pendingEnvelopesRequest network
                kPendingEnvelopesPageSize state.pendingCursor) },
            { state with
              pendingCursor :=
                ((ConversationsApi.pendingEnvelopes env.json
                  response).accepted.map
                    EnvelopeBatchResponse.nextCursor).getD
                      state.pendingCursor }) := by
  unfold AppState.pollTimeout
  split
  · rename_i service _ _ _
    right
    refine ⟨service.m_network, ?_⟩
    cases (ConversationsApi.pendingEnvelopes env.json response).accepted with
    | none => rfl
    | some batch => rfl
  · exact Or.inl rfl

theorem poll_signInSubmitted (call : AuthCall) (refreshed : Refreshed) :
    (state.signInSubmitted env call refreshed).1.poll = none := by
  unfold AppState.signInSubmitted
  split <;> rfl

/-- A poll sends the cursor. -/
theorem sentCursor_appStep
    {request : HttpRequest × QUrlQuery}
    (polls : (appStep env state event).1.poll = some request) :
    sentCursor request = state.pendingCursor := by
  cases event with
  | pollTimeout response =>
      rcases @pollTimeout_cases env state response with
        idle | ⟨network, asks⟩
      · rw [appStep, idle] at polls
        contradiction
      · rw [appStep, asks] at polls
        rw [← Option.some.inj polls, sentCursor_pendingEnvelopesRequest]
  | healthFinished health outcome restore refreshed =>
      rw [appStep, poll_healthFinished] at polls
      contradiction
  | loginSubmitted username passwordDerived outcome refreshed =>
      rw [appStep, AppState.loginSubmitted, poll_signInSubmitted] at polls
      contradiction
  | registerSubmitted username passwordDerived outcome refreshed =>
      rw [appStep, AppState.registerSubmitted, poll_signInSubmitted] at polls
      contradiction
  | _ => contradiction

/-- The cursor becomes what the answer to a poll returns. -/
theorem pendingCursor_appStep :
    (appStep env state event).2.pendingCursor =
      (answeredCursor env state event).getD state.pendingCursor := by
  by_cases inside : event.outsideFrame = false
  · rw [(appStep_frame inside).cursor]
    cases event <;> first | rfl | contradiction
  · cases event <;> try exact absurd rfl inside
    case conversationSelected conversationId summary =>
      simp only [appStep, AppState.conversationSelected, answeredCursor,
        Option.getD_none]
      split
      · rfl
      · split <;> rfl
    case pollTimeout response =>
      rw [answeredCursor, appStep]
      rcases @pollTimeout_cases env state response with
        idle | ⟨network, asks⟩
      · rw [idle]
        rfl
      · rw [asks]
        rfl

end Steps

/-! ## Runs -/

/-- A session that has had an answer has its cursor from an answer. -/
def CursorIsOwn (session : PolledSession) : Prop :=
  session.cursors ≠ [] → session.app.pendingCursor ∈ session.cursors

theorem cursorIsOwn_step
    {env : Environment} {session : PolledSession}
    (own : CursorIsOwn session) (event : AppEvent) :
    CursorIsOwn (session.step env event).2 := by
  unfold CursorIsOwn PolledSession.step
  dsimp only
  rw [pendingCursor_appStep]
  split
  · intro nonempty
    contradiction
  · cases answeredCursor env session.app event with
    | none =>
        intro nonempty
        rw [Option.toList_none, List.append_nil] at nonempty ⊢
        exact own nonempty
    | some cursor => simp

/-! ## A second session -/

section Examples

open ReferenceApplication

/-- An answer to the poll that returns a cursor. -/
def batchWithCursor : NetworkResponse where
  statusCode := 200
  body := ReferenceJson.json.toJson
    [stringMember "next_cursor" (QString.literal "c1")]
  errorMessage := []

/-- A session that polls, a logout, and a second session in which the socket
fails again. -/
def secondSession : List AppEvent :=
  connecting firstServer ++
    [loggingIn, .socketError, .pollTimeout batchWithCursor,
      .logoutRequested ReferenceService.logoutOutcome, loggingIn, .socketError]

end Examples

end Application
end VoxDesktop
