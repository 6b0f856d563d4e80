import VoxDesktop.Application.Envelopes
import VoxDesktop.Application.ServiceLocator
import VoxDesktop.Domain.Conversations
import VoxDesktop.Network.ConversationQueries
import VoxDesktop.Ui.WelcomePage

/-!
# The handlers of the application

The handlers that `bin/Application` connects to the signals of the window, the
socket and the poll timer, over the variables they share.  What services
answer, and the authentication service itself, are as in their own modules;
the table of messages, which no handler reads to decide anything, is kept out.

The frame of the module is `Frame`: the events that leave both the poll's
cursor and the decision about the selected conversation alone.
-/

namespace VoxDesktop
namespace Application

open Library Qt Crypto Domain Network Storage Services AuthService Ui

def kPendingEnvelopesPageSize : ℤ := 100

/-- What a process runs in. -/
structure Environment where
  json : QJsonDocument
  sodium : Sodium
  sha256 : QByteArray → List.Vector UInt8 kSha256Bytes
  appDataPath : QString
  vaultPassword : QString

/-- The variables that the handlers share. -/
structure AppState where
  page : WelcomePage
  services : ServiceLocator
  servicesInitialized : Bool := false
  ui : UiState := ⟨[], false⟩
  pendingCursor : QString := []
  /-- `poll_timer.isActive()`. -/
  pollTimerActive : Bool := false

/-- What a refresh of the conversations returns and lists, when it returns
true. -/
abbrev Refreshed : Type := Option (List Conversation)

/-- What an event does outside the shared variables. -/
structure AppReport where
  /-- The request of a health check. -/
  health : Option (HttpRequest × QUrlQuery) := none
  /-- The call of the authentication service. -/
  auth : AuthReport := {}
  /-- The request of the poll. -/
  poll : Option (HttpRequest × QUrlQuery) := none
  /-- The URL that the welcome page announces. -/
  announced : Option QString := none
  /-- The services are initialized with the URL that is announced. -/
  initialized : Bool := false

inductive AppEvent
  | connectClicked (edited : QString)
  | healthFinished (health : NetworkResponse) (outcome : InitializeOutcome)
      (restore : RestoreOutcome) (refreshed : Refreshed)
  | loginSubmitted (username passwordDerived : QString)
      (outcome : LoginOutcome) (refreshed : Refreshed)
  | registerSubmitted (username passwordDerived : QString)
      (outcome : RegisterOutcome) (refreshed : Refreshed)
  | logoutRequested (outcome : LogoutOutcome)
  | conversationSelected (conversationId : QString)
      (summary : ApiResult ConversationSummaryDto)
  | createDmRequested (created : Option QString) (refreshed : Refreshed)
  | createGroupRequested (created : Option QString) (refreshed : Refreshed)
  | createChannelRequested (created : Option QString) (refreshed : Refreshed)
  | subscribeChannelRequested (conversationId : QString) (subscribed : Bool)
      (refreshed : Refreshed)
  | sendMessageSubmitted (permitted : Bool) (refreshed : Refreshed)
  /-- A delayed refresh. -/
  | refreshTimeout (refreshed : Refreshed)
  | socketError
  | pollTimeout (response : NetworkResponse)

namespace AppState

/-- A process that starts on what earlier ones left. -/
def start (page : WelcomePage) (data : AppData) : AppState where
  page := page
  services := ⟨data, none⟩

section Handlers

variable (env : Environment) (state : AppState)

def select (conversationId : QString) : AppState :=
  { state with
    ui := { state.ui with selectedConversationId := conversationId } }

/-- The first conversation that is listed gets selected when none is. -/
def refreshConversations (refreshed : Refreshed) : AppState :=
  match refreshed with
  | some (first :: _) =>
      if state.ui.selectedConversationId = [] then
        state.select first.conversationId
      else state
  | _ => state

def serverBaseUrlReady
    (baseUrl : QString) (outcome : InitializeOutcome)
    (restore : RestoreOutcome) (refreshed : Refreshed) :
    AppReport × AppState :=
  if state.servicesInitialized then ({ announced := some baseUrl }, state)
  else
    let made :=
      ServiceLocator.initializeServices env.json env.sodium env.appDataPath
        baseUrl env.vaultPassword state.services.data outcome
    match made.1 with
    | some _ =>
        ({ announced := some baseUrl }, { state with services := made.2 })
    | none =>
        let restored :=
          made.2.callAuth env.json env.sodium env.sha256
            (.restoreSession restore)
        let ready :=
          { state with services := restored.2, servicesInitialized := true }
        ({ auth := restored.1, announced := some baseUrl, initialized := true },
          if restored.1.returned then ready.refreshConversations refreshed
          else ready)

/-- The page takes the result of its health check, if it has one running, and
the URL that it announces is handled. -/
def healthFinished
    (health : NetworkResponse) (outcome : InitializeOutcome)
    (restore : RestoreOutcome) (refreshed : Refreshed) :
    AppReport × AppState :=
  if state.page.checking = false then ({}, state)
  else
    let finished :=
      state.page.onHealthFinished
        (WelcomePage.checkHealthSync env.json health)
    let shown := { state with page := finished.2 }
    match finished.1 with
    | none => ({}, shown)
    | some baseUrl =>
        shown.serverBaseUrlReady env baseUrl outcome restore refreshed

/-- What the handlers of both kinds of sign-in do. -/
def signInSubmitted (call : AuthCall) (refreshed : Refreshed) :
    AppReport × AppState :=
  if state.servicesInitialized = false then ({}, state)
  else
    let result :=
      state.services.callAuth env.json env.sodium env.sha256 call
    let after := { state with services := result.2 }
    ({ auth := result.1 },
      if result.1.returned then after.refreshConversations refreshed
      else after)

def loginSubmitted
    (username passwordDerived : QString) (outcome : LoginOutcome)
    (refreshed : Refreshed) : AppReport × AppState :=
  state.signInSubmitted env (.login username passwordDerived outcome)
    refreshed

def registerSubmitted
    (username passwordDerived : QString) (outcome : RegisterOutcome)
    (refreshed : Refreshed) : AppReport × AppState :=
  state.signInSubmitted env (.registerUser username passwordDerived outcome)
    refreshed

def logoutRequested (outcome : LogoutOutcome) : AppReport × AppState :=
  let result :=
    if state.servicesInitialized then
      state.services.callAuth env.json env.sodium env.sha256 (.logout outcome)
    else ({}, state.services)
  ({ auth := result.1 },
    { state.select [] with services := result.2, pollTimerActive := false })

def conversationSelected
    (conversationId : QString) (summary : ApiResult ConversationSummaryDto) :
    AppState :=
  if state.servicesInitialized = false then state
  else
    let selected := state.select conversationId
    match summary.accepted with
    | none => selected
    | some _ =>
        { selected with
          ui := { selected.ui with
            selectedConversationIsSelfDm :=
              isSelfDm state.services.context summary } }

def createDmRequested (created : Option QString) (refreshed : Refreshed) :
    AppState :=
  if state.servicesInitialized = false then state
  else
    match created with
    | none => state
    | some conversationId =>
        (state.select conversationId).refreshConversations refreshed

/-- Groups and channels are created by a user who is signed in. -/
def createAuthenticated (created : Option QString) (refreshed : Refreshed) :
    AppState :=
  if state.services.context.isNone then state
  else state.createDmRequested created refreshed

def createGroupRequested (created : Option QString) (refreshed : Refreshed) :
    AppState :=
  state.createAuthenticated created refreshed

def createChannelRequested (created : Option QString) (refreshed : Refreshed) :
    AppState :=
  state.createAuthenticated created refreshed

def subscribeChannelRequested
    (conversationId : QString) (subscribed : Bool) (refreshed : Refreshed) :
    AppState :=
  if state.servicesInitialized = false ∨ subscribed = false then state
  else (state.select conversationId).refreshConversations refreshed

def sendMessageSubmitted (permitted : Bool) (refreshed : Refreshed) :
    AppState :=
  if state.services.context.isNone ∨ state.ui.selectedConversationId = [] ∨
      permitted = false then state
  else state.refreshConversations refreshed

def refreshTimeout (refreshed : Refreshed) : AppState :=
  if state.servicesInitialized = false then state
  else state.refreshConversations refreshed

def socketError : AppState :=
  if state.servicesInitialized then { state with pollTimerActive := true }
  else state

/-- The timer fires while it is active.  The envelopes of the batch go to
`apply_envelope`. -/
def pollTimeout (response : NetworkResponse) : AppReport × AppState :=
  match state.pollTimerActive, state.servicesInitialized,
    state.services.m_authService with
  | true, true, some service =>
      let request :=
        ConversationsApi.pendingEnvelopesRequest service.m_network
          kPendingEnvelopesPageSize state.pendingCursor
      match (ConversationsApi.pendingEnvelopes env.json response).accepted with
      | none => ({ poll := some request }, state)
      | some batch =>
          ({ poll := some request },
            { state with pendingCursor := batch.nextCursor })
  | _, _, _ => ({}, state)

end Handlers

end AppState

open AppState in
def appStep (env : Environment) (state : AppState) :
    AppEvent → AppReport × AppState
  | .connectClicked edited =>
      let clicked := state.page.onConnectClicked edited
      ({ health := clicked.1 }, { state with page := clicked.2 })
  | .healthFinished health outcome restore refreshed =>
      state.healthFinished env health outcome restore refreshed
  | .loginSubmitted username passwordDerived outcome refreshed =>
      state.loginSubmitted env username passwordDerived outcome refreshed
  | .registerSubmitted username passwordDerived outcome refreshed =>
      state.registerSubmitted env username passwordDerived outcome refreshed
  | .logoutRequested outcome => state.logoutRequested env outcome
  | .conversationSelected conversationId summary =>
      ({}, state.conversationSelected conversationId summary)
  | .createDmRequested created refreshed =>
      ({}, state.createDmRequested created refreshed)
  | .createGroupRequested created refreshed =>
      ({}, state.createGroupRequested created refreshed)
  | .createChannelRequested created refreshed =>
      ({}, state.createChannelRequested created refreshed)
  | .subscribeChannelRequested conversationId subscribed refreshed =>
      ({}, state.subscribeChannelRequested conversationId subscribed refreshed)
  | .sendMessageSubmitted permitted refreshed =>
      ({}, state.sendMessageSubmitted permitted refreshed)
  | .refreshTimeout refreshed => ({}, state.refreshTimeout refreshed)
  | .socketError => ({}, state.socketError)
  | .pollTimeout response => state.pollTimeout env response

/-! ## What events do to the selection -/

/-- The events that select a conversation, if anything, and do nothing
else. -/
def AppEvent.selectsOnly : AppEvent → Bool
  | createDmRequested _ _ => true
  | createGroupRequested _ _ => true
  | createChannelRequested _ _ => true
  | subscribeChannelRequested _ _ _ => true
  | sendMessageSubmitted _ _ => true
  | refreshTimeout _ => true
  | _ => false

namespace AppState

variable {env : Environment} {state : AppState}

/-- A refresh selects a conversation, be it the one that was selected. -/
theorem refreshConversations_selects (refreshed : Refreshed) :
    ∃ conversationId,
      state.refreshConversations refreshed = state.select conversationId := by
  unfold refreshConversations
  split
  · split
    · exact ⟨_, rfl⟩
    · exact ⟨_, rfl⟩
  · exact ⟨_, rfl⟩

theorem select_refreshConversations_selects
    (conversationId : QString) (refreshed : Refreshed) :
    ∃ other,
      (state.select conversationId).refreshConversations refreshed =
        state.select other := by
  obtain ⟨other, selects⟩ :=
    @refreshConversations_selects (state.select conversationId) refreshed
  exact ⟨other, selects⟩

theorem createDmRequested_selects
    (created : Option QString) (refreshed : Refreshed) :
    ∃ conversationId,
      state.createDmRequested created refreshed =
        state.select conversationId := by
  unfold createDmRequested
  split
  · exact ⟨_, rfl⟩
  split
  · exact ⟨_, rfl⟩
  · exact select_refreshConversations_selects _ refreshed

theorem createAuthenticated_selects
    (created : Option QString) (refreshed : Refreshed) :
    ∃ conversationId,
      state.createAuthenticated created refreshed =
        state.select conversationId := by
  unfold createAuthenticated
  split
  · exact ⟨_, rfl⟩
  · exact createDmRequested_selects created refreshed

end AppState

open AppState in
theorem appStep_selects
    {env : Environment} {state : AppState} {event : AppEvent}
    (selects : event.selectsOnly = true) :
    ∃ conversationId,
      appStep env state event = ({}, state.select conversationId) := by
  suffices afterSelects : ∃ conversationId,
      (appStep env state event).2 = state.select conversationId by
    obtain ⟨conversationId, after⟩ := afterSelects
    refine ⟨conversationId, Prod.ext ?_ after⟩
    cases event <;> first | rfl | contradiction
  cases event with
  | createDmRequested created refreshed =>
      exact createDmRequested_selects created refreshed
  | createGroupRequested created refreshed =>
      exact createAuthenticated_selects created refreshed
  | createChannelRequested created refreshed =>
      exact createAuthenticated_selects created refreshed
  | subscribeChannelRequested conversationId subscribed refreshed =>
      simp only [appStep, subscribeChannelRequested]
      split
      · exact ⟨_, rfl⟩
      · exact select_refreshConversations_selects _ refreshed
  | sendMessageSubmitted permitted refreshed =>
      simp only [appStep, sendMessageSubmitted]
      split
      · exact ⟨_, rfl⟩
      · exact refreshConversations_selects refreshed
  | refreshTimeout refreshed =>
      simp only [appStep, refreshTimeout]
      split
      · exact ⟨_, rfl⟩
      · exact refreshConversations_selects refreshed
  | _ => contradiction

/-! ## What most events leave alone -/

/-- Neither the cursor of the poll nor the decision about the selected
conversation changes. -/
structure Frame (before after : AppState) : Prop where
  cursor : after.pendingCursor = before.pendingCursor
  selfDm : after.ui.selectedConversationIsSelfDm =
    before.ui.selectedConversationIsSelfDm

/-- The events that may change the cursor or the decision. -/
def AppEvent.outsideFrame : AppEvent → Bool
  | conversationSelected _ _ => true
  | pollTimeout _ => true
  | _ => false

namespace AppState

variable {env : Environment} {state : AppState}

/-- A refresh on top of a change. -/
theorem frame_refreshed
    {before after : AppState}
    (frame : Frame before after) (refreshed : Refreshed) :
    Frame before (after.refreshConversations refreshed) := by
  obtain ⟨conversationId, selects⟩ :=
    @refreshConversations_selects after refreshed
  rw [selects]
  exact ⟨frame.cursor, frame.selfDm⟩

theorem serverBaseUrlReady_frame
    (baseUrl : QString) (outcome : InitializeOutcome)
    (restore : RestoreOutcome) (refreshed : Refreshed) :
    Frame state
      (state.serverBaseUrlReady env baseUrl outcome restore refreshed).2 := by
  unfold serverBaseUrlReady
  split
  · exact ⟨rfl, rfl⟩
  dsimp only
  split
  · exact ⟨rfl, rfl⟩
  dsimp only
  split
  · apply frame_refreshed
    exact ⟨rfl, rfl⟩
  · exact ⟨rfl, rfl⟩

theorem healthFinished_frame
    (health : NetworkResponse) (outcome : InitializeOutcome)
    (restore : RestoreOutcome) (refreshed : Refreshed) :
    Frame state
      (state.healthFinished env health outcome restore refreshed).2 := by
  unfold healthFinished
  split
  · exact ⟨rfl, rfl⟩
  dsimp only
  split
  · exact ⟨rfl, rfl⟩
  · rename_i baseUrl _
    have frame := @serverBaseUrlReady_frame env
      { state with
        page := (state.page.onHealthFinished
          (WelcomePage.checkHealthSync env.json health)).2 }
      baseUrl outcome restore refreshed
    exact ⟨frame.cursor, frame.selfDm⟩

theorem signInSubmitted_frame (call : AuthCall) (refreshed : Refreshed) :
    Frame state (state.signInSubmitted env call refreshed).2 := by
  unfold signInSubmitted
  split
  · exact ⟨rfl, rfl⟩
  dsimp only
  split
  · apply frame_refreshed
    exact ⟨rfl, rfl⟩
  · exact ⟨rfl, rfl⟩

end AppState

open AppState in
/-- The selection of a conversation and the poll alone are outside the
frame. -/
theorem appStep_frame
    {env : Environment} {state : AppState} {event : AppEvent}
    (inside : event.outsideFrame = false) :
    Frame state (appStep env state event).2 := by
  by_cases selects : event.selectsOnly = true
  · obtain ⟨conversationId, after⟩ := @appStep_selects env state event selects
    rw [after]
    exact ⟨rfl, rfl⟩
  cases event with
  | connectClicked edited => exact ⟨rfl, rfl⟩
  | healthFinished health outcome restore refreshed =>
      exact healthFinished_frame health outcome restore refreshed
  | loginSubmitted username passwordDerived outcome refreshed =>
      exact signInSubmitted_frame _ refreshed
  | registerSubmitted username passwordDerived outcome refreshed =>
      exact signInSubmitted_frame _ refreshed
  | logoutRequested outcome => exact ⟨rfl, rfl⟩
  | socketError =>
      simp only [appStep, socketError]
      split <;> exact ⟨rfl, rfl⟩
  | conversationSelected conversationId summary => contradiction
  | pollTimeout response => contradiction
  | _ => exact absurd rfl selects

end Application
end VoxDesktop
