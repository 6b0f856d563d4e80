import VoxDesktop.Application.ReferenceApplication

/-!
# The server that credentials go to

The welcome page announces the URL of every server that passes its health
check.  The services are initialized with the first one for which that works
and ignore all later ones, so a sign-in goes to the first server even when the
page shows another one as connected.
-/

namespace VoxDesktop
namespace Application

open Library Qt Network Storage Services AuthService Ui

/-- The paths of sign-ins. -/
def AppEvent.submission : AppEvent → Option QString
  | loginSubmitted _ _ _ _ => some ApiPaths.kLogin
  | registerSubmitted _ _ _ _ => some ApiPaths.kRegister
  | _ => none

section Announcements

variable (env : Environment)

/-- The URL that an event announces. -/
def announcement (state : AppState) (event : AppEvent) : Option QString :=
  (appStep env state event).1.announced

/-- The URL that an event announces and initializes the services with. -/
def initialization (state : AppState) (event : AppEvent) : Option QString :=
  if (appStep env state event).1.initialized then announcement env state event
  else none

/-- The most recently announced URL. -/
def lastAnnounced (start : AppState) (events : List AppEvent) :
    Option QString :=
  (Machine.observed (announcement env) (appStep env) start events).getLast?

/-- The URL that the services were initialized with. -/
def initializedWith (start : AppState) (events : List AppEvent) :
    Option QString :=
  (Machine.observed (initialization env) (appStep env) start events).head?

/-- Every login or register request goes to the URL that was announced
last. -/
def CredentialsGoToAnnounced (start : AppState) (events : List AppEvent) :
    Prop :=
  ∀ earlier event later path request,
    events = earlier ++ event :: later →
      event.submission = some path →
        (appStep env (Machine.run (appStep env) start earlier)
            event).1.auth.posted = some request →
          ∃ url, lastAnnounced env start earlier = some url ∧
            request.url = url ++ path

end Announcements

/-! ## The page -/

section Page

variable {env : Environment} {state : AppState}

/-- An event announces the URL that the page selects, or leaves a page that
has signing in enabled with the URL it had. -/
structure PageStep
    (before : AppState) (result : AppReport × AppState) : Prop where
  announces : ∀ url, result.1.announced = some url →
    result.2.page.m_selectedBaseUrl = url
  keeps : result.1.announced = none →
    result.2.page.signInEnabled = true →
      before.page.signInEnabled = true ∧
        result.2.page.m_selectedBaseUrl = before.page.m_selectedBaseUrl

theorem pageStep_of_same
    {result : AppReport × AppState}
    (quiet : result.1.announced = none)
    (same : result.2.page = state.page) :
    PageStep state result := by
  refine ⟨fun url announced => ?_, fun _ enabled => ?_⟩
  · rw [quiet] at announced
    contradiction
  · rw [same] at enabled ⊢
    exact ⟨enabled, rfl⟩

theorem pageStep_of_disabled
    {result : AppReport × AppState}
    (quiet : result.1.announced = none)
    (disabled : result.2.page.signInEnabled = false) :
    PageStep state result := by
  refine ⟨fun url announced => ?_, fun _ enabled => ?_⟩
  · rw [quiet] at announced
    contradiction
  · rw [disabled] at enabled
    contradiction

theorem page_refreshConversations (refreshed : Refreshed) :
    (state.refreshConversations refreshed).page = state.page := by
  obtain ⟨conversationId, selects⟩ :=
    @AppState.refreshConversations_selects state refreshed
  rw [selects]
  rfl

/-- The handler announces the URL it is given and leaves the page alone. -/
theorem serverBaseUrlReady_announces
    (baseUrl : QString) (outcome : InitializeOutcome)
    (restore : RestoreOutcome) (refreshed : Refreshed) :
    let result :=
      state.serverBaseUrlReady env baseUrl outcome restore refreshed
    result.1.announced = some baseUrl ∧ result.2.page = state.page := by
  intro result
  unfold result AppState.serverBaseUrlReady
  split
  · exact ⟨rfl, rfl⟩
  dsimp only
  split
  · exact ⟨rfl, rfl⟩
  dsimp only
  split
  · exact ⟨rfl, page_refreshConversations refreshed⟩
  · exact ⟨rfl, rfl⟩

theorem pageStep_healthFinished
    (health : NetworkResponse) (outcome : InitializeOutcome)
    (restore : RestoreOutcome) (refreshed : Refreshed) :
    PageStep state
      (state.healthFinished env health outcome restore refreshed) := by
  unfold AppState.healthFinished
  split
  · exact pageStep_of_same rfl rfl
  cases WelcomePage.checkHealthSync env.json health with
  | false => exact pageStep_of_disabled rfl rfl
  | true =>
      dsimp only [WelcomePage.onHealthFinished]
      rw [if_neg (by simp)]
      obtain ⟨announced, page⟩ := serverBaseUrlReady_announces _ _ _ _
      refine ⟨fun url equal => ?_, fun quiet => ?_⟩
      · rw [announced, Option.some.injEq] at equal
        rw [page]
        exact equal
      · rw [announced] at quiet
        contradiction

theorem pageStep_connectClicked (edited : QString) :
    PageStep state (appStep env state (.connectClicked edited)) := by
  simp only [appStep, WelcomePage.onConnectClicked]
  split
  · exact pageStep_of_same rfl rfl
  split
  · refine ⟨fun url announced => ?_, fun _ enabled => ⟨enabled, rfl⟩⟩
    contradiction
  · exact pageStep_of_disabled rfl rfl

theorem pageStep_signInSubmitted (call : AuthCall) (refreshed : Refreshed) :
    PageStep state (state.signInSubmitted env call refreshed) := by
  unfold AppState.signInSubmitted
  split
  · exact pageStep_of_same rfl rfl
  refine pageStep_of_same rfl ?_
  dsimp only
  split
  · exact page_refreshConversations refreshed
  · rfl

theorem pageStep_appStep (event : AppEvent) :
    PageStep state (appStep env state event) := by
  by_cases selects : event.selectsOnly = true
  · obtain ⟨conversationId, after⟩ := @appStep_selects env state event selects
    rw [after]
    exact pageStep_of_same rfl rfl
  cases event with
  | connectClicked edited => exact pageStep_connectClicked edited
  | healthFinished health outcome restore refreshed =>
      exact pageStep_healthFinished health outcome restore refreshed
  | loginSubmitted username passwordDerived outcome refreshed =>
      exact pageStep_signInSubmitted _ refreshed
  | registerSubmitted username passwordDerived outcome refreshed =>
      exact pageStep_signInSubmitted _ refreshed
  | logoutRequested outcome => exact pageStep_of_same rfl rfl
  | conversationSelected conversationId summary =>
      refine pageStep_of_same rfl ?_
      simp only [appStep, AppState.conversationSelected]
      split
      · rfl
      · split <;> rfl
  | socketError =>
      refine pageStep_of_same rfl ?_
      simp only [appStep, AppState.socketError]
      split <;> rfl
  | pollTimeout response =>
      simp only [appStep, AppState.pollTimeout]
      split
      · split <;> exact pageStep_of_same rfl rfl
      · exact pageStep_of_same rfl rfl
  | _ => exact absurd rfl selects

/-- A page that has signing in enabled shows the server that was announced
last. -/
theorem page_shows_announced
    (env : Environment) (remembered defaultUrl : QString) (data : AppData)
    (events : List AppEvent) :
    let start := AppState.start (.constructed remembered defaultUrl) data
    let reached := (Machine.run (appStep env) start events).page
    reached.signInEnabled = true →
      lastAnnounced env start events = some reached.m_selectedBaseUrl := by
  intro start
  dsimp only
  induction events using List.reverseRecOn with
  | nil => exact nofun
  | append_singleton events event inductionHypothesis =>
      have did := @pageStep_appStep env
        (Machine.run (appStep env) start events) event
      rw [lastAnnounced, Machine.observed_concat, Machine.run_append,
        Machine.run_cons, Machine.run_nil]
      intro enabled
      cases announced : announcement env
          (Machine.run (appStep env) start events) event with
      | none =>
          obtain ⟨enabledBefore, same⟩ := did.keeps announced enabled
          rw [same, Option.toList_none, List.append_nil]
          exact inductionHypothesis enabledBefore
      | some url =>
          rw [did.announces url announced, Option.toList_some,
            List.getLast?_concat]

end Page

/-! ## The base URL of the services -/

section Steps

variable {env : Environment} {state : AppState}

/-- Services that are not initialized have no base URL. -/
def Consistent (state : AppState) : Prop :=
  state.servicesInitialized = false → state.services.baseUrl = none

theorem baseUrl_callAuth (services : ServiceLocator) (call : AuthCall) :
    (services.callAuth env.json env.sodium env.sha256 call).2.baseUrl =
      services.baseUrl := by
  unfold ServiceLocator.callAuth
  cases active : services.m_authService with
  | none => rfl
  | some service =>
      have kept := (@step_goesTo env.json env.sodium env.sha256 service
        call).1
      unfold ServiceLocator.baseUrl
      rw [active]
      exact congrArg some kept

/-- What an event does to the services: once initialized, they keep their base
URL, and until then there are none. -/
structure ServicesStep
    (before : AppState) (result : AppReport × AppState) : Prop where
  consistent : Consistent result.2
  baseUrl : result.2.services.baseUrl =
    before.services.baseUrl.or
      (if result.1.initialized then result.1.announced else none)

/-- An event that keeps the base URL and initializes nothing. -/
theorem servicesStep_of_same
    {result : AppReport × AppState}
    (consistent : Consistent state)
    (sameInitialized :
      result.2.servicesInitialized = state.servicesInitialized)
    (sameUrl : result.2.services.baseUrl = state.services.baseUrl)
    (idle : result.1.initialized = false) :
    ServicesStep state result := by
  refine ⟨fun notInitialized => ?_, ?_⟩
  · rw [sameUrl]
    exact consistent (sameInitialized.symm.trans notInitialized)
  · rw [sameUrl, idle, if_neg (by simp), Option.or_none]

/-- A refresh on top of an event. -/
theorem ServicesStep.refreshed
    {report : AppReport} {after : AppState}
    (did : ServicesStep state (report, after)) (refreshed : Refreshed) :
    ServicesStep state (report, after.refreshConversations refreshed) := by
  obtain ⟨conversationId, selects⟩ :=
    @AppState.refreshConversations_selects after refreshed
  rw [selects]
  exact ⟨did.consistent, did.baseUrl⟩

theorem servicesStep_serverBaseUrlReady
    (consistent : Consistent state)
    (baseUrl : QString) (outcome : InitializeOutcome)
    (restore : RestoreOutcome) (refreshed : Refreshed) :
    ServicesStep state
      (state.serverBaseUrlReady env baseUrl outcome restore refreshed) := by
  unfold AppState.serverBaseUrlReady
  split
  · exact servicesStep_of_same consistent rfl rfl rfl
  rename_i notInitialized
  have none : state.services.baseUrl = none :=
    consistent (Bool.not_eq_true _ ▸ notInitialized)
  dsimp only
  rcases @ServiceLocator.initializeServices_cases env.json env.sodium
      env.appDataPath baseUrl env.vaultPassword state.services.data outcome
    with ⟨error, left, failed, _⟩ | ⟨_, service, made, active, network, _⟩
  · rw [failed]
    exact ⟨fun _ => rfl, by rw [none]; rfl⟩
  · simp only [made]
    have url : (ServiceLocator.initializeServices env.json env.sodium
        env.appDataPath baseUrl env.vaultPassword state.services.data
        outcome).2.baseUrl = some baseUrl := by
      rw [ServiceLocator.baseUrl, active, Option.map_some, network]
    rw [← @baseUrl_callAuth env _ (.restoreSession restore)] at url
    split
    · apply ServicesStep.refreshed
      exact ⟨fun impossible => by contradiction, by rw [none]; exact url⟩
    · exact ⟨fun impossible => by contradiction, by rw [none]; exact url⟩

theorem servicesStep_healthFinished
    (consistent : Consistent state)
    (health : NetworkResponse) (outcome : InitializeOutcome)
    (restore : RestoreOutcome) (refreshed : Refreshed) :
    ServicesStep state
      (state.healthFinished env health outcome restore refreshed) := by
  unfold AppState.healthFinished
  split
  · exact servicesStep_of_same consistent rfl rfl rfl
  dsimp only
  split
  · exact servicesStep_of_same consistent rfl rfl rfl
  · rename_i baseUrl _
    have did := @servicesStep_serverBaseUrlReady env
      { state with
        page := (state.page.onHealthFinished
          (WelcomePage.checkHealthSync env.json health)).2 }
      consistent baseUrl outcome restore refreshed
    exact ⟨did.consistent, did.baseUrl⟩

theorem servicesStep_signInSubmitted
    (consistent : Consistent state) (call : AuthCall)
    (refreshed : Refreshed) :
    ServicesStep state (state.signInSubmitted env call refreshed) := by
  have same := @baseUrl_callAuth env state.services call
  unfold AppState.signInSubmitted
  split
  · exact servicesStep_of_same consistent rfl rfl rfl
  dsimp only
  split
  · apply ServicesStep.refreshed
    exact servicesStep_of_same consistent rfl same rfl
  · exact servicesStep_of_same consistent rfl same rfl

theorem servicesStep_appStep
    (consistent : Consistent state) (event : AppEvent) :
    ServicesStep state (appStep env state event) := by
  by_cases selects : event.selectsOnly = true
  · obtain ⟨conversationId, after⟩ := @appStep_selects env state event selects
    rw [after]
    exact servicesStep_of_same consistent rfl rfl rfl
  cases event with
  | connectClicked edited => exact servicesStep_of_same consistent rfl rfl rfl
  | healthFinished health outcome restore refreshed =>
      exact servicesStep_healthFinished consistent health outcome restore
        refreshed
  | loginSubmitted username passwordDerived outcome refreshed =>
      exact servicesStep_signInSubmitted consistent _ refreshed
  | registerSubmitted username passwordDerived outcome refreshed =>
      exact servicesStep_signInSubmitted consistent _ refreshed
  | logoutRequested outcome =>
      refine servicesStep_of_same consistent rfl ?_ rfl
      simp only [appStep, AppState.logoutRequested]
      split
      · exact baseUrl_callAuth state.services _
      · rfl
  | conversationSelected conversationId summary =>
      simp only [appStep, AppState.conversationSelected]
      split
      · exact servicesStep_of_same consistent rfl rfl rfl
      · split <;> exact servicesStep_of_same consistent rfl rfl rfl
  | socketError =>
      simp only [appStep, AppState.socketError]
      split <;> exact servicesStep_of_same consistent rfl rfl rfl
  | pollTimeout response =>
      simp only [appStep, AppState.pollTimeout]
      split
      · split <;> exact servicesStep_of_same consistent rfl rfl rfl
      · exact servicesStep_of_same consistent rfl rfl rfl
  | _ => exact absurd rfl selects

/-- A sign-in goes to its path under the base URL of the services. -/
theorem posted_submission
    {event : AppEvent} {path : QString} {request : HttpRequest}
    (submits : event.submission = some path)
    (posts : (appStep env state event).1.auth.posted = some request) :
    ∃ url, state.services.baseUrl = some url ∧ request.url = url ++ path := by
  have submitted : ∀ (call : AuthCall) (refreshed : Refreshed),
      (state.signInSubmitted env call refreshed).1.auth.posted =
          some request →
        ∃ url, state.services.baseUrl = some url ∧
          request.url = url ++ call.path := by
    intro call refreshed posts
    unfold AppState.signInSubmitted ServiceLocator.callAuth at posts
    split at posts
    · contradiction
    cases active : state.services.m_authService with
    | none =>
        rw [active] at posts
        contradiction
    | some service =>
        rw [active] at posts
        refine ⟨service.m_network.m_baseUrl, ?_, ?_⟩
        · rw [ServiceLocator.baseUrl, active, Option.map_some]
        · exact (@step_goesTo env.json env.sodium env.sha256 service
            call).2 request posts
  cases event with
  | loginSubmitted username passwordDerived outcome refreshed =>
      obtain rfl := Option.some.inj submits
      exact submitted _ refreshed posts
  | registerSubmitted username passwordDerived outcome refreshed =>
      obtain rfl := Option.some.inj submits
      exact submitted _ refreshed posts
  | _ => contradiction

end Steps

/-! ## Runs -/

section Runs

variable {env : Environment} {page : WelcomePage} {data : AppData}

/-- The services have the base URL they were initialized with. -/
theorem baseUrl_run (events : List AppEvent) :
    (Machine.run (appStep env) (.start page data) events).services.baseUrl =
      initializedWith env (.start page data) events := by
  have read := Machine.read_run_eq_head
    (fun state : AppState => state.services.baseUrl) Consistent
    (fun state event consistent =>
      (@servicesStep_appStep env state consistent event).consistent)
    (fun state event consistent =>
      (@servicesStep_appStep env state consistent event).baseUrl)
    (show Consistent (.start page data) from fun _ => rfl) events
  exact read.trans (Option.none_or)

end Runs

/-- In every run, login and register requests go to the URL that was announced
last exactly when, at every submission that makes a request, this is the URL
that the services were initialized with. -/
theorem sign_in_goes_to_announced_iff
    (env : Environment)
    (page : WelcomePage)
    (data : AppData)
    (events : List AppEvent) :
    let start := AppState.start page data
    CredentialsGoToAnnounced env start events ↔
      ∀ earlier event later,
        events = earlier ++ event :: later →
          event.submission.isSome = true →
            (appStep env (Machine.run (appStep env) start earlier)
                event).1.auth.posted.isSome = true →
              lastAnnounced env start earlier =
                initializedWith env start earlier := by
  intro start
  constructor
  · rintro goes earlier event later split submits posts
    obtain ⟨path, submits⟩ := Option.isSome_iff_exists.mp submits
    obtain ⟨request, posts⟩ := Option.isSome_iff_exists.mp posts
    obtain ⟨url, announced, sent⟩ :=
      goes earlier event later path request split submits posts
    obtain ⟨base, initialized, sentToBase⟩ :=
      posted_submission submits posts
    have same : url = base :=
      List.append_cancel_right (sent.symm.trans sentToBase)
    rw [announced, same, ← initialized, baseUrl_run]
  · rintro same earlier event later path request split submits posts
    obtain ⟨url, initialized, sent⟩ := posted_submission submits posts
    refine ⟨url, ?_, sent⟩
    rw [same earlier event later split (Option.isSome_of_mem submits)
      (Option.isSome_of_mem posts), ← baseUrl_run, initialized]

/-! ## A second server -/

section Examples

open ReferenceApplication

/-- Two servers are shown as connected, one after the other. -/
def twoServers : List AppEvent :=
  connecting firstServer ++ connecting secondServer

/-- A login then goes to the first one. -/
theorem login_goes_to_first_server :
    ¬CredentialsGoToAnnounced environment (.start page emptyData)
      (twoServers ++ [loggingIn]) := by
  intro goes
  have announced :
      lastAnnounced environment (.start page emptyData) twoServers =
        some secondServer := by
    decide +kernel
  have posted :
      (appStep environment
        (Machine.run (appStep environment) (.start page emptyData)
          twoServers) loggingIn).1.auth.posted.map HttpRequest.url =
        some (firstServer ++ ApiPaths.kLogin) := by
    decide +kernel
  obtain ⟨request, posts, sent⟩ := Option.map_eq_some_iff.mp posted
  obtain ⟨url, last, goesTo⟩ :=
    goes twoServers loggingIn [] ApiPaths.kLogin request rfl rfl posts
  obtain rfl : secondServer = url := Option.some.inj (announced.symm.trans last)
  have same : firstServer = secondServer :=
    List.append_cancel_right (sent.symm.trans goesTo)
  exact absurd same (by decide)

end Examples

end Application
end VoxDesktop
