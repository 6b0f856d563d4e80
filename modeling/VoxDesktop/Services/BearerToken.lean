import VoxDesktop.Services.Requests

/-!
# The bearer token of every request

The HTTP access is shared: the service sets its token, and every interface of
the client sends requests through it.  Token and context are written by
separate statements, but they agree whenever a call has returned, so that every
request carries the token of the session that is in place and of no other.
-/

namespace VoxDesktop
namespace Services
namespace AuthService

open Library Qt Crypto Network Storage

/-- The token that a context stands for. -/
def contextToken (context : Option AuthContext) : QString :=
  (context.map AuthContext.accessToken).getD []

/-- The HTTP access holds the token of the context, and none without one. -/
def BearerMatches (service : AuthService) : Prop :=
  service.m_network.m_bearerToken = contextToken service.m_context

/-- A call of the service, or a request that another object sends through the
same HTTP access. -/
inductive SessionEvent
  | call (authCall : AuthCall)
  | execute (method path : QString) (body : QByteArray)
      (contentType : QString)

section Steps

variable (json : QJsonDocument) (sodium : Sodium)
  (sha256 : QByteArray → List.Vector UInt8 kSha256Bytes)

/-- The request of an event, if it makes one, and the service after it. -/
def sessionStep (service : AuthService) :
    SessionEvent → Option HttpRequest × AuthService
  | .call authCall =>
      let result := step json sodium sha256 service authCall
      (result.1.posted, result.2)
  | .execute method path body contentType =>
      (some (service.m_network.execute method path body contentType), service)

/-- What an event writes to the context: a logout clears it, and any other call
writes the session it is offered. -/
def writtenContext (service : AuthService) :
    SessionEvent → Option (Option AuthContext)
  | .call (.logout _) => some none
  | .call authCall =>
      (offeredSession json sodium sha256 service authCall).map some
  | .execute _ _ _ _ => none

end Steps

section Invariant

variable {json : QJsonDocument} {sodium : Sodium}
  {sha256 : QByteArray → List.Vector UInt8 kSha256Bytes}
  {service : AuthService}

theorem logout_context (outcome : LogoutOutcome) :
    (logout json sodium service outcome).2.m_context = none := by
  unfold logout
  split
  next absent => exact Option.isNone_iff_eq_none.mp absent
  next => rfl

/-- A logout clears token and context together, or finds both cleared. -/
theorem logout_bearerMatches
    (matching : BearerMatches service)
    (outcome : LogoutOutcome) :
    BearerMatches (logout json sodium service outcome).2 := by
  unfold logout
  split
  · exact matching
  · rfl

/-- A call other than a logout writes what it is offered. -/
theorem step_context
    {call : AuthCall}
    (notLogout : call.isLogout = false) :
    (step json sodium sha256 service call).2.m_context =
      (offeredSession json sodium sha256 service call).or
        service.m_context := by
  have installs :=
    @step_installs json sodium sha256 service call notLogout
  cases offered : offeredSession json sodium sha256 service call with
  | none =>
      rw [offered] at installs
      exact installs.2.1
  | some session =>
      rw [offered] at installs
      exact installs.2.1

theorem step_bearerMatches
    (matching : BearerMatches service)
    (call : AuthCall) :
    BearerMatches (step json sodium sha256 service call).2 := by
  by_cases isLogout : call.isLogout = false
  · have installs :=
      @step_installs json sodium sha256 service call isLogout
    cases offered : offeredSession json sodium sha256 service call with
    | none =>
        rw [offered] at installs
        obtain ⟨_, sameContext, sameNetwork⟩ := installs
        rw [BearerMatches, sameContext, sameNetwork]
        exact matching
    | some session =>
        rw [offered] at installs
        obtain ⟨_, context, bearer⟩ := installs
        rw [BearerMatches, context, bearer]
        rfl
  · cases call with
    | logout outcome => exact logout_bearerMatches matching outcome
    | registerUser username passwordDerived outcome => contradiction
    | login username passwordDerived outcome => contradiction
    | restoreSession outcome => contradiction

theorem sessionStep_bearerMatches
    (matching : BearerMatches service)
    (event : SessionEvent) :
    BearerMatches (sessionStep json sodium sha256 service event).2 := by
  cases event with
  | call authCall => exact step_bearerMatches matching authCall
  | execute method path body contentType => exact matching

/-- The context is a register that the calls write. -/
theorem sessionStep_context (event : SessionEvent) :
    (sessionStep json sodium sha256 service event).2.m_context =
      (writtenContext json sodium sha256 service event).getD
        service.m_context := by
  have offers :
      ∀ call : AuthCall, call.isLogout = false →
        (step json sodium sha256 service call).2.m_context =
          ((offeredSession json sodium sha256 service call).map some).getD
            service.m_context := by
    intro call notLogout
    rw [step_context notLogout]
    cases offeredSession json sodium sha256 service call <;> rfl
  cases event with
  | execute method path body contentType => rfl
  | call authCall =>
      cases authCall with
      | logout outcome => exact logout_context outcome
      | registerUser username passwordDerived outcome => exact offers _ rfl
      | login username passwordDerived outcome => exact offers _ rfl
      | restoreSession outcome => exact offers _ rfl

/-- A request carries the token that is set when it is made. -/
theorem sessionStep_authorization
    {event : SessionEvent} {request : HttpRequest}
    (made :
      (sessionStep json sodium sha256 service event).1 = some request) :
    request.authorization =
      authorizationOf service.m_network.m_bearerToken := by
  cases event with
  | call authCall =>
      obtain ⟨body, rfl⟩ :=
        (@step_posts json sodium sha256 service authCall).2 request made
      exact NetworkAccess.authorization_execute _ _ _ _ _
  | execute method path body contentType =>
      obtain rfl := Option.some.inj made
      exact NetworkAccess.authorization_execute _ _ _ _ _

end Invariant

/-! ## Runs -/

section Runs

variable (json : QJsonDocument) (sodium : Sodium)
  (sha256 : QByteArray → List.Vector UInt8 kSha256Bytes)

/-- Nothing between a logout and a later event establishes a session, so there
is none. -/
theorem context_after_logout
    (service : AuthService) (earlier between : List SessionEvent)
    (outcome : LogoutOutcome)
    (quiet :
      Machine.EachStep
        (fun state event =>
          writtenContext json sodium sha256 state event = none)
        (sessionStep json sodium sha256)
        (Machine.run (sessionStep json sodium sha256) service
          (earlier ++ [.call (.logout outcome)])) between) :
    (Machine.run (sessionStep json sodium sha256) service
      (earlier ++ .call (.logout outcome) :: between)).m_context = none := by
  rw [List.append_cons, Machine.run_append]
  refine Machine.run_invariant_of_eachStep
    (fun state : AuthService => state.m_context = none) _ ?_ ?_ quiet
  · intro state event absent unwritten
    rw [sessionStep_context, unwritten, absent]
    rfl
  · rw [Machine.run_append]
    exact logout_context outcome

/-- In every state that a service reaches from its construction, the token is
the one of the context.  Every request carries exactly that token; the context
is the session established last, unless there was a logout since; and a request
between a logout and the next session carries none. -/
theorem request_carries_context_token
    (baseUrl : QString)
    (accounts : List Account)
    (vault : VaultService × Files)
    (serverId deviceId : QString)
    (events : List SessionEvent) :
    let start : AuthService :=
      { constructed ⟨baseUrl, []⟩ vault serverId deviceId with
        m_accountsRepository := accounts }
    let run := Machine.run (sessionStep json sodium sha256) start
    let service := run events
    service.m_network.m_bearerToken = contextToken service.m_context ∧
      (∀ event request,
        (sessionStep json sodium sha256 service event).1 = some request →
          request.authorization =
            authorizationOf (contextToken service.m_context)) ∧
      service.m_context =
        (Machine.observed (writtenContext json sodium sha256)
          (sessionStep json sodium sha256) start events).getLast?.getD none ∧
      ∀ earlier outcome between,
        events = earlier ++ .call (.logout outcome) :: between →
          Machine.EachStep
            (fun state event =>
              writtenContext json sodium sha256 state event = none)
            (sessionStep json sodium sha256)
            (run (earlier ++ [.call (.logout outcome)])) between →
          ∀ event request,
            (sessionStep json sodium sha256 service event).1 =
                some request →
              request.authorization = [] := by
  intro start run service
  have initially : BearerMatches start := rfl
  have matching : BearerMatches service :=
    Machine.run_invariant BearerMatches
      (fun _ event holds => sessionStep_bearerMatches holds event) initially
      events
  have carries : ∀ event request,
      (sessionStep json sodium sha256 service event).1 = some request →
        request.authorization =
          authorizationOf (contextToken service.m_context) := by
    intro event request made
    rw [← matching]
    exact sessionStep_authorization made
  refine ⟨matching, carries, ?_, ?_⟩
  · exact Machine.read_run_eq_getLast AuthService.m_context
      (fun state event => sessionStep_context event) start events
  · intro earlier outcome between split quiet event request made
    have absent : service.m_context = none := by
      have after :=
        context_after_logout json sodium sha256 start earlier between outcome
          quiet
      rw [← split] at after
      exact after
    rw [carries event request made, absent]
    rfl

end Runs

end AuthService
end Services
end VoxDesktop
