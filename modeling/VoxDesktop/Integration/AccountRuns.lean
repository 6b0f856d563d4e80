import VoxDesktop.Integration.Accounts
import VoxDesktop.Library.Machine
import VoxDesktop.Qt.ReferenceJson

/-!
# The accounts over runs of the server

Requests of anyone in any order, and the switches of the tests in between.
-/

namespace VoxDesktop
namespace Integration

open Library Qt Network FakeVoxServer

/-! ## Runs -/

inductive ServerEvent
  | request (request : ServerRequest) (moment : Moment)
  | forceUnauthorized (value : Bool)
  | failNextSend (value : Bool)

def serverStep (json : QJsonDocument) (server : FakeVoxServer) :
    ServerEvent → Option NetworkResponse × FakeVoxServer
  | .request request moment =>
      let handled := server.handle json request moment
      (some handled.1, handled.2)
  | .forceUnauthorized value => (none, server.setForceUnauthorized value)
  | .failNextSend value => (none, server.setFailNextSend value)

/-- The server after events, from its construction on. -/
def serverAfter (json : QJsonDocument) (events : List ServerEvent) :
    FakeVoxServer :=
  Machine.run (serverStep json) {} events

theorem wellFormed_initial : ({} : FakeVoxServer).WellFormed := by
  constructor <;> intros <;> contradiction

section Runs

variable {json : QJsonDocument} {server : FakeVoxServer}

theorem serverStep_grows
    (wellFormed : server.WellFormed) (event : ServerEvent) :
    (serverStep json server event).2.WellFormed ∧
      Extends server (serverStep json server event).2 := by
  cases event with
  | request request moment => exact handle_accounts.grows wellFormed
  | forceUnauthorized value =>
      exact @AccountsHandled.grows _ json ⟨0, [], []⟩ _
        (.unchanged ⟨rfl, rfl, rfl, rfl⟩) wellFormed
  | failNextSend value =>
      exact @AccountsHandled.grows _ json ⟨0, [], []⟩ _
        (.unchanged ⟨rfl, rfl, rfl, rfl⟩) wellFormed

theorem run_grows
    (wellFormed : server.WellFormed) (events : List ServerEvent) :
    (Machine.run (serverStep json) server events).WellFormed ∧
      Extends server (Machine.run (serverStep json) server events) := by
  apply Machine.run_invariant
    (fun reached => reached.WellFormed ∧ Extends server reached)
  · rintro reached event ⟨kept, grown⟩
    obtain ⟨next, further⟩ := serverStep_grows kept event
    exact ⟨next, grown.trans further⟩
  · exact ⟨wellFormed, .refl server⟩

theorem serverAfter_wellFormed (events : List ServerEvent) :
    (serverAfter json events).WellFormed :=
  (run_grows wellFormed_initial events).1

/-! ## The counters -/

/-- No counter is above a bound. -/
structure FakeVoxServer.CountersUpTo
    (bound : ℕ) (server : FakeVoxServer) : Prop where
  user : server.m_userSeq ≤ bound
  envelope : server.m_envelopeSeq ≤ bound
  attachment : server.m_attachmentSeq ≤ bound

section Counters

variable {bound : ℕ} {request : ServerRequest} {moment : Moment}

theorem FakeVoxServer.CountersUpTo.mono
    (counted : server.CountersUpTo bound) {higher : ℕ}
    (le : bound ≤ higher) : server.CountersUpTo higher :=
  ⟨counted.user.trans le, counted.envelope.trans le,
    counted.attachment.trans le⟩

theorem FakeVoxServer.IsRefusal.counters
    {handled : NetworkResponse × FakeVoxServer}
    (refusal : IsRefusal json server handled)
    (counted : server.CountersUpTo bound) :
    handled.2.CountersUpTo (bound + 1) := by
  obtain ⟨_, _, _, _, rfl⟩ := refusal
  exact counted.mono (Nat.le_succ bound)

theorem handleSession_counters
    (counted : server.CountersUpTo bound) (userId route : QString) :
    (server.handleSession json userId request moment
      route).2.CountersUpTo (bound + 1) := by
  have unmoved := counted.mono (Nat.le_succ bound)
  rcases @handleSession_state json server request moment userId route with
    same | sent | reserved | written
  · rw [same]
    exact unmoved
  · rw [sent, handleSend]
    split
    · exact ⟨unmoved.user, unmoved.envelope, unmoved.attachment⟩
    split
    · exact unmoved
    · refine ⟨unmoved.user, ?_, unmoved.attachment⟩
      dsimp only
      split
      · exact Nat.succ_le_succ counted.envelope
      · exact unmoved.envelope
  · rw [reserved]
    exact ⟨unmoved.user, unmoved.envelope,
      Nat.succ_le_succ counted.attachment⟩
  · rw [written, handleChunk]
    split
    · exact unmoved
    · exact ⟨unmoved.user, unmoved.envelope, unmoved.attachment⟩

/-- A request moves each counter by one at most. -/
theorem handle_counters (counted : server.CountersUpTo bound) :
    (server.handle json request moment).2.CountersUpTo (bound + 1) := by
  have unmoved := counted.mono (Nat.le_succ bound)
  unfold handle
  dsimp only
  split
  · exact unmoved
  split
  · rcases @handleRegister_cases json server request with
      refusal | ⟨_, _, _, _, registered⟩
    · exact refusal.counters counted
    · rw [registered]
      exact ⟨Nat.succ_le_succ counted.user, unmoved.envelope,
        unmoved.attachment⟩
  split
  · rcases @handleLogin_cases json server request moment with
      refusal | ⟨_, _, _, _, _, loggedIn⟩
    · exact refusal.counters counted
    · rw [loggedIn]
      exact ⟨unmoved.user, unmoved.envelope, unmoved.attachment⟩
  split
  · rcases @handleRefresh_cases json server request with
      refusal | ⟨_, _, _, _, refreshed⟩
    · exact refusal.counters counted
    · rw [refreshed]
      exact ⟨unmoved.user, unmoved.envelope, unmoved.attachment⟩
  iterate 4
    split
    · exact unmoved
  exact handleSession_counters counted _ _

theorem serverAfter_countersUpTo (events : List ServerEvent) :
    (serverAfter json events).CountersUpTo (events.length + 1) := by
  induction events using List.reverseRecOn with
  | nil => exact ⟨le_rfl, le_rfl, le_rfl⟩
  | append_singleton earlier event inductionHypothesis =>
      have after : serverAfter json (earlier ++ [event]) =
          (serverStep json (serverAfter json earlier) event).2 := by
        rw [serverAfter, Machine.run_append]
        rfl
      obtain ⟨user, envelope, attachment⟩ :=
        inductionHypothesis.mono (Nat.le_succ _)
      rw [after, List.length_append]
      cases event with
      | request request moment => exact handle_counters inductionHypothesis
      | forceUnauthorized value => exact ⟨user, envelope, attachment⟩
      | failNextSend value => exact ⟨user, envelope, attachment⟩

/-- In a run of fewer than `2 ^ 31 - 1` events an `int` counts as the counters
do. -/
theorem toInt32_counters {events : List ServerEvent}
    (few : events.length + 1 < 2147483648) :
    let server := serverAfter json events
    toInt32 server.m_userSeq = server.m_userSeq ∧
      toInt32 server.m_envelopeSeq = server.m_envelopeSeq ∧
      toInt32 server.m_attachmentSeq = server.m_attachmentSeq := by
  obtain ⟨user, envelope, attachment⟩ :=
    @serverAfter_countersUpTo json events
  unfold toInt32
  dsimp only
  omega

end Counters

/-! ## One account for a token -/

theorem FakeVoxServer.WellFormed.isAccountOf_unique
    (wellFormed : server.WellFormed)
    {userId : QString} {first second : AccountState}
    (isFirst : server.IsAccountOf userId first)
    (isSecond : server.IsAccountOf userId second) :
    first = second := by
  have sameName := wellFormed.distinct _ _ first second isFirst.1 isSecond.1
    (isFirst.2.trans isSecond.2.symm)
  have there := isFirst.1
  rw [sameName, isSecond.1] at there
  exact (Option.some.inj there).symm

/-- However the accounts are iterated, the search for a user ends at its
account. -/
theorem FakeVoxServer.WellFormed.find_iteratedAccounts
    (wellFormed : server.WellFormed)
    {userId : QString} {account : AccountState}
    (there : server.IsAccountOf userId account) (moment : Moment) :
    (server.iteratedAccounts moment).find? (fun found =>
      found.userId = userId) = some account := by
  have iterated : ∀ found, found ∈ server.iteratedAccounts moment ↔
      found ∈ server.m_usersByUsername.values :=
    fun found => (moment.iterated_perm _).mem_iff
  have present : account ∈ server.iteratedAccounts moment := by
    rw [iterated]
    exact List.mem_map_of_mem (AList.mem_lookup_iff.mp there.1)
  cases search : (server.iteratedAccounts moment).find? fun found =>
      found.userId = userId with
  | none =>
      have different := List.find?_eq_none.mp search account present
      exact absurd there.2 (by simpa using different)
  | some found =>
      have sameUser : found.userId = userId := by
        simpa using List.find?_some search
      obtain ⟨entry, member, rfl⟩ := List.mem_map.mp
        ((iterated found).mp (List.mem_of_find?_eq_some search))
      have stored :
          server.m_usersByUsername.lookup entry.1 = some entry.2 :=
        AList.mem_lookup_iff.mpr member
      have isFound : server.IsAccountOf userId entry.2 := by
        refine ⟨?_, sameUser⟩
        rwa [wellFormed.named entry.1 entry.2 stored]
      rw [wellFormed.isAccountOf_unique isFound there]

/-- The headers of a request under a token. -/
def bearerHeaders (token : QString) : List (QString × QString) :=
  [(QString.literal "Authorization", bearerPrefix ++ token)]

theorem authUserFromHeaders_of_headerValue
    (notForced : server.m_forceUnauthorized = false)
    {headers : List (QString × QString)} {token userId : QString}
    (carried : headerValue headers (QString.literal "Authorization") =
      bearerPrefix ++ token)
    (issued : server.m_userByAccessToken.lookup token = some userId) :
    server.authUserFromHeaders headers = userId := by
  have prefixed : bearerPrefix.isPrefixOf (bearerPrefix ++ token) = true :=
    List.isPrefixOf_iff_prefix.mpr (List.prefix_append _ _)
  rw [authUserFromHeaders, if_neg (by simp [notForced])]
  dsimp only
  rw [carried, if_pos prefixed, List.drop_left, QHash.valueOr, issued,
    Option.getD_some]

theorem authUserFromHeaders_bearer
    (notForced : server.m_forceUnauthorized = false) {token userId : QString}
    (issued : server.m_userByAccessToken.lookup token = some userId) :
    server.authUserFromHeaders (bearerHeaders token) = userId :=
  authUserFromHeaders_of_headerValue notForced
    (by simp [headerValue, bearerHeaders]) issued

end Runs

/-! ## Accepted registrations -/

/-- The account that an event registers: the one that is found under the name
of the request when a registration is accepted. -/
def acceptedRegistration (json : QJsonDocument) (server : FakeVoxServer) :
    ServerEvent → Option AccountState
  | .request request moment =>
      let handled := server.handle json request moment
      if request.method = QString.literal "POST" ∧
          trimQuery request.path = QString.literal "/v1/register" ∧
          handled.1.statusCode = kHttpOk then
        (parseJson json request.body).bind fun object =>
          handled.2.m_usersByUsername.lookup (stringField object "username")
      else none
  | _ => none

/-- The accounts that events register. -/
def acceptedRegistrations
    (json : QJsonDocument) (events : List ServerEvent) : List AccountState :=
  Machine.observed (acceptedRegistration json) (serverStep json) {} events

/-- A registration that is accepted makes an account under a name that was
free, with the next number. -/
theorem acceptedRegistration_new
    {json : QJsonDocument} {server : FakeVoxServer} {event : ServerEvent}
    {account : AccountState}
    (accepted : acceptedRegistration json server event = some account) :
    server.m_usersByUsername.lookup account.username = none ∧
      account.userId = userIdOf server.m_userSeq ∧
        (serverStep json server event).2.IsAccountOf account.userId
          account := by
  cases event with
  | forceUnauthorized value => contradiction
  | failNextSend value => contradiction
  | request request moment =>
      simp only [acceptedRegistration, serverStep] at accepted ⊢
      split at accepted
      · rename_i facts
        obtain ⟨isPost, isRoute, isOk⟩ := facts
        have routed : server.handle json request moment =
            server.handleRegister json request := by
          unfold handle
          dsimp only
          rw [isPost, isRoute, if_neg (by decide), if_pos ⟨rfl, rfl⟩]
        rw [routed] at accepted isOk ⊢
        rcases @handleRegister_cases json server request with
          ⟨status, code, message, failure, refused⟩ |
            ⟨object, parsed, _, free, result⟩
        · rw [refused] at isOk
          have isStatus : status = kHttpOk := isOk
          rw [isStatus] at failure
          contradiction
        rw [result, parsed] at accepted
        have inserted := accepted.symm.trans (AList.lookup_insert _)
        obtain rfl := Option.some.inj inserted
        rw [result]
        exact ⟨free, rfl, AList.lookup_insert _, rfl⟩
      · contradiction

/-! ## Results -/

/-- `GET /v1/me` under a token. -/
def meRequest (token : QString) (body : QByteArray) : ServerRequest :=
  ⟨QString.literal "GET", QString.literal "/v1/me", body,
    bearerHeaders token⟩

theorem handle_meRequest
    (json : QJsonDocument) (server : FakeVoxServer) (token : QString)
    (body : QByteArray) (moment : Moment) :
    server.handle json (meRequest token body) moment =
      (server.handleMe json (meRequest token body) moment, server) := by
  have route :
      trimQuery (QString.literal "/v1/me") = QString.literal "/v1/me" := by
    decide
  unfold handle meRequest
  dsimp only
  rw [route, if_neg (by decide), if_neg (by decide), if_neg (by decide),
    if_neg (by decide), if_neg (by decide), if_pos ⟨rfl, rfl⟩]

/-- After any events, a token that has been issued to a user names this user
whatever further events happen.  The user has one account, with the name it
had, and this is the account that the server shows for the token, however the
accounts are iterated. -/
theorem token_names_one_account
    (json : QJsonDocument)
    (earlier later : List ServerEvent)
    (token userId : QString)
    (issued :
      (serverAfter json earlier).m_userByAccessToken.lookup token =
        some userId) :
    let before := serverAfter json earlier
    let server := serverAfter json (earlier ++ later)
    server.m_userByAccessToken.lookup token = some userId ∧
      ∃ account, server.IsAccountOf userId account ∧
        (∀ other, server.IsAccountOf userId other → other = account) ∧
        (∀ older, before.IsAccountOf userId older →
          older.username = account.username) ∧
        (server.m_forceUnauthorized = false →
          ∀ body moment,
            server.handle json (meRequest token body) moment =
              (meResponse json account, server)) := by
  intro before server
  have wellFormedBefore := @serverAfter_wellFormed json earlier
  have same : server = Machine.run (serverStep json) before later :=
    Machine.run_append _ _ _ _
  obtain ⟨wellFormed, grown⟩ := @run_grows json _ wellFormedBefore later
  rw [← same] at wellFormed grown
  have kept := grown.access token userId issued
  obtain ⟨_, account, there⟩ := wellFormed.access token userId kept
  refine ⟨kept, account, there,
    fun other isOther => wellFormed.isAccountOf_unique isOther there, ?_, ?_⟩
  · intro older isOlder
    obtain ⟨now, isNow, sameName⟩ := grown.accounts userId older isOlder
    rw [wellFormed.isAccountOf_unique there isNow, sameName]
  · intro notForced body moment
    obtain ⟨number, rfl⟩ := wellFormed.userIdOf_of_isAccountOf there
    have authorized := authUserFromHeaders_bearer notForced kept
    have named : userIdOf number ≠ [] := List.cons_ne_nil _ _
    rw [handle_meRequest]
    simp only [handleMe, meRequest, authorized, if_neg named,
      wellFormed.find_iteratedAccounts there]

/-- The token of the first user. -/
theorem token_names_first_user :
    let registering := ServerEvent.request
      ⟨QString.literal "POST", QString.literal "/v1/register",
        ReferenceJson.json.toJson
          [stringMember "username" (QString.literal "alice"),
            stringMember "password_derived_value" (QString.literal "p"),
            stringMember "device_id" (QString.literal "d")], []⟩
      ⟨1, 2, 3, id, fun _ => .refl _⟩
    ∃ account,
      (serverAfter ReferenceJson.json [registering]).IsAccountOf
          (QString.literal "usr_1") account ∧
        account.username = QString.literal "alice" := by
  intro registering
  have issued : (serverAfter ReferenceJson.json
      [registering]).m_userByAccessToken.lookup
        (QString.literal "acc_usr_1") = some (QString.literal "usr_1") := by
    decide +kernel
  obtain ⟨_, account, there, _⟩ := token_names_one_account
    ReferenceJson.json [registering] [] _ _ issued
  have named : ((serverAfter ReferenceJson.json
      [registering]).m_usersByUsername.entries.map fun entry =>
        entry.2.username) = [QString.literal "alice"] := by
    decide +kernel
  refine ⟨account, there, ?_⟩
  have within := List.mem_map_of_mem (AList.mem_lookup_iff.mp there.1)
    (f := fun entry => entry.2.username)
  rw [List.append_nil, named, List.mem_singleton] at within
  exact within

/-- Over all events, no two accepted registrations have one name or one user,
and each account is there under its name at the end. -/
theorem registrations_apart
    (json : QJsonDocument) (events : List ServerEvent) :
    ((acceptedRegistrations json events).map AccountState.username).Nodup ∧
      ((acceptedRegistrations json events).map AccountState.userId).Nodup ∧
        ∀ account ∈ acceptedRegistrations json events,
          ∃ later,
            (serverAfter json events).IsAccountOf account.userId later ∧
              later.username = account.username := by
  induction events using List.reverseRecOn with
  | nil =>
      exact ⟨List.nodup_nil, List.nodup_nil, fun _ absent => nomatch absent⟩
  | append_singleton earlier event inductionHypothesis =>
      obtain ⟨names, users, there⟩ := inductionHypothesis
      have wellFormed := @serverAfter_wellFormed json earlier
      obtain ⟨_, grown⟩ := @serverStep_grows json _ wellFormed event
      have after : serverAfter json (earlier ++ [event]) =
          (serverStep json (serverAfter json earlier) event).2 := by
        rw [serverAfter, Machine.run_append]
        rfl
      have kept : ∀ account ∈ acceptedRegistrations json earlier,
          ∃ later, (serverAfter json (earlier ++ [event])).IsAccountOf
            account.userId later ∧ later.username = account.username := by
        intro account member
        obtain ⟨found, isFound, sameName⟩ := there account member
        obtain ⟨later, isLater, laterName⟩ :=
          grown.accounts _ found isFound
        exact ⟨later, after ▸ isLater, laterName.trans sameName⟩
      have accounts : acceptedRegistrations json (earlier ++ [event]) =
          acceptedRegistrations json earlier ++
            (acceptedRegistration json (serverAfter json earlier)
              event).toList := Machine.observed_concat _ _ _
      rw [accounts]
      cases accepted :
          acceptedRegistration json (serverAfter json earlier) event with
      | none =>
          simp only [Option.toList_none, List.append_nil]
          exact ⟨names, users, kept⟩
      | some account =>
          obtain ⟨free, numbered, isNew⟩ := acceptedRegistration_new accepted
          have otherName : ∀ older ∈ acceptedRegistrations json earlier,
              older.username ≠ account.username := by
            intro older member same
            obtain ⟨found, isFound, sameName⟩ := there older member
            rw [← same, ← sameName, isFound.1] at free
            contradiction
          have otherUser : ∀ older ∈ acceptedRegistrations json earlier,
              older.userId ≠ account.userId := by
            intro older member same
            obtain ⟨found, isFound, _⟩ := there older member
            obtain ⟨number, less, named⟩ :=
              wellFormed.numbered _ found isFound.1
            rw [numbered, ← isFound.2, named] at same
            exact absurd (userIdOf_injective same) (by omega)
          simp only [Option.toList_some, List.map_append, List.map_singleton]
          refine ⟨?_, ?_, ?_⟩
          · rw [List.nodup_append]
            refine ⟨names, List.nodup_singleton _, ?_⟩
            simpa using otherName
          · rw [List.nodup_append]
            refine ⟨users, List.nodup_singleton _, ?_⟩
            simpa using otherUser
          · intro found member
            rcases List.mem_append.mp member with member | member
            · exact kept found member
            · obtain rfl := List.mem_singleton.mp member
              exact ⟨found, after ▸ isNew, rfl⟩

end Integration
end VoxDesktop
