import VoxDesktop.Application.NewConversations
import VoxDesktop.Integration.Directory
import VoxDesktop.Ui.ConversationListPane

/-!
# New conversations with the server

A user types names, and the handler looks them up at the server one after the
other, while others go on registering and requests get lost.  The conversation
that it asks for has exactly the users of these names as its members.
-/

namespace VoxDesktop
namespace Integration

open Library Qt Network Services Application Ui FakeVoxServer

/-! ## Calls of a handler -/

/-- What happens around a call: others act, and then its request. -/
structure Turn where
  others : List ServerEvent
  exchange : Exchange

/-- The server while a handler runs, with the number of its calls so far and
the conversations that it has asked for. -/
structure Conversing where
  server : FakeVoxServer
  calls : ℕ := 0
  asked : List ConversationCreateRequest := []

section Calls

variable (json : QJsonDocument) (network : NetworkAccess) (turns : ℕ → Turn)

/-- The server that the next call meets. -/
def Conversing.met (state : Conversing) : FakeVoxServer :=
  Machine.run (serverStep json) state.server (turns state.calls).others

def userByUsername (username : QString) (state : Conversing) :
    ApiResult DirectoryUser × Conversing :=
  let result :=
    exchanged json (state.met json turns) network
      (DirectoryApi.userByUsernameRequest network username)
      (turns state.calls).exchange
  (DirectoryApi.userByUsername json result.1,
    { state with server := result.2, calls := state.calls + 1 })

def createConversation
    (request : ConversationCreateRequest) (state : Conversing) :
    ApiResult ConversationCreateResponse × Conversing :=
  let result :=
    exchanged json (state.met json turns) network
      (ConversationsApi.createConversationRequest json network request, [])
      (turns state.calls).exchange
  (ConversationsApi.createConversation json result.1,
    { server := result.2
      calls := state.calls + 1
      asked := state.asked ++ [request] })

/-- The conversations that are created with several users. -/
inductive SharedConversation
  | group
  | channel

namespace SharedConversation

/-- What is asked for with some users. -/
def request : SharedConversation → List QString → ConversationCreateRequest
  | group => groupRequest
  | channel => channelRequest

/-- The dialog of the menu. -/
def dialog (ok : Bool) (text : QString) : SharedConversation → MenuAction
  | group => .group ok text
  | channel => .channel ok text

/-- What is emitted for names. -/
def signal (usernames : List QString) : SharedConversation → PaneSignal
  | group => .createGroupRequested usernames
  | channel => .createChannelRequested usernames

/-- What the handler of a signed-in user asks with names. -/
def create
    (auth : AuthContext) (usernames : List QString) (state : Conversing) :
    SharedConversation → CreateResult × Conversing
  | group =>
      createGroup (userByUsername json network turns)
        (createConversation json network turns) true (some auth) usernames
        state
  | channel =>
      createChannel (userByUsername json network turns)
        (createConversation json network turns) true (some auth) usernames
        state

end SharedConversation

end Calls

/-! ## The directory during a handler -/

/-- The server knows a user by a name, up to a question mark in it. -/
def Named (server : FakeVoxServer) (username userId : QString) : Prop :=
  ∃ account, namedAccount server username = some account ∧
    account.userId = userId

theorem Named.mono
    {before after : FakeVoxServer} {username userId : QString}
    (named : Named before username userId) (wellFormed : before.WellFormed)
    (grown : Extends before after) : Named after username userId := by
  obtain ⟨account, there, rfl⟩ := named
  have isName := wellFormed.named _ _ there
  have isAccount : before.IsAccountOf account.userId account := by
    refine ⟨?_, rfl⟩
    rw [isName]
    exact there
  obtain ⟨later, ⟨isLater, sameUser⟩, sameName⟩ :=
    grown.accounts _ _ isAccount
  rw [sameName, isName] at isLater
  exact ⟨later, isLater, sameUser⟩

/-- Well-formed names and the users that the server knows by them, while it
keeps a property. -/
def directory (kept : FakeVoxServer → Prop) :
    Lookups.Directory Conversing QString QString where
  valid state := state.server.WellFormed ∧ kept state.server
  later before after := Extends before.server after.server
  entry state username userId :=
    IsUtf16 username → Named state.server username userId
  refl state := .refl state.server
  trans first second := first.trans second
  kept valid grown named isText := (named isText).mono valid.1 grown

section Lookups

variable {json : QJsonDocument} {network : NetworkAccess} {turns : ℕ → Turn}

theorem met_grows
    {state : Conversing} (wellFormed : state.server.WellFormed) :
    (state.met json turns).WellFormed ∧
      Extends state.server (state.met json turns) :=
  run_grows wellFormed _

/-- A name in a path is well formed up to a question mark. -/
theorem isUtf16_trimQuery {path : QString} (wellFormed : IsUtf16 path) :
    IsUtf16 (trimQuery path) := by
  by_cases marked : (0x3F : UInt16) ∈ path
  · obtain ⟨first, rest, rfl, plain⟩ := List.eq_append_cons_of_mem marked
    rw [trimQuery_append plain]
    exact (isUtf16_of_append_cons (by decide) wellFormed).1
  · rw [trimQuery_of_not_mem marked]
    exact wellFormed

theorem isUtf16_of_namedAccount
    {server : FakeVoxServer} (wellFormed : server.WellFormed)
    {username : QString} (isText : IsUtf16 username)
    (account : AccountState)
    (named : namedAccount server username = some account) :
    IsUtf16 account.username := by
  rw [wellFormed.named _ _ named]
  exact isUtf16_trimQuery isText

/-- What a call finds under a name is the user of that name. -/
theorem named_of_accepted
    (nested : json.RoundTripsNested) {server : FakeVoxServer}
    (wellFormed : server.WellFormed) {username : QString}
    (isText : IsUtf16 username) {exchange : Exchange} {user : DirectoryUser}
    (accepted : (DirectoryApi.userByUsername json
      (exchanged json server network
        (DirectoryApi.userByUsernameRequest network username)
          exchange).1).accepted = some user) :
    Named (exchanged json server network
      (DirectoryApi.userByUsernameRequest network username) exchange).2
        username user.userId := by
  rcases exchanged_cases json server network
      (DirectoryApi.userByUsernameRequest network username) exchange with
    ⟨notOk, _⟩ | ⟨notOk, _⟩ | same
  · rw [show (DirectoryApi.userByUsername json _).accepted = none from
      accepted_parseResult_of_not_ok notOk _ _] at accepted
    contradiction
  · rw [show (DirectoryApi.userByUsername json _).accepted = none from
      accepted_parseResult_of_not_ok notOk _ _] at accepted
    contradiction
  rw [same, handle_userByUsername] at accepted ⊢
  split at accepted
  · rw [show (DirectoryApi.userByUsername json _).accepted = none from
      accepted_parseResult_of_not_ok unauthorized_not_ok _ _] at accepted
    contradiction
  rename_i signedIn
  rw [accepted_namedResponse nested wellFormed
    (isUtf16_of_namedAccount wellFormed isText)] at accepted
  obtain ⟨account, named, rfl⟩ := Option.map_eq_some_iff.mp accepted
  rw [if_neg signedIn]
  exact ⟨account, named, rfl⟩

theorem sound_resolveUserId
    (nested : json.RoundTripsNested) {kept : FakeVoxServer → Prop}
    (stays : ∀ username state, kept state.server →
      kept (userByUsername json network turns username state).2.server) :
    (directory kept).Sound
      (resolveUserId (userByUsername json network turns)) where
  valid username state valid :=
    ⟨(exchanged_grows (met_grows valid.1).1 _ _ _).1,
      stays username state valid.2⟩
  later username _ valid :=
    (met_grows valid.1).2.trans
      (exchanged_grows (met_grows valid.1).1 _ _ _).2
  found username _ _ valid answer isText := by
    obtain ⟨user, accepted, rfl⟩ := Option.map_eq_some_iff.mp answer
    exact named_of_accepted nested (met_grows valid.1).1 isText accepted

/-- Only the switch of the tests makes the server refuse everything. -/
theorem handle_forceUnauthorized
    {server : FakeVoxServer} {request : ServerRequest} {moment : Moment} :
    (server.handle json request moment).2.m_forceUnauthorized =
      server.m_forceUnauthorized := by
  unfold handle
  dsimp only
  split
  · rfl
  split
  · rcases @handleRegister_cases json server request with
      ⟨_, _, _, _, refused⟩ | ⟨_, _, _, _, result⟩
    · rw [refused]
    · rw [result]
      rfl
  split
  · rcases @handleLogin_cases json server request moment with
      ⟨_, _, _, _, refused⟩ | ⟨_, _, _, _, _, result⟩
    · rw [refused]
    · rw [result]
      rfl
  split
  · rcases @handleRefresh_cases json server request with
      ⟨_, _, _, _, refused⟩ | ⟨_, _, _, _, result⟩
    · rw [refused]
    · rw [result]
      rfl
  iterate 4
    split
    · rfl
  rcases @handleSession_state json server request moment
      (server.authUserFromHeaders request.headers) (trimQuery request.path)
    with same | same | same | same
  · rw [same]
  · rw [same, handleSend]
    split
    · rfl
    · split <;> rfl
  · rw [same]
    rfl
  · rw [same, handleChunk]
    split <;> rfl

/-- The others do not make the server refuse everything, and the request and
its answer get through. -/
def Turn.Answers (turn : Turn) : Prop :=
  turn.exchange.transmission = .delivered ∧
    ∀ event ∈ turn.others, event ≠ .forceUnauthorized true

theorem run_notForced
    {server : FakeVoxServer} {events : List ServerEvent}
    (notForced : server.m_forceUnauthorized = false)
    (allowed : ∀ event ∈ events, event ≠ .forceUnauthorized true) :
    (Machine.run (serverStep json) server
      events).m_forceUnauthorized = false := by
  induction events generalizing server with
  | nil => exact notForced
  | cons event events inductionHypothesis =>
      obtain ⟨isAllowed, others⟩ := List.forall_mem_cons.mp allowed
      rw [Machine.run_cons]
      apply inductionHypothesis _ others
      cases event with
      | request request moment =>
          exact handle_forceUnauthorized.trans notForced
      | forceUnauthorized value =>
          cases value with
          | false => rfl
          | true => exact absurd rfl isAllowed
      | failNextSend value => exact notForced

theorem exchanged_forceUnauthorized
    {server : FakeVoxServer} (request : HttpRequest × QUrlQuery)
    (exchange : Exchange) :
    (exchanged json server network request
      exchange).2.m_forceUnauthorized = server.m_forceUnauthorized := by
  obtain ⟨moment, delivered | errorMessage | errorMessage⟩ := exchange
  · exact handle_forceUnauthorized
  · rfl
  · exact handle_forceUnauthorized

/-- A name that a call does not find, while everything gets through, has not
been registered. -/
theorem namedAccount_of_not_resolved
    (nested : json.RoundTripsNested) {state : Conversing}
    (wellFormed : state.server.WellFormed)
    (notForced : state.server.m_forceUnauthorized = false)
    {userId : QString}
    (issued : state.server.m_userByAccessToken.lookup
      network.m_bearerToken = some userId)
    (answers : (turns state.calls).Answers)
    {username : QString} (isText : IsUtf16 username)
    (missing : (resolveUserId (userByUsername json network turns) username
      state).1 = none) :
    namedAccount state.server username = none := by
  obtain ⟨metWellFormed, grown⟩ := @met_grows json turns state wellFormed
  have metNotForced := @run_notForced json _ _ notForced answers.2
  have response : (userByUsername json network turns username state).1 =
      DirectoryApi.userByUsername json
        (answerTo json (state.met json turns) network
          (turns state.calls).exchange.moment
            (DirectoryApi.userByUsernameRequest network username)) := by
    rw [userByUsername, exchanged, answers.1]
    rfl
  have unresolved := Option.map_eq_none_iff.mp missing
  rw [response, accepted_userByUsername nested metWellFormed metNotForced
    (grown.access _ _ issued) (isUtf16_of_namedAccount metWellFormed isText)]
    at unresolved
  have unnamed := Option.map_eq_none_iff.mp unresolved
  cases named : namedAccount state.server username with
  | none => rfl
  | some account =>
      obtain ⟨later, isLater, _⟩ :=
        Named.mono ⟨account, named, rfl⟩ wellFormed grown
      rw [unnamed] at isLater
      contradiction

end Lookups

/-! ## Results -/

/-- The text of a failed creation. -/
def SharedConversation.failure : SharedConversation → String
  | group => "Could not create group."
  | channel => "Could not create channel."

section Results

variable {json : QJsonDocument} {network : NetworkAccess} {turns : ℕ → Turn}

theorem SharedConversation.create_eq
    (kind : SharedConversation) (auth : AuthContext)
    (usernames : List QString) (state : Conversing) :
    kind.create json network turns auth usernames state =
      createNamed (userByUsername json network turns)
        (createConversation json network turns) true kind.request kind.failure
        (some auth) usernames state := by
  cases kind <;> rfl

/-- The names that a dialog emits are those that are typed. -/
theorem usernames_of_triggered
    {kind : SharedConversation} {text : QString} {usernames : List QString}
    (emitted : (kind.dialog true text).triggered =
      some (kind.signal usernames)) :
    usernames = splitUsernames (trimmed text) := by
  cases kind with
  | group =>
      simp only [SharedConversation.dialog, MenuAction.triggered,
        SharedConversation.signal] at emitted
      split at emitted
      · contradiction
      split at emitted
      · contradiction
      exact (PaneSignal.createGroupRequested.inj
        (Option.some.inj emitted)).symm
  | channel =>
      exact (PaneSignal.createChannelRequested.inj
        (Option.some.inj emitted)).symm

theorem asked_collect (userIds usernames : List QString) (state : Conversing) :
    (Lookups.collect (resolveUserId (userByUsername json network turns))
      userIds usernames state).2.asked = state.asked := by
  refine @Lookups.collect_invariant _ _ _
    (resolveUserId (userByUsername json network turns))
    (fun reached : Conversing => reached.asked = state.asked) ?_ state rfl
    userIds usernames
  exact fun _ _ same => same

/-- A user types names into a dialog.  Whatever has happened before, whatever
others do between the lookups and whichever requests get lost, at most one
conversation is asked for, and one that is asked for has as its members
exactly the user and the users of the names, each once.  When nothing gets
lost or refused, it is asked for unless one of the names is not registered,
which the user is told. -/
theorem members_are_the_named
    (nested : json.RoundTripsNested) (events : List ServerEvent)
    (auth : AuthContext) (kind : SharedConversation) {text : QString}
    (isText : IsUtf16 text) {usernames : List QString}
    (emitted : (kind.dialog true text).triggered =
      some (kind.signal usernames)) :
    let start : Conversing := { server := serverAfter json events }
    let made := kind.create json network turns auth usernames start
    (made.2.asked = [] ∨
      ∃ userIds, made.2.asked = [kind.request userIds] ∧ userIds.Nodup ∧
        ∀ userId, userId ∈ userIds ↔
          userId = auth.userId ∨
            ∃ username ∈ usernames, Named made.2.server username userId) ∧
      ((∀ call, (turns call).Answers) →
        start.server.m_forceUnauthorized = false →
        start.server.m_userByAccessToken.lookup network.m_bearerToken =
          some auth.userId →
        made.2.asked = [] →
          ∃ username ∈ usernames,
            namedAccount start.server username = none ∧
              made.1.announced =
                some (QString.literal "Resolve failed",
                  couldNotResolve username)) := by
  intro start made
  have texts : ∀ username ∈ usernames, IsUtf16 username := by
    intro username member
    rw [usernames_of_triggered emitted] at member
    exact isUtf16_of_mem_splitUsernames (isUtf16_trimmed isText) member
  have wellFormed : start.server.WellFormed := serverAfter_wellFormed events
  have same : made = _ := kind.create_eq auth usernames start
  let resolved := Lookups.collect
    (resolveUserId (userByUsername json network turns)) [auth.userId]
    usernames start
  have nothingAsked : resolved.2.asked = [] :=
    asked_collect [auth.userId] usernames start
  have cases := createNamed_cases (userByUsername json network turns)
    (createConversation json network turns) kind.request kind.failure auth
    usernames start
  dsimp only at cases
  rw [← same] at cases
  constructor
  · rcases cases with ⟨username, _, failed⟩ | ⟨userIds, isResolved, created⟩
    · left
      rw [failed]
      exact nothingAsked
    right
    have sound : (directory fun _ => True).Sound
        (resolveUserId (userByUsername json network turns)) :=
      sound_resolveUserId nested fun _ _ _ => trivial
    have reached := sound.collect_reaches ⟨wellFormed, trivial⟩
      [auth.userId] usernames
    obtain ⟨own, rfl, entries⟩ :=
      sound.collect_ok ⟨wellFormed, trivial⟩ isResolved
    have grown : Extends resolved.2.server made.2.server := by
      obtain ⟨metWellFormed, met⟩ := met_grows reached.1.1
      rw [created]
      exact met.trans (exchanged_grows metWellFormed _ _ _).2
    refine ⟨removeDuplicates ([auth.userId] ++ own), ?_,
      nodup_removeDuplicates _, fun userId => ?_⟩
    · rw [created, createConversation, nothingAsked]
      rfl
    rw [mem_removeDuplicates, List.mem_append, List.mem_singleton]
    refine or_congr_right ⟨fun member => ?_, ?_⟩
    · obtain ⟨username, typed, entry⟩ :=
        Lookups.exists_key_of_forall₂ entries member
      exact ⟨username, typed,
        (entry (texts username typed)).mono reached.1.1 grown⟩
    · rintro ⟨username, typed, account, named, rfl⟩
      obtain ⟨found, member, entry⟩ :=
        Lookups.exists_value_of_forall₂ entries typed
      obtain ⟨other, otherNamed, rfl⟩ :=
        (entry (texts username typed)).mono reached.1.1 grown
      rw [named] at otherNamed
      rw [Option.some.inj otherNamed]
      exact member
  · intro answers notForced issued nothing
    rcases cases with ⟨username, isResolved, failed⟩ | ⟨userIds, _, created⟩
    · have stays : ∀ username (state : Conversing),
          state.server.m_forceUnauthorized = false →
            (userByUsername json network turns username
              state).2.server.m_forceUnauthorized = false := by
        intro username state before
        exact (exchanged_forceUnauthorized _ _).trans
          (run_notForced before (answers state.calls).2)
      have sound := @sound_resolveUserId json network turns nested
        (fun server => server.m_forceUnauthorized = false) stays
      obtain ⟨before, after, between, _, split, valid, later, _, missing⟩ :=
        sound.collect_error ⟨wellFormed, notForced⟩ isResolved
      have typed : username ∈ usernames := by
        rw [split]
        exact List.mem_append_right _ List.mem_cons_self
      have unnamed := namedAccount_of_not_resolved nested valid.1 valid.2
        (later.access _ _ issued) (answers between.calls)
        (texts username typed) missing
      refine ⟨username, typed, ?_, ?_⟩
      · cases named : namedAccount start.server username with
        | none => rfl
        | some account =>
            obtain ⟨found, isFound, _⟩ :=
              Named.mono ⟨account, named, rfl⟩ wellFormed later
            rw [unnamed] at isFound
            contradiction
      · rw [failed]
        exact announced_couldNotResolve username
    · rw [created, createConversation, nothingAsked] at nothing
      contradiction

/-- A direct message is asked for with the user of the name. -/
theorem dm_peer_is_the_named
    (nested : json.RoundTripsNested) {start : Conversing}
    (wellFormed : start.server.WellFormed) (nothingAsked : start.asked = [])
    {username : QString} (isText : IsUtf16 username) :
    let made := createDm (userByUsername json network turns)
      (createConversation json network turns) true username start
    made.2.asked = [] ∨
      ∃ peerUserId, made.2.asked = [dmRequest peerUserId] ∧
        Named made.2.server username peerUserId := by
  intro made
  rcases createDm_cases (userByUsername json network turns)
      (createConversation json network turns) username start with
    ⟨_, failed⟩ | ⟨user, accepted, created⟩
  · left
    rw [show made = _ from failed]
    exact nothingAsked
  have sound := @sound_resolveUserId json network turns nested
    (fun _ => True) fun _ _ _ => trivial
  have valid := sound.valid username ⟨wellFormed, trivial⟩
  have found : (resolveUserId (userByUsername json network turns)
      username start).1 = some user.userId := by
    rw [resolveUserId, accepted]
    rfl
  have named := sound.found username ⟨wellFormed, trivial⟩ found isText
  obtain ⟨metWellFormed, met⟩ := @met_grows json turns _ valid.1
  refine Or.inr ⟨user.userId, ?_, ?_⟩
  · rw [show made.2 = _ from created, createConversation,
      show (userByUsername json network turns username start).2.asked = []
        from nothingAsked]
    rfl
  · rw [show made.2 = _ from created]
    exact named.mono valid.1
      (met.trans (exchanged_grows metWellFormed _ _ _).2)

end Results

namespace ReferenceNewConversations

open ReferenceDirectory

/-- Carol registers while the first name is looked up. -/
def turns : ℕ → Turn
  | 1 => ⟨[registering "carol"], ⟨moment, .delivered⟩⟩
  | _ => ⟨[], ⟨moment, .delivered⟩⟩

/-- The session of Alice. -/
def auth : AuthContext where
  userId := QString.literal "usr_1"
  username := QString.literal "alice"
  deviceId := QString.literal "d"
  accessToken := QString.literal "acc_usr_1"
  refreshToken := QString.literal "ref_usr_1"

def usernames : List QString :=
  [QString.literal "bob", QString.literal "carol"]

/-- What becomes of the names that Alice has typed. -/
def made : CreateResult × Conversing :=
  SharedConversation.group.create json network turns auth usernames
    { server := serverAfter json events }

end ReferenceNewConversations

open ReferenceDirectory ReferenceNewConversations in
/-- Alice asks for a group with Bob and Carol. -/
theorem group_of_alice_bob_and_carol :
    ∃ userIds, made.2.asked = [groupRequest userIds] ∧ userIds.Nodup ∧
      QString.literal "usr_1" ∈ userIds ∧
      QString.literal "usr_2" ∈ userIds ∧
      QString.literal "usr_3" ∈ userIds := by
  have emitted : (SharedConversation.group.dialog true
      (QString.literal "bob, carol")).triggered =
        some (SharedConversation.group.signal usernames) := by
    decide
  have results := @members_are_the_named json network turns nested events
    auth .group _ (IsAsciiText.isUtf16 (by decide)) usernames emitted
  dsimp only at results
  rw [← made] at results
  obtain ⟨asked, _⟩ := results
  have isAsked : made.2.asked.length = 1 := by decide +kernel
  have named : ∀ username userId, (namedAccount made.2.server username).map
      AccountState.userId = some userId → Named made.2.server username userId :=
    fun _ _ found => Option.map_eq_some_iff.mp found
  rcases asked with nothing | ⟨userIds, request, distinct, members⟩
  · rw [nothing] at isAsked
    exact absurd isAsked (by simp)
  refine ⟨userIds, request, distinct, (members _).mpr (Or.inl rfl),
    (members _).mpr (Or.inr ⟨QString.literal "bob", .head _, named _ _ ?_⟩),
    (members _).mpr (Or.inr ⟨QString.literal "carol", .tail _ (.head _),
      named _ _ ?_⟩)⟩
  · decide +kernel
  · decide +kernel

end Integration
end VoxDesktop
