import VoxDesktop.Integration.System
import VoxDesktop.Qt.AsciiText
import VoxDesktop.Qt.NestedJson

/-!
# What the server answers to a sign-in

The interfaces of the client and the routes of the server put together: the
session that a client reads out of an answer is the one that the server has in
its tables, under the name that the client has sent.
-/

namespace VoxDesktop
namespace Integration

open Qt Crypto Network Services AuthService FakeVoxServer

/-! ## Requests -/

/-- What a post of a path is to the server. -/
def posted
    (network : NetworkAccess) (path : QString) (body : QByteArray) :
    ServerRequest :=
  ⟨QString.literal "POST", path, body, (network.postJson path body).headers⟩

theorem serverRequest_postJson
    (network : NetworkAccess) {path : QString}
    (absolute : path.head? = some 0x2F) (body : QByteArray) :
    serverRequest network (network.postJson path body) [] =
      posted network path body := by
  simp only [serverRequest, posted, NetworkAccess.postJson,
    NetworkAccess.execute, if_pos absolute, List.drop_left, if_true,
    List.append_nil]

section Routes

variable (json : QJsonDocument) (server : FakeVoxServer)
  (network : NetworkAccess) (body : QByteArray) (moment : Moment)

theorem handle_register :
    server.handle json (posted network ApiPaths.kRegister body) moment =
      server.handleRegister json
        (posted network ApiPaths.kRegister body) := by
  have route : trimQuery ApiPaths.kRegister = ApiPaths.kRegister := by decide
  unfold handle posted
  dsimp only
  rw [route, if_neg (by decide), if_pos ⟨rfl, rfl⟩]

theorem handle_login :
    server.handle json (posted network ApiPaths.kLogin body) moment =
      server.handleLogin json (posted network ApiPaths.kLogin body)
        moment := by
  have route : trimQuery ApiPaths.kLogin = ApiPaths.kLogin := by decide
  unfold handle posted
  dsimp only
  rw [route, if_neg (by decide), if_neg (by decide), if_pos ⟨rfl, rfl⟩]

theorem handle_refresh :
    server.handle json (posted network ApiPaths.kRefresh body) moment =
      server.handleRefresh json (posted network ApiPaths.kRefresh body) := by
  have route : trimQuery ApiPaths.kRefresh = ApiPaths.kRefresh := by decide
  unfold handle posted
  dsimp only
  rw [route, if_neg (by decide), if_neg (by decide), if_neg (by decide),
    if_pos ⟨rfl, rfl⟩]

end Routes

/-! ## Answers as the client reads them -/

section Readings

variable {json : QJsonDocument}

/-- Only a response with success is accepted. -/
theorem accepted_of_not_ok
    {response : NetworkResponse} (notOk : response.ok = false)
    {α : Type} (parser : QJsonObject → Option α) :
    (AuthApi.parseTypedResponse json response parser).accepted = none := by
  unfold AuthApi.parseTypedResponse
  split
  · rfl
  · rw [if_neg (by simp [notOk])]
    rfl

theorem accepted_okResponse
    {object members : QJsonObject}
    (read : json.parse (json.toJson object) = .ok members)
    {α : Type} (parser : QJsonObject → Option α) :
    (AuthApi.parseTypedResponse json (okResponse json object)
      parser).accepted = parser members := by
  have success : (okResponse json object).ok = true := rfl
  unfold AuthApi.parseTypedResponse JsonCodec.parseObject
  rw [show json.parse (okResponse json object).body = .ok members from read]
  dsimp only
  rw [if_pos success, ApiResult.accepted]
  dsimp only
  cases parser members <;> rfl

theorem errorResponse_not_ok
    {status : ℤ} (code : ℕ) (message : String)
    (failure : status < 200 ∨ 300 ≤ status) :
    (errorResponse json status code message).ok = false := by
  have outside : ¬(kHttpStatusOkMin ≤ status ∧
      status < kHttpStatusOkMaxExclusive) := by
    rw [kHttpStatusOkMin, kHttpStatusOkMaxExclusive]
    omega
  rw [NetworkResponse.ok, Bool.and_eq_false_iff]
  left
  rw [← Bool.decide_and, decide_eq_false_iff_not]
  exact outside

/-- The members of a flat object are found in what is read of it. -/
theorem getString_of_read
    {object members : QJsonObject} (distinct : object.keys.Nodup)
    (read : members.Perm object) {field : String} {text : QString}
    (within : stringMember field text ∈ object) :
    getString members field = some text := by
  apply getString_of_mem
  · exact ((read.map Prod.fst).nodup_iff).mpr distinct
  · exact read.mem_iff.mpr within

theorem parseAuthSessionResponse_read
    {account : AccountState} {deviceStatus : String} {members : QJsonObject}
    (read : members.Perm
      [stringMember "user_id" account.userId,
        stringMember "access_token" account.accessToken,
        stringMember "refresh_token" account.refreshToken,
        stringMember "device_status" (QString.literal deviceStatus),
        numberMember "sync_key_version" 1]) :
    ∃ session, parseAuthSessionResponse members = some session ∧
      session.userId = account.userId ∧
      session.accessToken = account.accessToken ∧
      session.refreshToken = account.refreshToken := by
  have distinct : ∀ (first second third fourth : QString),
      QJsonObject.keys
        [stringMember "user_id" first, stringMember "access_token" second,
          stringMember "refresh_token" third,
          stringMember "device_status" fourth,
          numberMember "sync_key_version" 1] |>.Nodup := by
    intro first second third fourth
    change [QString.literal "user_id", QString.literal "access_token",
      QString.literal "refresh_token", QString.literal "device_status",
      QString.literal "sync_key_version"].Nodup
    decide
  have reads := @getString_of_read _ members (distinct _ _ _ _) read
  rw [parseAuthSessionResponse, reads (.head _), reads (.tail _ (.head _)),
    reads (.tail _ (.tail _ (.head _))),
    reads (.tail _ (.tail _ (.tail _ (.head _))))]
  exact ⟨_, rfl, rfl, rfl, rfl⟩

end Readings

/-! ## Sessions that the server recognises -/

/-- The account of a user has this name. -/
def KnownAs (server : FakeVoxServer) (userId username : QString) : Prop :=
  ∃ account, server.IsAccountOf userId account ∧ account.username = username

theorem KnownAs.mono
    {before after : FakeVoxServer} {userId username : QString}
    (known : KnownAs before userId username)
    (grown : Extends before after) : KnownAs after userId username := by
  obtain ⟨account, there, named⟩ := known
  obtain ⟨later, isLater, sameName⟩ := grown.accounts _ account there
  exact ⟨later, isLater, sameName.trans named⟩

/-- The tokens of a session name its user, whose account has its name. -/
structure Recognised (server : FakeVoxServer) (session : AuthContext) :
    Prop where
  access :
    server.m_userByAccessToken.lookup session.accessToken =
      some session.userId
  refresh :
    server.m_userByRefreshToken.lookup session.refreshToken =
      some session.userId
  account : KnownAs server session.userId session.username
  /-- The refresh token comes back from its octets. -/
  stored : fromUtf8 (toUtf8 session.refreshToken) = session.refreshToken

theorem Recognised.mono
    {before after : FakeVoxServer} {session : AuthContext}
    (recognised : Recognised before session)
    (grown : Extends before after) : Recognised after session where
  access := grown.access _ _ recognised.access
  refresh := grown.refresh _ _ recognised.refresh
  account := recognised.account.mono grown
  stored := recognised.stored

theorem isAsciiText_userIdOf (number : ℕ) :
    IsAsciiText (userIdOf number) :=
  .append (by decide) (isAsciiText_number number)

/-- A session whose account and tokens have been written. -/
theorem recognised_of_written
    {server after : FakeVoxServer} {account : AccountState}
    {session : AuthContext}
    (users :
      after.m_usersByUsername.lookup account.username = some account)
    (access : after.m_userByAccessToken =
      server.m_userByAccessToken.insert account.accessToken account.userId)
    (refresh : after.m_userByRefreshToken =
      server.m_userByRefreshToken.insert account.refreshToken account.userId)
    (ascii : IsAsciiText account.refreshToken)
    (sameUser : session.userId = account.userId)
    (sameName : session.username = account.username)
    (sameAccess : session.accessToken = account.accessToken)
    (sameRefresh : session.refreshToken = account.refreshToken) :
    Recognised after session where
  access := by
    rw [access, sameAccess, sameUser]
    exact AList.lookup_insert _
  refresh := by
    rw [refresh, sameRefresh, sameUser]
    exact AList.lookup_insert _
  account := ⟨account, ⟨users, sameUser.symm⟩, sameName.symm⟩
  stored := by
    rw [sameRefresh]
    exact ascii.fromUtf8_toUtf8

section SignIns

variable {json : QJsonDocument} {server : FakeVoxServer}

/-- A refusal offers no session. -/
theorem FakeVoxServer.IsRefusal.accepted
    {handled : NetworkResponse × FakeVoxServer}
    (refusal : IsRefusal json server handled)
    {α : Type} (parser : QJsonObject → Option α) :
    (AuthApi.parseTypedResponse json handled.1 parser).accepted = none := by
  obtain ⟨status, code, message, failure, rfl⟩ := refusal
  exact accepted_of_not_ok
    (errorResponse_not_ok code message (Or.inr (by omega))) parser

theorem flat_sessionObject (account : AccountState) (deviceStatus : String) :
    QJsonObject.Flat
      [stringMember "user_id" account.userId,
        stringMember "access_token" account.accessToken,
        stringMember "refresh_token" account.refreshToken,
        stringMember "device_status" (QString.literal deviceStatus),
        numberMember "sync_key_version" 1] := by
  intro member within
  simp only [List.mem_cons, List.not_mem_nil, or_false] at within
  rcases within with rfl | rfl | rfl | rfl | rfl
  · exact Or.inl ⟨_, rfl⟩
  · exact Or.inl ⟨_, rfl⟩
  · exact Or.inl ⟨_, rfl⟩
  · exact Or.inl ⟨_, rfl⟩
  · exact Or.inr ⟨1, by simp [numberMember]⟩

/-- The session that a client reads is the one of the account. -/
theorem accepted_sessionResponse
    (roundTrips : json.RoundTrips)
    {account : AccountState} {deviceStatus : String}
    {reply : AuthSessionResponse}
    (accepted :
      (AuthApi.parseTypedResponse json
        (sessionResponse json account deviceStatus)
        parseAuthSessionResponse).accepted = some reply) :
    reply.userId = account.userId ∧
      reply.accessToken = account.accessToken ∧
        reply.refreshToken = account.refreshToken := by
  have distinct : QJsonObject.keys
      [stringMember "user_id" account.userId,
        stringMember "access_token" account.accessToken,
        stringMember "refresh_token" account.refreshToken,
        stringMember "device_status" (QString.literal deviceStatus),
        numberMember "sync_key_version" 1] |>.Nodup := by
    change [QString.literal "user_id", QString.literal "access_token",
      QString.literal "refresh_token", QString.literal "device_status",
      QString.literal "sync_key_version"].Nodup
    decide
  obtain ⟨members, parsed, read⟩ :=
    roundTrips _ (flat_sessionObject account deviceStatus) distinct
  obtain ⟨session, isSession, facts⟩ := parseAuthSessionResponse_read read
  rw [sessionResponse, accepted_okResponse parsed, isSession] at accepted
  obtain rfl := Option.some.inj accepted
  exact facts

/-- After a registration that the client accepts, the server recognises the
session under the name in the request. -/
theorem handleRegister_recognised
    (roundTrips : json.RoundTrips)
    {request : ServerRequest} {object : QJsonObject}
    (parsed : parseJson json request.body = some object)
    {reply : AuthSessionResponse}
    (accepted :
      (AuthApi.parseTypedResponse json (server.handleRegister json request).1
        parseAuthSessionResponse).accepted = some reply)
    (deviceId : QString) :
    Recognised (server.handleRegister json request).2
      ⟨reply.userId, stringField object "username", deviceId,
        reply.accessToken, reply.refreshToken⟩ := by
  rcases @handleRegister_cases json server request with
    refusal | ⟨read, isRead, _, _, result⟩
  · rw [refusal.accepted] at accepted
    contradiction
  rw [parsed] at isRead
  obtain rfl := Option.some.inj isRead
  rw [result] at accepted ⊢
  obtain ⟨sameUser, sameAccess, sameRefresh⟩ :=
    accepted_sessionResponse roundTrips accepted
  exact recognised_of_written (AList.lookup_insert _) rfl rfl
    (.append (by decide) (isAsciiText_userIdOf _)) sameUser rfl sameAccess
    sameRefresh

/-- The same after a login. -/
theorem handleLogin_recognised
    (roundTrips : json.RoundTrips)
    (wellFormed : server.WellFormed)
    {request : ServerRequest} {moment : Moment} {object : QJsonObject}
    (parsed : parseJson json request.body = some object)
    {reply : AuthSessionResponse}
    (accepted :
      (AuthApi.parseTypedResponse json
        (server.handleLogin json request moment).1
        parseAuthSessionResponse).accepted = some reply)
    (deviceId : QString) :
    Recognised (server.handleLogin json request moment).2
      ⟨reply.userId, stringField object "username", deviceId,
        reply.accessToken, reply.refreshToken⟩ := by
  rcases @handleLogin_cases json server request moment with
    refusal | ⟨read, found, isRead, there, _, result⟩
  · rw [refusal.accepted] at accepted
    contradiction
  rw [parsed] at isRead
  obtain rfl := Option.some.inj isRead
  rw [result] at accepted ⊢
  obtain ⟨sameUser, sameAccess, sameRefresh⟩ :=
    accepted_sessionResponse roundTrips accepted
  have named := wellFormed.named _ found there
  obtain ⟨number, _, numbered⟩ := wellFormed.numbered _ found there
  have ascii : IsAsciiText (loggedIn moment found
      (stringField object "device_id")).refreshToken := by
    rw [loggedIn, numbered]
    exact (((show IsAsciiText (QString.literal "ref_") by decide).append
      (isAsciiText_userIdOf number)).append (by decide)).append
        (isAsciiText_number _)
  refine @recognised_of_written server _
    (loggedIn moment found (stringField object "device_id")) _ ?_ rfl rfl
    ascii sameUser named.symm sameAccess sameRefresh
  rw [show (loggedIn moment found
    (stringField object "device_id")).username =
      stringField object "username" from named]
  exact AList.lookup_insert _

/-- A client reads the tokens of a refresh. -/
theorem accepted_refreshedResponse
    (roundTrips : json.RoundTrips) (userId : QString) :
    (AuthApi.parseTypedResponse json (refreshedResponse json userId)
      parseRefreshResponse).accepted =
        some ⟨refreshedAccess userId, refreshedRefresh userId⟩ := by
  let fresh : RefreshResponse :=
    ⟨refreshedAccess userId, refreshedRefresh userId⟩
  obtain ⟨members, parsed, read⟩ :=
    roundTrips fresh.toJson fresh.toJson_flat fresh.toJson_distinct
  exact (accepted_okResponse parsed _).trans (parseRefreshResponse_perm read)

/-- After a refresh that the client accepts, the server recognises the fresh
tokens for the user of the one that was presented, and the account it has. -/
theorem handleRefresh_recognised
    (roundTrips : json.RoundTrips)
    (wellFormed : server.WellFormed)
    {request : ServerRequest} {object : QJsonObject}
    (parsed : parseJson json request.body = some object)
    {userId : QString}
    (known : server.m_userByRefreshToken.lookup
      (stringField object "refresh_token") = some userId)
    {tokens : RefreshResponse}
    (accepted :
      (AuthApi.parseTypedResponse json (server.handleRefresh json request).1
        parseRefreshResponse).accepted = some tokens)
    {account : AccountState}
    (there : server.IsAccountOf userId account) (deviceId : QString) :
    Recognised (server.handleRefresh json request).2
      ⟨userId, account.username, deviceId, tokens.accessToken,
        tokens.refreshToken⟩ := by
  rcases @handleRefresh_cases json server request with
    refusal | ⟨read, owner, isRead, isOwner, result⟩
  · rw [refusal.accepted] at accepted
    contradiction
  rw [parsed] at isRead
  obtain rfl := Option.some.inj isRead
  rw [known] at isOwner
  obtain rfl := Option.some.inj isOwner
  rw [result] at accepted ⊢
  dsimp only at accepted
  rw [accepted_refreshedResponse roundTrips] at accepted
  obtain rfl := Option.some.inj accepted
  obtain ⟨number, rfl⟩ := wellFormed.userIdOf_of_isAccountOf there
  exact {
    access := AList.lookup_insert _
    refresh := AList.lookup_insert _
    account := ⟨account, there, rfl⟩
    stored := IsAsciiText.fromUtf8_toUtf8
      (((show IsAsciiText (QString.literal "ref_") by decide).append
        (isAsciiText_userIdOf number)).append (by decide)) }

end SignIns

end Integration
end VoxDesktop
