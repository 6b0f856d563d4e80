import VoxDesktop.Integration.Readings

/-!
# The sessions of the clients

Whatever the clients do and whatever anyone else sends to the server, the
session of a client is one that the server has for this user: its tokens name
the user, and the account of the user has the name that the client shows.
-/

namespace VoxDesktop
namespace Integration

open Library Qt Crypto Network Storage Services AuthService Application
  FakeVoxServer

/-! ## One call -/

section Calls

variable {json : QJsonDocument} {sodium : Sodium}
  {sha256 : QByteArray → List.Vector UInt8 kSha256Bytes}
  {server : FakeVoxServer} {service : AuthService}

/-- A sign-in posts what it hands to its last lines. -/
theorem signIn_posted
    (username : QString) (request : AuthRequest)
    (exchange : HttpRequest × ApiResult AuthSessionResponse)
    (outcome : PersistOutcome) :
    (signIn json sodium service username request exchange
      outcome).1.posted = some exchange.1 := by
  unfold signIn
  split <;> rfl

/-- A registration that gets as far as an accepted reply has posted its name,
whatever reply it is given. -/
theorem register_posted
    (nested : json.RoundTripsNested)
    {username passwordDerived : QString} {outcome : RegisterOutcome}
    (typed : IsUtf16 username) (device : IsUtf16 service.m_deviceId)
    {response : NetworkResponse} {session : AuthContext}
    (offered :
      offeredSession json sodium sha256 service
        (answered response (.registerUser username passwordDerived outcome)) =
          some session) :
    ∃ body reply,
      (step json sodium sha256 service
          (.registerUser username passwordDerived outcome)).1.posted =
        some (service.m_network.postJson ApiPaths.kRegister body) ∧
      ReadsAs json body "username" username ∧
      (AuthApi.parseTypedResponse json response
        parseAuthSessionResponse).accepted = some reply ∧
      session = service.sessionOf username reply := by
  simp only [answered, offeredSession] at offered
  split at offered
  · contradiction
  rename_i arguments
  cases published :
      (publishedKeys json sodium service outcome.keys).1 with
  | none =>
      rw [published] at offered
      contradiction
  | some pair =>
      obtain ⟨identity, signedPrekey⟩ := pair
      cases wrapped : SyncCrypto.wrapSyncMasterKey sodium
          (toUtf8 (sha256HexLower sha256 passwordDerived))
          (CryptoHelpers.randomBytes sodium outcome.syncMasterKey) {}
          outcome.wrap with
      | none =>
          rw [published, wrapped] at offered
          contradiction
      | some wrappedSync =>
          rw [published, wrapped] at offered
          obtain ⟨reply, accepted, same⟩ := Option.map_eq_some_iff.mp offered
          have params :=
            (SyncCrypto.wrapSyncMasterKey_eq_some wrapped).2.2.1
          have reads := @registerRequest_reads json service nested username _
            identity signedPrekey wrappedSync typed
            (isAsciiText_sha256HexLower sha256 passwordDerived) device params
          refine ⟨_, reply, ?_, reads, accepted, same.symm⟩
          rw [step, registerUser, if_neg arguments]
          dsimp only
          rw [published]
          dsimp only
          rw [wrapped]
          dsimp only
          rw [signIn_posted, AuthApi.registerUser,
            (publishedKeys_same outcome.keys).1]
          rfl

/-- The same for a login. -/
theorem login_posted
    (roundTrips : json.RoundTrips)
    {username passwordDerived : QString} {outcome : LoginOutcome}
    {response : NetworkResponse} {session : AuthContext}
    (offered :
      offeredSession json sodium sha256 service
        (answered response (.login username passwordDerived outcome)) =
          some session) :
    ∃ body reply,
      (step json sodium sha256 service
          (.login username passwordDerived outcome)).1.posted =
        some (service.m_network.postJson ApiPaths.kLogin body) ∧
      ReadsAs json body "username" username ∧
      (AuthApi.parseTypedResponse json response
        parseAuthSessionResponse).accepted = some reply ∧
      session = service.sessionOf username reply := by
  simp only [answered, offeredSession] at offered
  split at offered
  · contradiction
  rename_i arguments
  obtain ⟨reply, accepted, same⟩ := Option.map_eq_some_iff.mp offered
  refine ⟨_, reply, ?_, loginRequest_reads roundTrips
    (service.loginRequest username (sha256HexLower sha256 passwordDerived)
      (publishedKeys json sodium service outcome.keys).1), accepted,
    same.symm⟩
  rw [step, login, if_neg arguments]
  dsimp only
  rw [signIn_posted, AuthApi.login, (publishedKeys_same outcome.keys).1]
  rfl

/-- A restore that gets as far as an accepted reply has posted the token that
the vault has for the user of the active account. -/
theorem restore_posted
    (roundTrips : json.RoundTrips)
    {outcome : RestoreOutcome} {response : NetworkResponse}
    {session : AuthContext}
    (offered :
      offeredSession json sodium sha256 service
        (answered response (.restoreSession outcome)) = some session) :
    ∃ account stored body tokens,
      AccountsRepository.activeAccount service.m_accountsRepository
          outcome.selected = some account ∧
        service.m_vault.loadSecret (refreshTokenName account.userId) =
          some stored ∧
        (step json sodium sha256 service
            (.restoreSession outcome)).1.posted =
          some (service.m_network.postJson ApiPaths.kRefresh body) ∧
        ReadsAs json body "refresh_token" (fromUtf8 stored) ∧
        (AuthApi.parseTypedResponse json response
          parseRefreshResponse).accepted = some tokens ∧
        session = refreshedSession account tokens := by
  simp only [answered, offeredSession] at offered
  split at offered
  · contradiction
  rename_i account active
  split at offered
  · contradiction
  rename_i stored loaded
  obtain ⟨tokens, accepted, same⟩ := Option.map_eq_some_iff.mp offered
  refine ⟨account, stored, _, tokens, active, loaded, ?_,
    refreshRequest_reads roundTrips
      ⟨fromUtf8 stored, account.activeDeviceId⟩, accepted, same.symm⟩
  rw [step, restoreSession, active]
  dsimp only
  rw [loaded]
  dsimp only
  split <;> rfl

/-- A response that is accepted has come from the server. -/
theorem exchanged_of_accepted
    {network : NetworkAccess} {request : HttpRequest × QUrlQuery}
    {exchange : Exchange} {α : Type} {parser : QJsonObject → Option α}
    {reply : α}
    (accepted :
      (AuthApi.parseTypedResponse json
        (exchanged json server network request exchange).1
        parser).accepted = some reply) :
    exchanged json server network request exchange =
      server.handle json (serverRequest network request.1 request.2)
        exchange.moment := by
  have lost : ∀ errorMessage,
      (AuthApi.parseTypedResponse json (failedResponse errorMessage)
        parser).accepted = none :=
    fun errorMessage => accepted_of_not_ok rfl parser
  obtain ⟨moment, delivered | errorMessage | errorMessage⟩ := exchange
  · rfl
  · exact absurd (accepted.symm.trans (lost errorMessage)) (by simp)
  · exact absurd (accepted.symm.trans (lost errorMessage)) (by simp)

/-- What the client has for a restore, the server has under the same user and
the same name. -/
def Remembers (server : FakeVoxServer) (service : AuthService) : Prop :=
  ∀ account ∈ service.m_accountsRepository,
    KnownAs server account.userId account.username ∧
      ∀ stored,
        service.m_vault.loadSecret (refreshTokenName account.userId) =
            some stored →
          server.m_userByRefreshToken.lookup (fromUtf8 stored) =
            some account.userId

/-- A call that is offered a session has made its request. -/
theorem posted_of_offered
    (roundTrips : json.RoundTrips) (nested : json.RoundTripsNested)
    (device : IsUtf16 service.m_deviceId)
    {call : AuthCall} (typed : IsUtf16 (typedUsername call))
    {session : AuthContext}
    (offered :
      offeredSession json sodium sha256 service call = some session) :
    (service.step json sodium sha256 call).1.posted ≠ none := by
  cases call with
  | registerUser username passwordDerived outcome =>
      obtain ⟨_, _, isPosted, _⟩ :=
        @register_posted json sodium sha256 service nested username
          passwordDerived outcome typed device outcome.response session
          offered
      simp [isPosted]
  | login username passwordDerived outcome =>
      obtain ⟨_, _, isPosted, _⟩ :=
        @login_posted json sodium sha256 service roundTrips username
          passwordDerived outcome outcome.response session offered
      simp [isPosted]
  | restoreSession outcome =>
      obtain ⟨_, _, _, _, _, _, isPosted, _⟩ :=
        @restore_posted json sodium sha256 service roundTrips outcome
          outcome.response session offered
      simp [isPosted]
  | logout outcome => contradiction

/-- The server recognises the session that its answer offers. -/
theorem answeredCall_recognised
    (roundTrips : json.RoundTrips) (nested : json.RoundTripsNested)
    (wellFormed : server.WellFormed)
    (device : IsUtf16 service.m_deviceId)
    (remembers : Remembers server service)
    {call : AuthCall} (typed : IsUtf16 (typedUsername call))
    (exchange : Exchange) {session : AuthContext}
    (offered :
      offeredSession json sodium sha256 service
        (answeredCall json sodium sha256 server service call exchange).1 =
          some session) :
    Recognised
      (answeredCall json sodium sha256 server service call exchange).2
      session := by
  unfold answeredCall at offered ⊢
  cases posts : (service.step json sodium sha256 call).1.posted with
  | none =>
      rw [posts] at offered
      exact absurd posts
        (posted_of_offered roundTrips nested device typed offered)
  | some request =>
      rw [posts] at offered
      dsimp only at offered ⊢
      cases call with
      | registerUser username passwordDerived outcome =>
          change IsUtf16 username at typed
          obtain ⟨body, reply, isPosted, ⟨object, parsed, rfl⟩, accepted,
            rfl⟩ := register_posted nested typed device offered
          rw [posts] at isPosted
          obtain rfl := Option.some.inj isPosted
          have delivered := exchanged_of_accepted accepted
          rw [delivered, serverRequest_postJson _ rfl, handle_register]
            at accepted ⊢
          exact handleRegister_recognised roundTrips parsed accepted _
      | login username passwordDerived outcome =>
          obtain ⟨body, reply, isPosted, ⟨object, parsed, rfl⟩, accepted,
            rfl⟩ := login_posted roundTrips offered
          rw [posts] at isPosted
          obtain rfl := Option.some.inj isPosted
          have delivered := exchanged_of_accepted accepted
          rw [delivered, serverRequest_postJson _ rfl, handle_login]
            at accepted ⊢
          exact handleLogin_recognised roundTrips wellFormed parsed accepted
            _
      | restoreSession outcome =>
          obtain ⟨account, stored, body, tokens, active, loaded, isPosted,
            ⟨object, parsed, presented⟩, accepted, rfl⟩ :=
              restore_posted roundTrips offered
          rw [posts] at isPosted
          obtain rfl := Option.some.inj isPosted
          have delivered := exchanged_of_accepted accepted
          rw [delivered, serverRequest_postJson _ rfl, handle_refresh]
            at accepted ⊢
          obtain ⟨⟨found, there, named⟩, tokensKnown⟩ :=
            remembers account (AccountsRepository.activeAccount_mem active)
          have known := tokensKnown stored loaded
          rw [← presented] at known
          have recognised := handleRefresh_recognised roundTrips wellFormed
            parsed known accepted there account.activeDeviceId
          rw [named] at recognised
          exact recognised
      | logout outcome => contradiction

end Calls

/-! ## Accounts and contexts -/

theorem eq_or_mem_of_mem_upsertAccount
    {rows : List Account} {account row : Account} {executed : Bool}
    (within :
      row ∈ (AccountsRepository.upsertAccount rows account executed).2) :
    row = account ∨ row ∈ rows := by
  rw [AccountsRepository.upsertAccount] at within
  split at within
  · exact AccountsRepository.mem_of_mem_upsertRow within
  · exact Or.inr within

/-- A row is old or has user and device of the context. -/
def RowsFromContext (before after : AuthService) : Prop :=
  ∀ row ∈ after.m_accountsRepository,
    row ∈ before.m_accountsRepository ∨
      ∃ session, after.m_context = some session ∧
        row.userId = session.userId ∧ row.username = session.username ∧
        row.activeDeviceId = session.deviceId

section Rows

variable {json : QJsonDocument} {sodium : Sodium}
  {sha256 : QByteArray → List.Vector UInt8 kSha256Bytes}
  {service : AuthService}

theorem rowsFromContext_of_accounts_eq
    {after : AuthService}
    (same : after.m_accountsRepository = service.m_accountsRepository) :
    RowsFromContext service after :=
  fun _ within => Or.inl (same ▸ within)

theorem signIn_rowsFromContext
    (username : QString) (request : AuthRequest)
    (exchange : HttpRequest × ApiResult AuthSessionResponse)
    (outcome : PersistOutcome) :
    RowsFromContext service
      (signIn json sodium service username request exchange outcome).2 := by
  unfold signIn
  split
  · rename_i response _ _
    dsimp only
    unfold persistSession
    dsimp only
    split
    · exact rowsFromContext_of_accounts_eq rfl
    · intro row within
      rcases eq_or_mem_of_mem_upsertAccount within with rfl | old
      · exact Or.inr ⟨_, rfl, rfl, rfl, rfl⟩
      · exact Or.inl old
  · exact rowsFromContext_of_accounts_eq rfl

theorem logout_rowsFromContext (outcome : LogoutOutcome) :
    RowsFromContext service (logout json sodium service outcome).2 := by
  unfold logout
  split
  · exact rowsFromContext_of_accounts_eq rfl
  intro row within
  left
  change row ∈
    (forgetActive json sodium service outcome).m_accountsRepository at within
  unfold forgetActive at within
  split at within
  · exact within
  · dsimp only at within
    unfold AccountsRepository.deleteAccount at within
    split at within
    · exact within
    · split at within
      · exact List.mem_of_mem_filter within
      · exact within

theorem step_rowsFromContext (call : AuthCall) :
    RowsFromContext service (step json sodium sha256 service call).2 := by
  have published : ∀ outcome,
      (publishedKeys json sodium service outcome).2.m_accountsRepository =
        service.m_accountsRepository :=
    fun outcome => (publishedKeys_undisturbed outcome).accounts
  cases call with
  | registerUser username passwordDerived outcome =>
      rw [step]
      rcases registerUser_cases json sodium sha256 service username
          passwordDerived outcome with
        stopped | stopped | ⟨_, _, _, _, _, signedIn⟩
      · rw [stopped]
        exact rowsFromContext_of_accounts_eq rfl
      · rw [stopped]
        exact rowsFromContext_of_accounts_eq (published outcome.keys)
      · rw [signedIn]
        intro row within
        rw [← published outcome.keys]
        exact signIn_rowsFromContext _ _ _ _ row within
  | login username passwordDerived outcome =>
      rw [step]
      rcases login_cases json sodium sha256 service username passwordDerived
          outcome with
        stopped | signedIn
      · rw [stopped]
        exact rowsFromContext_of_accounts_eq rfl
      · rw [signedIn]
        intro row within
        rw [← published outcome.keys]
        exact signIn_rowsFromContext _ _ _ _ row within
  | restoreSession outcome =>
      rw [step, restoreSession]
      split
      · exact rowsFromContext_of_accounts_eq rfl
      split
      · exact rowsFromContext_of_accounts_eq rfl
      dsimp only
      split
      · intro row within
        rcases eq_or_mem_of_mem_upsertAccount within with rfl | old
        · exact Or.inr ⟨_, rfl, rfl, rfl, rfl⟩
        · exact Or.inl old
      · exact rowsFromContext_of_accounts_eq rfl
  | logout outcome => exact logout_rowsFromContext outcome

theorem signIn_deviceId
    (username : QString) (request : AuthRequest)
    (exchange : HttpRequest × ApiResult AuthSessionResponse)
    (outcome : PersistOutcome) :
    (signIn json sodium service username request exchange
      outcome).2.m_deviceId = service.m_deviceId := by
  unfold signIn
  split
  · dsimp only
    unfold persistSession
    dsimp only
    split <;> rfl
  · rfl

/-- No call changes the device that the service signs in. -/
theorem step_deviceId (call : AuthCall) :
    (step json sodium sha256 service call).2.m_deviceId =
      service.m_deviceId := by
  have published : ∀ outcome,
      (publishedKeys json sodium service outcome).2.m_deviceId =
        service.m_deviceId :=
    fun outcome => (publishedKeys_same outcome).2.2
  cases call with
  | registerUser username passwordDerived outcome =>
      rw [step]
      rcases registerUser_cases json sodium sha256 service username
          passwordDerived outcome with
        stopped | stopped | ⟨_, _, _, _, _, signedIn⟩
      · rw [stopped]
      · rw [stopped]
        exact published outcome.keys
      · rw [signedIn, signIn_deviceId]
        exact published outcome.keys
  | login username passwordDerived outcome =>
      rw [step]
      rcases login_cases json sodium sha256 service username passwordDerived
          outcome with
        stopped | signedIn
      · rw [stopped]
      · rw [signedIn, signIn_deviceId]
        exact published outcome.keys
  | restoreSession outcome =>
      rw [step, restoreSession]
      split
      · rfl
      split
      · rfl
      dsimp only
      split <;> rfl
  | logout outcome =>
      rw [step, logout]
      split
      · rfl
      dsimp only
      unfold forgetActive
      split <;> rfl

/-- The device of a session that is offered. -/
theorem offeredSession_deviceId
    {call : AuthCall} {session : AuthContext}
    (offered :
      offeredSession json sodium sha256 service call = some session) :
    session.deviceId = service.m_deviceId ∨
      ∃ account ∈ service.m_accountsRepository,
        session.deviceId = account.activeDeviceId := by
  cases call with
  | registerUser username passwordDerived outcome =>
      rw [offeredSession] at offered
      split at offered
      · contradiction
      · split at offered
        · obtain ⟨reply, _, rfl⟩ := Option.map_eq_some_iff.mp offered
          exact Or.inl rfl
        · contradiction
  | login username passwordDerived outcome =>
      rw [offeredSession] at offered
      split at offered
      · contradiction
      · obtain ⟨reply, _, rfl⟩ := Option.map_eq_some_iff.mp offered
        exact Or.inl rfl
  | restoreSession outcome =>
      rw [offeredSession] at offered
      split at offered
      · contradiction
      rename_i account active
      split at offered
      · contradiction
      · obtain ⟨tokens, _, rfl⟩ := Option.map_eq_some_iff.mp offered
        exact Or.inr ⟨account, AccountsRepository.activeAccount_mem active, rfl⟩
  | logout outcome => contradiction

end Rows

end Integration
end VoxDesktop
