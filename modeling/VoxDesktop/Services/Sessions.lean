import VoxDesktop.Services.ReferenceService

/-!
# The sessions that calls install

A sign-in or a restore installs the session that the server's reply offers
before it writes anything.  When a write fails afterwards, the call returns
false with the session in place.  So a call keeps the promise that returning
false changes no session exactly when it is offered none, when the session is
there already, or when its writes succeed.
-/

namespace VoxDesktop
namespace Services
namespace AuthService

open Library Qt Crypto Network Storage CryptoHelpers

def AuthCall.isLogout : AuthCall → Bool
  | .logout _ => true
  | _ => false

/-- The session of a sign-in. -/
def sessionOf
    (service : AuthService) (username : QString)
    (response : AuthSessionResponse) : AuthContext where
  userId := response.userId
  username := username
  deviceId := service.m_deviceId
  accessToken := response.accessToken
  refreshToken := response.refreshToken

/-- The session of a restore. -/
def refreshedSession (account : Account) (tokens : RefreshResponse) :
    AuthContext where
  userId := account.userId
  username := account.username
  deviceId := account.activeDeviceId
  accessToken := tokens.accessToken
  refreshToken := tokens.refreshToken

section Offers

variable (json : QJsonDocument) (sodium : Sodium)
  (sha256 : QByteArray → List.Vector UInt8 kSha256Bytes)
  (service : AuthService)

/-- The session that the server's reply offers, if the call gets as far as a
reply that carries one. -/
def offeredSession : AuthCall → Option AuthContext
  | .registerUser username passwordDerived outcome =>
      if username = [] ∨ passwordDerived = [] then none
      else
        match (publishedKeys json sodium service outcome.keys).1,
          SyncCrypto.wrapSyncMasterKey sodium
            (toUtf8 (sha256HexLower sha256 passwordDerived))
            (randomBytes sodium outcome.syncMasterKey) {} outcome.wrap with
        | some _, some _ =>
            (AuthApi.parseTypedResponse json outcome.response
              parseAuthSessionResponse).accepted.map
                (service.sessionOf username)
        | _, _ => none
  | .login username passwordDerived outcome =>
      if username = [] ∨ passwordDerived = [] then none
      else
        (AuthApi.parseTypedResponse json outcome.response
          parseAuthSessionResponse).accepted.map (service.sessionOf username)
  | .restoreSession outcome =>
      match AccountsRepository.activeAccount service.m_accountsRepository
        outcome.selected with
      | none => none
      | some account =>
          match
            service.m_vault.loadSecret (refreshTokenName account.userId) with
          | none => none
          | some _ =>
              (AuthApi.parseTypedResponse json outcome.response
                parseRefreshResponse).accepted.map (refreshedSession account)
  | .logout _ => none

/-- Whether the two writes of `persistSession` succeed: the vault is unlocked
and there is a refresh token, the vault with the token is saved, and the row of
the account is written. -/
def persistWrites (outcome : PersistOutcome) (session : AuthContext) : Bool :=
  let stored :=
    { service.m_vault with
      m_secrets :=
        service.m_vault.m_secrets.insert (refreshTokenName session.userId)
          (toUtf8 session.refreshToken) }
  service.m_vault.m_unlocked && !session.refreshToken.isEmpty &&
    (stored.saveVault json sodium service.files outcome.save).1 &&
    outcome.upserted

/-- Whether the writes after the installation of a session succeed, as far as
the call checks them: a restore does not check the vault. -/
def sessionWrites : AuthCall → AuthContext → Bool
  | .registerUser _ _ outcome =>
      persistWrites json sodium (publishedKeys json sodium service
        outcome.keys).2 outcome.persist
  | .login _ _ outcome =>
      persistWrites json sodium (publishedKeys json sodium service
        outcome.keys).2 outcome.persist
  | .restoreSession outcome => fun _ => outcome.upserted
  | .logout _ => fun _ => false

end Offers

/-- What a call does to context and bearer token: nothing without an offer,
else it installs what is offered and returns whether the writes succeed. -/
def Installs
    (before : AuthService) (writes : AuthContext → Bool)
    (result : AuthReport × AuthService) : Option AuthContext → Prop
  | none =>
      result.1.returned = false ∧
        result.2.m_context = before.m_context ∧
        result.2.m_network = before.m_network
  | some session =>
      result.1.returned = writes session ∧
        result.2.m_context = some session ∧
        result.2.m_network.m_bearerToken = session.accessToken

section Calls

variable {json : QJsonDocument} {sodium : Sodium}
  {sha256 : QByteArray → List.Vector UInt8 kSha256Bytes}
  {service : AuthService}

/-- Publishing keys leaves the HTTP access and the identity of the service
alone. -/
theorem publishedKeys_same (outcome : KeyOutcome) :
    let keys := publishedKeys json sodium service outcome
    keys.2.m_network = service.m_network ∧
      keys.2.m_context = service.m_context ∧
      keys.2.m_deviceId = service.m_deviceId := by
  intro keys
  unfold keys publishedKeys
  extract_lets ensured rotated next
  split
  · exact ⟨rfl, rfl, rfl⟩
  · split
    · exact ⟨rfl, rfl, rfl⟩
    · exact ⟨rfl, rfl, rfl⟩

/-- The writes are `storeSecret` of the refresh token and the upsert. -/
theorem persistWrites_eq (outcome : PersistOutcome) (session : AuthContext) :
    persistWrites json sodium service outcome session =
      ((service.m_vault.storeSecret json sodium service.files
        (refreshTokenName session.userId) (toUtf8 session.refreshToken)
        outcome.save).1 && outcome.upserted) := by
  have named : refreshTokenName session.userId ≠ [] :=
    refreshTokenName_ne_nil session.userId
  rw [persistWrites, VaultService.storeSecret]
  cases unlocked : service.m_vault.m_unlocked with
  | false => simp
  | true =>
      cases token : session.refreshToken with
      | nil => simp [toUtf8_eq_nil_iff]
      | cons unit rest => simp [named, toUtf8_eq_nil_iff, unlocked]

/-- Whether or not a session can be written, it is installed. -/
theorem persistSession_installs
    (username : QString) (response : AuthSessionResponse)
    (outcome : PersistOutcome) :
    let session := service.sessionOf username response
    let result :=
      persistSession json sodium service username response outcome
    result.1 = persistWrites json sodium service outcome session ∧
      result.2.m_context = some session ∧
      result.2.m_network.m_bearerToken = session.accessToken := by
  intro session result
  rw [persistWrites_eq]
  unfold result persistSession
  extract_lets established stored kept account upserted
  have tableWritten : upserted.1 = outcome.upserted :=
    AccountsRepository.upsertAccount_returns _ _ _
  have sameStored : stored.1 =
      (service.m_vault.storeSecret json sodium service.files
        (refreshTokenName session.userId) (toUtf8 session.refreshToken)
        outcome.save).1 := rfl
  rw [← sameStored]
  split
  · rename_i failed
    rw [failed]
    exact ⟨rfl, rfl, rfl⟩
  · rename_i returned
    rw [Bool.not_eq_false] at returned
    rw [returned, Bool.true_and]
    exact ⟨tableWritten, rfl, rfl⟩

/-- The last lines of a sign-in install the session of an accepted reply. -/
theorem signIn_installs
    (username : QString) (request : AuthRequest)
    (exchange : HttpRequest × ApiResult AuthSessionResponse)
    (outcome : PersistOutcome) :
    Installs service (persistWrites json sodium service outcome)
      (signIn json sodium service username request exchange outcome)
      (exchange.2.accepted.map (service.sessionOf username)) := by
  obtain ⟨posted, ok, statusCode, error, data⟩ := exchange
  cases ok with
  | false => exact ⟨rfl, rfl, rfl⟩
  | true =>
      cases data with
      | none => exact ⟨rfl, rfl, rfl⟩
      | some response => exact persistSession_installs username response outcome

/-- Publishing keys before a sign-in does not show in what it installs. -/
theorem signIn_publishedKeys_installs
    (keyOutcome : KeyOutcome)
    (username : QString) (request : AuthRequest)
    (exchange : HttpRequest × ApiResult AuthSessionResponse)
    (outcome : PersistOutcome) :
    let keys := (publishedKeys json sodium service keyOutcome).2
    Installs service (persistWrites json sodium keys outcome)
      (signIn json sodium keys username request exchange outcome)
      (exchange.2.accepted.map (service.sessionOf username)) := by
  intro keys
  obtain ⟨sameNetwork, sameContext, sameDevice⟩ :=
    @publishedKeys_same json sodium service keyOutcome
  have installs :=
    @signIn_installs json sodium keys username request exchange outcome
  have sameSession : keys.sessionOf username = service.sessionOf username := by
    funext response
    rw [sessionOf, sessionOf, sameDevice]
  rw [sameSession] at installs
  cases received : exchange.2.accepted with
  | none =>
      rw [received] at installs
      obtain ⟨returned, contextKept, networkKept⟩ := installs
      exact ⟨returned, contextKept.trans sameContext,
        networkKept.trans sameNetwork⟩
  | some response =>
      rw [received] at installs
      exact installs

theorem registerUser_installs
    (username passwordDerived : QString) (outcome : RegisterOutcome) :
    let call : AuthCall := .registerUser username passwordDerived outcome
    Installs service (sessionWrites json sodium service call)
      (registerUser json sodium sha256 service username passwordDerived
        outcome)
      (offeredSession json sodium sha256 service call) := by
  intro call
  rw [registerUser, offeredSession]
  split
  · exact ⟨rfl, rfl, rfl⟩
  dsimp only
  obtain ⟨sameNetwork, sameContext, _⟩ :=
    @publishedKeys_same json sodium service outcome.keys
  cases published : (publishedKeys json sodium service outcome.keys).1 with
  | none => exact ⟨rfl, sameContext, sameNetwork⟩
  | some pair =>
      dsimp only
      cases SyncCrypto.wrapSyncMasterKey sodium
          (toUtf8 (sha256HexLower sha256 passwordDerived))
          (randomBytes sodium outcome.syncMasterKey) {} outcome.wrap with
      | none => exact ⟨rfl, sameContext, sameNetwork⟩
      | some wrappedSync =>
          exact signIn_publishedKeys_installs outcome.keys username _ _
            outcome.persist

theorem login_installs
    (username passwordDerived : QString) (outcome : LoginOutcome) :
    let call : AuthCall := .login username passwordDerived outcome
    Installs service (sessionWrites json sodium service call)
      (login json sodium sha256 service username passwordDerived outcome)
      (offeredSession json sodium sha256 service call) := by
  intro call
  rw [login, offeredSession]
  split
  · exact ⟨rfl, rfl, rfl⟩
  · exact signIn_publishedKeys_installs outcome.keys username _ _
      outcome.persist

theorem restoreSession_installs (outcome : RestoreOutcome) :
    let call : AuthCall := .restoreSession outcome
    Installs service (sessionWrites json sodium service call)
      (restoreSession json sodium service outcome)
      (offeredSession json sodium sha256 service call) := by
  intro call
  rw [restoreSession, offeredSession]
  cases AccountsRepository.activeAccount service.m_accountsRepository
    outcome.selected with
  | none => exact ⟨rfl, rfl, rfl⟩
  | some account =>
      dsimp only
      cases service.m_vault.loadSecret (refreshTokenName account.userId) with
      | none => exact ⟨rfl, rfl, rfl⟩
      | some refreshToken =>
          dsimp only [AuthApi.refresh]
          obtain ⟨ok, statusCode, error, data⟩ :=
            AuthApi.parseTypedResponse json outcome.response
              parseRefreshResponse
          cases ok with
          | false => exact ⟨rfl, rfl, rfl⟩
          | true =>
              cases data with
              | none => exact ⟨rfl, rfl, rfl⟩
              | some tokens =>
                  exact ⟨AccountsRepository.upsertAccount_returns _ _ _, rfl,
                    rfl⟩

/-- A call other than a logout installs the session it is offered, whether it
returns true or false. -/
theorem step_installs
    {call : AuthCall}
    (notLogout : call.isLogout = false) :
    Installs service (sessionWrites json sodium service call)
      (step json sodium sha256 service call)
      (offeredSession json sodium sha256 service call) := by
  cases call with
  | registerUser username passwordDerived outcome =>
      exact registerUser_installs username passwordDerived outcome
  | login username passwordDerived outcome =>
      exact login_installs username passwordDerived outcome
  | restoreSession outcome => exact restoreSession_installs outcome
  | logout outcome => contradiction

/-- Returning false means that context and bearer token are as they were
exactly when every session the call is offered can be written or is installed
already. -/
theorem failed_call_keeps_session_iff
    (json : QJsonDocument)
    (sodium : Sodium)
    (sha256 : QByteArray → List.Vector UInt8 kSha256Bytes)
    (service : AuthService)
    (call : AuthCall)
    (notLogout : call.isLogout = false) :
    let result := step json sodium sha256 service call
    (result.1.returned = false →
        result.2.m_context = service.m_context ∧
          result.2.m_network.m_bearerToken =
            service.m_network.m_bearerToken) ↔
      ∀ session,
        offeredSession json sodium sha256 service call = some session →
          sessionWrites json sodium service call session = true ∨
            service.m_context = some session ∧
              service.m_network.m_bearerToken = session.accessToken := by
  intro result
  have installs : Installs service (sessionWrites json sodium service call)
      result (offeredSession json sodium sha256 service call) :=
    step_installs notLogout
  cases offered : offeredSession json sodium sha256 service call with
  | none =>
      rw [offered] at installs
      obtain ⟨_, sameContext, sameNetwork⟩ := installs
      constructor
      · intro _ session impossible
        contradiction
      · intro _ _
        exact ⟨sameContext, by rw [sameNetwork]⟩
  | some session =>
      rw [offered] at installs
      obtain ⟨returned, context, bearer⟩ := installs
      rw [returned, context, bearer]
      constructor
      · rintro keeps other equal
        obtain rfl := Option.some.inj equal
        cases written : sessionWrites json sodium service call session with
        | true => exact Or.inl rfl
        | false =>
            obtain ⟨sameContext, sameBearer⟩ := keeps written
            exact Or.inr ⟨sameContext.symm, sameBearer.symm⟩
      · intro condition failed
        rcases condition session rfl with
          written | ⟨sameContext, sameBearer⟩
        · rw [written] at failed
          contradiction
        · exact ⟨sameContext.symm, sameBearer.symm⟩

/-- A login that the server rejects. -/
def rejectedLogin : AuthCall :=
  .login (QString.literal "alice") (QString.literal "p")
    { ReferenceService.loginOutcome [] [] [] 0 with
      response := ReferenceService.rejecting }

/-- A rejected login returns false and changes no session. -/
theorem failed_call_keeps_session_rejected :
    let result :=
      step ReferenceJson.json ReferenceSodium.sodium ReferenceService.sha256
        ReferenceService.service rejectedLogin
    result.1.returned = false ∧
      result.2.m_context = ReferenceService.service.m_context ∧
      result.2.m_network.m_bearerToken =
        ReferenceService.service.m_network.m_bearerToken := by
  have returned :
      (step ReferenceJson.json ReferenceSodium.sodium ReferenceService.sha256
        ReferenceService.service rejectedLogin).1.returned = false := by
    decide +kernel
  have nothingOffered :
      (offeredSession ReferenceJson.json ReferenceSodium.sodium
        ReferenceService.sha256 ReferenceService.service
        rejectedLogin).isSome = false := by
    decide +kernel
  have keeps :=
    (failed_call_keeps_session_iff ReferenceJson.json ReferenceSodium.sodium
      ReferenceService.sha256 ReferenceService.service rejectedLogin rfl).mpr
  refine ⟨returned, keeps ?_ returned⟩
  intro session offered
  rw [offered] at nothingOffered
  contradiction

/-- The server accepts a login with an empty refresh token: the vault refuses
the token, `login` returns false, and the user is signed in. -/
theorem failed_login_installs_session :
    let result :=
      step ReferenceJson.json ReferenceSodium.sodium ReferenceService.sha256
        ReferenceService.service
        (.login (QString.literal "alice") (QString.literal "p")
          (ReferenceService.loginOutcome (QString.literal "u1") []
            (QString.literal "a1") 1))
    result.1.returned = false ∧
      ReferenceService.service.m_context.isSome = false ∧
      ReferenceService.service.m_network.m_bearerToken = [] ∧
      result.2.m_context.map AuthContext.userId =
        some (QString.literal "u1") ∧
      result.2.m_network.m_bearerToken = QString.literal "access" := by
  decide +kernel

end Calls

end AuthService
end Services
end VoxDesktop
