import VoxDesktop.Crypto.PrekeyManager
import VoxDesktop.Crypto.SyncCrypto
import VoxDesktop.Library.Machine
import VoxDesktop.Network.AuthApi
import VoxDesktop.Storage.AccountsRepository

/-!
# The authentication service

`services/AuthService` over the states of the objects it uses: the HTTP access
with its bearer token, the accounts table, the vault with its files and the
counter of the prekey manager.  Everything else a call meets (random bytes,
the server's response, the clock, whether saves and statements succeed) is an
argument of the call.

The frame of the module is `Undisturbed`: what a call that establishes no
session leaves as it was.
-/

namespace VoxDesktop
namespace Services

open Library Qt Crypto Network Storage CryptoHelpers

structure AuthContext where
  userId : QString
  username : QString
  deviceId : QString
  accessToken : QString
  refreshToken : QString

structure AuthService where
  m_network : NetworkAccess
  m_accountsRepository : List Account
  m_vault : VaultService
  m_nextSignedPrekeyId : Int32
  m_serverId : QString
  m_deviceId : QString
  m_context : Option AuthContext
  files : Files

/-! ## What happens around the calls -/

structure KeyOutcome where
  identity : IdentityOutcome
  prekey : PrekeyOutcome

/-- What happens around one call of `persistSession`. -/
structure PersistOutcome where
  save : SaveOutcome
  /-- `QUuid::createUuid()`. -/
  accountId : QString
  now : ℤ
  upserted : Bool

structure RegisterOutcome where
  keys : KeyOutcome
  syncMasterKey : List.Vector UInt8 32
  wrap : WrapDraws
  response : NetworkResponse
  persist : PersistOutcome

structure LoginOutcome where
  keys : KeyOutcome
  response : NetworkResponse
  persist : PersistOutcome

structure RestoreOutcome where
  selected : Bool
  response : NetworkResponse
  save : SaveOutcome
  now : ℤ
  upserted : Bool

structure LogoutOutcome where
  response : NetworkResponse
  selected : Bool
  save : SaveOutcome
  deleted : Bool

/-- A request handed to the authentication interface. -/
inductive AuthRequest
  | registerUser (request : RegisterRequest)
  | login (request : LoginRequest)
  | refresh (request : RefreshRequest)
  | logout

/-- What a call returns, the request it makes, as it is handed to the
interface and as it goes on the wire, and whether it reaches
`persistSession`. -/
structure AuthReport where
  returned : Bool := false
  request : Option AuthRequest := none
  posted : Option HttpRequest := none
  persisted : Bool := false

/-- The registration request of a report. -/
def AuthReport.registration (report : AuthReport) : Option RegisterRequest :=
  match report.request with
  | some (.registerUser request) => some request
  | _ => none

namespace AuthService

/-- A service as it is constructed, with an empty accounts table. -/
def constructed
    (network : NetworkAccess) (vault : VaultService × Files)
    (serverId deviceId : QString) : AuthService :=
  { m_network := network
    m_accountsRepository := []
    m_vault := vault.1
    m_nextSignedPrekeyId := 1
    m_serverId := serverId
    m_deviceId := deviceId
    m_context := none
    files := vault.2 }

def toB64 (bytes : QByteArray) : QString :=
  fromUtf8 (toBase64 ⟨true, true⟩ bytes)

def sha256HexLower
    (sha256 : QByteArray → List.Vector UInt8 kSha256Bytes)
    (input : QString) : QString :=
  fromLatin1 (toHex (sha256 (toUtf8 input)).toList)

/-- `"refresh_token/" + userId`. -/
def refreshTokenName (userId : QString) : QString :=
  QString.literal "refresh_token/" ++ userId

theorem refreshTokenName_ne_nil (userId : QString) :
    refreshTokenName userId ≠ [] := by
  intro empty
  have initial := congrArg List.head? empty
  contradiction

def deviceLabel : QString := QString.literal "Vox Desktop"

section Operations

variable (json : QJsonDocument) (sodium : Sodium)
  (sha256 : QByteArray → List.Vector UInt8 kSha256Bytes)
  (service : AuthService)

/-- The keys that both kinds of sign-in publish: `ensureIdentityKeys`,
`identityKeys` and `rotateSignedPrekey`. -/
def publishedKeys (outcome : KeyOutcome) :
    Option (IdentityKeys × SignedPrekey) × AuthService :=
  let ensured :=
    IdentityKeyStore.ensureIdentityKeys json sodium
      (service.m_vault, service.files) outcome.identity
  if ensured.1 = false then
    (none, { service with m_vault := ensured.2.1, files := ensured.2.2 })
  else
    let rotated :=
      PrekeyManager.rotateSignedPrekey json sodium
        service.m_nextSignedPrekeyId ensured.2 outcome.prekey
    let next :=
      { service with
        m_nextSignedPrekeyId := rotated.2.1
        m_vault := rotated.2.2.1
        files := rotated.2.2.2 }
    match IdentityKeyStore.identityKeys ensured.2.1, rotated.1 with
    | some identity, some signedPrekey => (some (identity, signedPrekey), next)
    | _, _ => (none, next)

def persistSession
    (username : QString) (response : AuthSessionResponse)
    (outcome : PersistOutcome) : Bool × AuthService :=
  let established :=
    { service with
      m_network := service.m_network.setBearerToken response.accessToken
      m_context := some
        { userId := response.userId
          username := username
          deviceId := service.m_deviceId
          accessToken := response.accessToken
          refreshToken := response.refreshToken } }
  let stored :=
    service.m_vault.storeSecret json sodium service.files
      (refreshTokenName response.userId) (toUtf8 response.refreshToken)
      outcome.save
  let kept := { established with m_vault := stored.2.1, files := stored.2.2 }
  if stored.1 = false then (false, kept)
  else
    let account : Account :=
      { accountId := outcome.accountId
        serverId := service.m_serverId
        userId := response.userId
        username := username
        activeDeviceId := service.m_deviceId
        refreshTokenCiphertext := toUtf8 response.refreshToken
        lastLogin := outcome.now }
    let upserted :=
      AccountsRepository.upsertAccount service.m_accountsRepository account
        outcome.upserted
    (upserted.1, { kept with m_accountsRepository := upserted.2 })

/-- The last lines of both kinds of sign-in. -/
def signIn
    (username : QString) (request : AuthRequest)
    (exchange : HttpRequest × ApiResult AuthSessionResponse)
    (outcome : PersistOutcome) : AuthReport × AuthService :=
  match exchange.2.ok, exchange.2.data with
  | true, some response =>
      let persisted :=
        persistSession json sodium service username response outcome
      ({ returned := persisted.1
         request := some request
         posted := some exchange.1
         persisted := true }, persisted.2)
  | _, _ =>
      ({ request := some request, posted := some exchange.1 }, service)

def registerRequest
    (username derived : QString)
    (identity : IdentityKeys) (signedPrekey : SignedPrekey)
    (wrappedSync : WrappedSyncKeyBundle) : RegisterRequest :=
  { username := username
    passwordDerivedValue := derived
    deviceId := service.m_deviceId
    deviceLabel := deviceLabel
    identityKeyPublic := toB64 identity.dhPublic
    signedPrekeyPublic := toB64 signedPrekey.publicKey
    signedPrekeySignature := toB64 signedPrekey.signature
    wrappedSyncKey := toB64 wrappedSync.wrappedSyncKey
    syncWrapSalt := toB64 wrappedSync.salt
    syncWrapParams := wrappedSync.params.toJson }

def registerUser
    (username passwordDerived : QString) (outcome : RegisterOutcome) :
    AuthReport × AuthService :=
  if username = [] ∨ passwordDerived = [] then ({}, service)
  else
    let derived := sha256HexLower sha256 passwordDerived
    let keys := publishedKeys json sodium service outcome.keys
    match keys.1 with
    | none => ({}, keys.2)
    | some (identity, signedPrekey) =>
        let syncMasterKey := randomBytes sodium outcome.syncMasterKey
        match SyncCrypto.wrapSyncMasterKey sodium (toUtf8 derived)
          syncMasterKey {} outcome.wrap with
        | none => ({}, keys.2)
        | some wrappedSync =>
            let request :=
              service.registerRequest username derived identity signedPrekey
                wrappedSync
            keys.2.signIn json sodium username (.registerUser request)
              (AuthApi.registerUser json keys.2.m_network request
                outcome.response) outcome.persist

/-- The request of `login`; the key fields stay empty without keys. -/
def loginRequest
    (username derived : QString)
    (keys : Option (IdentityKeys × SignedPrekey)) : LoginRequest :=
  let published (value : IdentityKeys × SignedPrekey → QByteArray) : QString :=
    match keys with
    | some pair => toB64 (value pair)
    | none => []
  { username := username
    passwordDerivedValue := derived
    deviceId := service.m_deviceId
    deviceLabel := deviceLabel
    identityKeyPublic := published fun pair => pair.1.dhPublic
    signedPrekeyPublic := published fun pair => pair.2.publicKey
    signedPrekeySignature := published fun pair => pair.2.signature }

def login
    (username passwordDerived : QString) (outcome : LoginOutcome) :
    AuthReport × AuthService :=
  if username = [] ∨ passwordDerived = [] then ({}, service)
  else
    let derived := sha256HexLower sha256 passwordDerived
    let keys := publishedKeys json sodium service outcome.keys
    let request := service.loginRequest username derived keys.1
    keys.2.signIn json sodium username (.login request)
      (AuthApi.login json keys.2.m_network request outcome.response)
      outcome.persist

def restoreSession (outcome : RestoreOutcome) : AuthReport × AuthService :=
  match AccountsRepository.activeAccount service.m_accountsRepository
    outcome.selected with
  | none => ({}, service)
  | some account =>
      match service.m_vault.loadSecret (refreshTokenName account.userId) with
      | none => ({}, service)
      | some refreshToken =>
          let request : RefreshRequest :=
            ⟨fromUtf8 refreshToken, account.activeDeviceId⟩
          let exchange :=
            AuthApi.refresh json service.m_network request outcome.response
          match exchange.2.ok, exchange.2.data with
          | true, some tokens =>
              let stored :=
                service.m_vault.storeSecret json sodium service.files
                  (refreshTokenName account.userId)
                  (toUtf8 tokens.refreshToken) outcome.save
              let upserted :=
                AccountsRepository.upsertAccount service.m_accountsRepository
                  { account with
                    refreshTokenCiphertext := toUtf8 tokens.refreshToken
                    lastLogin := outcome.now } outcome.upserted
              ({ returned := upserted.1
                 request := some (.refresh request)
                 posted := some exchange.1 },
                { service with
                  m_network :=
                    service.m_network.setBearerToken tokens.accessToken
                  m_context := some
                    { userId := account.userId
                      username := account.username
                      deviceId := account.activeDeviceId
                      accessToken := tokens.accessToken
                      refreshToken := tokens.refreshToken }
                  m_vault := stored.2.1
                  files := stored.2.2
                  m_accountsRepository := upserted.2 })
          | _, _ =>
              ({ request := some (.refresh request)
                 posted := some exchange.1 }, service)

/-- The branch of `logout` that removes the active account. -/
def forgetActive (outcome : LogoutOutcome) : AuthService :=
  match AccountsRepository.activeAccount service.m_accountsRepository
    outcome.selected with
  | none => service
  | some active =>
      let removed :=
        service.m_vault.removeSecret json sodium service.files
          (refreshTokenName active.userId) outcome.save
      let deleted :=
        AccountsRepository.deleteAccount service.m_accountsRepository
          active.accountId outcome.deleted
      { service with
        m_vault := removed.2.1
        files := removed.2.2
        m_accountsRepository := deleted.2 }

def logout (outcome : LogoutOutcome) : AuthReport × AuthService :=
  if service.m_context.isNone then ({ returned := true }, service)
  else
    let exchange := AuthApi.logout json service.m_network outcome.response
    let forgotten := service.forgetActive json sodium outcome
    ({ returned := exchange.2.ok
       request := some .logout
       posted := some exchange.1 },
      { forgotten with
        m_network := forgotten.m_network.setBearerToken []
        m_context := none })

end Operations

/-! ## Runs -/

inductive AuthCall
  | registerUser (username passwordDerived : QString)
      (outcome : RegisterOutcome)
  | login (username passwordDerived : QString) (outcome : LoginOutcome)
  | restoreSession (outcome : RestoreOutcome)
  | logout (outcome : LogoutOutcome)

def step
    (json : QJsonDocument) (sodium : Sodium)
    (sha256 : QByteArray → List.Vector UInt8 kSha256Bytes)
    (service : AuthService) : AuthCall → AuthReport × AuthService
  | .registerUser username passwordDerived outcome =>
      registerUser json sodium sha256 service username passwordDerived outcome
  | .login username passwordDerived outcome =>
      login json sodium sha256 service username passwordDerived outcome
  | .restoreSession outcome => restoreSession json sodium service outcome
  | .logout outcome => logout json sodium service outcome

/-! ## What the sign-in calls do -/

section Cases

variable (json : QJsonDocument) (sodium : Sodium)
  (sha256 : QByteArray → List.Vector UInt8 kSha256Bytes)
  (service : AuthService)

/-- A registration stops before anything, stops after publishing keys, or
wraps a sync master key under the derived value and signs in with the request
that carries it. -/
theorem registerUser_cases
    (username passwordDerived : QString) (outcome : RegisterOutcome) :
    let result :=
      registerUser json sodium sha256 service username passwordDerived outcome
    let derived := sha256HexLower sha256 passwordDerived
    let keys := publishedKeys json sodium service outcome.keys
    result = ({}, service) ∨ result = ({}, keys.2) ∨
      ∃ identity signedPrekey wrappedSync,
        keys.1 = some (identity, signedPrekey) ∧
          SyncCrypto.wrapSyncMasterKey sodium (toUtf8 derived)
            (randomBytes sodium outcome.syncMasterKey) {} outcome.wrap =
              some wrappedSync ∧
          let request :=
            service.registerRequest username derived identity signedPrekey
              wrappedSync
          result =
            keys.2.signIn json sodium username (.registerUser request)
              (AuthApi.registerUser json keys.2.m_network request
                outcome.response) outcome.persist := by
  intro result derived keys
  by_cases arguments : username = [] ∨ passwordDerived = []
  · exact Or.inl (if_pos arguments)
  right
  have entered : result = _ := if_neg arguments
  cases published : keys.1 with
  | none =>
      left
      rw [entered]
      simp only [keys] at published
      simp only [published]
      rfl
  | some pair =>
      obtain ⟨identity, signedPrekey⟩ := pair
      simp only [keys] at published
      cases wrapped :
          SyncCrypto.wrapSyncMasterKey sodium (toUtf8 derived)
            (randomBytes sodium outcome.syncMasterKey) {} outcome.wrap with
      | none =>
          left
          rw [entered]
          simp only [derived] at wrapped
          simp only [published, wrapped]
          rfl
      | some wrappedSync =>
          right
          refine ⟨identity, signedPrekey, wrappedSync, rfl, rfl, ?_⟩
          rw [entered]
          simp only [derived] at wrapped
          simp only [published, wrapped]
          rfl

/-- A login stops before anything or signs in. -/
theorem login_cases
    (username passwordDerived : QString) (outcome : LoginOutcome) :
    let result :=
      login json sodium sha256 service username passwordDerived outcome
    let keys := publishedKeys json sodium service outcome.keys
    let request :=
      service.loginRequest username (sha256HexLower sha256 passwordDerived)
        keys.1
    result = ({}, service) ∨
      result =
        keys.2.signIn json sodium username (.login request)
          (AuthApi.login json keys.2.m_network request outcome.response)
          outcome.persist := by
  intro result keys request
  by_cases arguments : username = [] ∨ passwordDerived = []
  · exact Or.inl (if_pos arguments)
  · exact Or.inr (if_neg arguments)

/-- A sign-in makes the request it is given. -/
theorem signIn_request
    (username : QString) (request : AuthRequest)
    (exchange : HttpRequest × ApiResult AuthSessionResponse)
    (outcome : PersistOutcome) :
    (signIn json sodium service username request exchange
      outcome).1.request = some request := by
  unfold signIn
  split <;> rfl

end Cases

/-! ## What stays when no session is established -/

/-- Context, accounts and refresh tokens are the same. -/
structure Undisturbed (before after : AuthService) : Prop where
  context : after.m_context = before.m_context
  accounts : after.m_accountsRepository = before.m_accountsRepository
  tokens : ∀ userId,
    after.m_vault.loadSecret (refreshTokenName userId) =
      before.m_vault.loadSecret (refreshTokenName userId)

namespace Undisturbed

theorem refl (service : AuthService) : Undisturbed service service :=
  ⟨rfl, rfl, fun _ => rfl⟩

theorem trans
    {first second third : AuthService}
    (before : Undisturbed first second)
    (after : Undisturbed second third) :
    Undisturbed first third where
  context := after.context.trans before.context
  accounts := after.accounts.trans before.accounts
  tokens userId := (after.tokens userId).trans (before.tokens userId)

end Undisturbed

/-- Names that start with another letter are no refresh token names. -/
theorem refreshTokenName_notMem
    {names : List QString}
    (others : ∀ name ∈ names, name.head? ≠ some 0x72)
    (userId : QString) :
    refreshTokenName userId ∉ names := by
  intro member
  exact others _ member rfl

section Frame

variable {json : QJsonDocument} {sodium : Sodium}
  {sha256 : QByteArray → List.Vector UInt8 kSha256Bytes}
  {service : AuthService}

/-- Publishing keys touches neither sessions nor refresh tokens. -/
theorem publishedKeys_undisturbed (outcome : KeyOutcome) :
    Undisturbed service (publishedKeys json sodium service outcome).2 := by
  unfold publishedKeys
  extract_lets ensured rotated next
  have ensuredTokens : ∀ userId,
      ensured.2.1.loadSecret (refreshTokenName userId) =
        service.m_vault.loadSecret (refreshTokenName userId) :=
    fun userId =>
      IdentityKeyStore.loadSecret_ensureIdentityKeys json sodium _
        outcome.identity (refreshTokenName_notMem (by decide) userId)
  have rotatedTokens : ∀ userId,
      rotated.2.2.1.loadSecret (refreshTokenName userId) =
        service.m_vault.loadSecret (refreshTokenName userId) :=
    fun userId =>
      (PrekeyManager.loadSecret_rotateSignedPrekey json sodium _ ensured.2
        outcome.prekey (refreshTokenName_notMem (by decide) userId)).trans
          (ensuredTokens userId)
  split
  · exact ⟨rfl, rfl, ensuredTokens⟩
  · split
    · exact ⟨rfl, rfl, rotatedTokens⟩
    · exact ⟨rfl, rfl, rotatedTokens⟩

theorem signIn_of_not_persisted
    {username : QString} {request : AuthRequest}
    {exchange : HttpRequest × ApiResult AuthSessionResponse}
    {outcome : PersistOutcome}
    (notPersisted :
      (signIn json sodium service username request exchange
        outcome).1.persisted = false) :
    (signIn json sodium service username request exchange outcome).2 =
      service := by
  unfold signIn at notPersisted ⊢
  split
  · rename_i accepted received
    rw [accepted, received] at notPersisted
    contradiction
  · rfl

/-- A registration that establishes no session disturbs nothing. -/
theorem registerUser_undisturbed
    {username passwordDerived : QString} {outcome : RegisterOutcome}
    (notPersisted :
      (registerUser json sodium sha256 service username passwordDerived
        outcome).1.persisted = false) :
    Undisturbed service
      (registerUser json sodium sha256 service username passwordDerived
        outcome).2 := by
  rcases registerUser_cases json sodium sha256 service username
      passwordDerived outcome with
    stopped | stopped | ⟨identity, signedPrekey, wrappedSync, _, _, signedIn⟩
  · rw [stopped]
    exact .refl service
  · rw [stopped]
    exact publishedKeys_undisturbed outcome.keys
  · rw [signedIn] at notPersisted ⊢
    rw [signIn_of_not_persisted notPersisted]
    exact publishedKeys_undisturbed outcome.keys

/-- A login that establishes no session disturbs nothing. -/
theorem login_undisturbed
    {username passwordDerived : QString} {outcome : LoginOutcome}
    (notPersisted :
      (login json sodium sha256 service username passwordDerived
        outcome).1.persisted = false) :
    Undisturbed service
      (login json sodium sha256 service username passwordDerived
        outcome).2 := by
  rcases login_cases json sodium sha256 service username passwordDerived
      outcome with
    stopped | signedIn
  · rw [stopped]
    exact .refl service
  · rw [signedIn] at notPersisted ⊢
    rw [signIn_of_not_persisted notPersisted]
    exact publishedKeys_undisturbed outcome.keys

end Frame

end AuthService
end Services
end VoxDesktop
