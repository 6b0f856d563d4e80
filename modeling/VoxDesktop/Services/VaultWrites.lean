import VoxDesktop.Crypto.ReferenceVault
import VoxDesktop.Crypto.VaultDurability
import VoxDesktop.Services.Sessions

/-!
# The vault under the authentication service

Every call of the service changes its vault by writes only: it removes
refresh tokens and stores keys and the token of the session it is offered.  So
what no such write of the vault breaks, no run of the service breaks.  In
particular the vault can be opened again after every run.
-/

namespace VoxDesktop
namespace Services
namespace AuthService

open Library Qt Crypto Network Storage VaultService

/-- The vault of a service with its files. -/
def vaultState (service : AuthService) : VaultService × Files :=
  (service.m_vault, service.files)

theorem vaultState_constructed
    (network : NetworkAccess) (vault : VaultService × Files)
    (serverId deviceId : QString) :
    (constructed network vault serverId deviceId).vaultState = vault := rfl

section Writes

variable {json : QJsonDocument} {sodium : Sodium}
  {sha256 : QByteArray → List.Vector UInt8 kSha256Bytes}
  {vaultPath password : QString}
  {kept : VaultService × Files → Prop}

/-- A property that no permitted write of the vault breaks. -/
def KeptByPermitted
    (json : QJsonDocument) (sodium : Sodium) (permitted : WriteCall → Prop)
    (kept : VaultService × Files → Prop) : Prop :=
  ∀ state call, permitted call → kept state →
    kept (write json sodium state call).2

/-- A property that no single write of the vault breaks. -/
def KeptByWrites
    (json : QJsonDocument) (sodium : Sodium)
    (kept : VaultService × Files → Prop) : Prop :=
  ∀ state call, kept state → kept (write json sodium state call).2

theorem KeptByWrites.keptByPermitted
    (byWrites : KeptByWrites json sodium kept)
    (permitted : WriteCall → Prop) :
    KeptByPermitted json sodium permitted kept :=
  fun state call _ => byWrites state call

section Permitted

variable {permitted : WriteCall → Prop}

theorem KeptByPermitted.writeAll
    (byWrites : KeptByPermitted json sodium permitted kept)
    {state : VaultService × Files} (holds : kept state)
    {calls : List WriteCall}
    (callsPermitted : ∀ call ∈ calls, permitted call) :
    kept (VaultService.writeAll json sodium state calls).2 := by
  induction calls generalizing state with
  | nil => exact holds
  | cons call calls inductionHypothesis =>
      have next :=
        byWrites state call (callsPermitted call List.mem_cons_self) holds
      rw [VaultService.writeAll]
      split
      · exact inductionHypothesis next fun later member =>
          callsPermitted later (List.mem_cons_of_mem _ member)
      · exact next

/-- Writes under other names than those of refresh tokens are permitted. -/
def KeysPermitted (permitted : WriteCall → Prop) : Prop :=
  ∀ call : WriteCall,
    (∀ userId, call.name ≠ refreshTokenName userId) → permitted call

/-- Stores under names that start with another letter than those of refresh
tokens are permitted. -/
theorem KeysPermitted.storeCalls
    (keys : KeysPermitted permitted)
    {secrets : List (QString × QByteArray)}
    (others : ∀ name ∈ secrets.map Prod.fst, name.head? ≠ some 0x72)
    (saves : ℕ → SaveOutcome) :
    ∀ call ∈ storeCalls secrets saves, permitted call := by
  intro call member
  apply keys
  intro userId same
  apply refreshTokenName_notMem others userId
  rw [← same]
  exact name_of_mem_storeCalls member

theorem KeptByPermitted.ensureIdentityKeys
    (byWrites : KeptByPermitted json sodium permitted kept)
    (keys : KeysPermitted permitted)
    {state : VaultService × Files} (holds : kept state)
    (outcome : IdentityOutcome) :
    kept (IdentityKeyStore.ensureIdentityKeys json sodium state
      outcome).2 := by
  unfold IdentityKeyStore.ensureIdentityKeys
  split
  · exact holds
  split
  · exact holds
  split
  · refine byWrites.writeAll holds (keys.storeCalls ?_ _)
    change ∀ name ∈ [IdentityKeyStore.kSignPub, IdentityKeyStore.kSignPriv,
      IdentityKeyStore.kDhPub, IdentityKeyStore.kDhPriv],
        name.head? ≠ some 0x72
    decide
  · exact holds

theorem KeptByPermitted.rotateSignedPrekey
    (byWrites : KeptByPermitted json sodium permitted kept)
    (keys : KeysPermitted permitted)
    {state : VaultService × Files} (holds : kept state)
    (nextSignedPrekeyId : Int32) (outcome : PrekeyOutcome) :
    kept (PrekeyManager.rotateSignedPrekey json sodium nextSignedPrekeyId
      state outcome).2.2 := by
  unfold PrekeyManager.rotateSignedPrekey
  split
  · exact holds
  split
  · dsimp only
    split
    · exact holds
    · refine byWrites.writeAll holds (keys.storeCalls ?_ _)
      change ∀ name ∈ [PrekeyManager.kSignedPrekeyIdName,
        PrekeyManager.kSignedPrekeyPubName,
        PrekeyManager.kSignedPrekeyPrivName,
        PrekeyManager.kSignedPrekeySigName], name.head? ≠ some 0x72
      decide
  · exact holds

theorem KeptByPermitted.publishedKeys
    (byWrites : KeptByPermitted json sodium permitted kept)
    (keys : KeysPermitted permitted)
    {service : AuthService} (holds : kept service.vaultState)
    (outcome : KeyOutcome) :
    kept (publishedKeys json sodium service outcome).2.vaultState := by
  unfold AuthService.publishedKeys
  extract_lets ensured rotated next
  have ensuredKept : kept ensured.2 :=
    byWrites.ensureIdentityKeys keys holds outcome.identity
  have rotatedKept : kept rotated.2.2 :=
    byWrites.rotateSignedPrekey keys ensuredKept _ outcome.prekey
  split
  · exact ensuredKept
  · split
    · exact rotatedKept
    · exact rotatedKept

/-- Persisting a session writes its refresh token. -/
theorem vaultState_persistSession
    (service : AuthService) (username : QString)
    (response : AuthSessionResponse) (outcome : PersistOutcome) :
    (persistSession json sodium service username response
        outcome).2.vaultState =
      (write json sodium service.vaultState
        (.store (refreshTokenName response.userId)
          (toUtf8 response.refreshToken) outcome.save)).2 := by
  unfold persistSession
  extract_lets established stored keptService account upserted
  split
  · rfl
  · rfl

/-- The save of the token of the session that a call is offered. -/
def AuthCall.tokenSave : AuthCall → SaveOutcome
  | .registerUser _ _ outcome => outcome.persist.save
  | .login _ _ outcome => outcome.persist.save
  | .restoreSession outcome => outcome.save
  | .logout outcome => outcome.save

/-- The token of a session may be written. -/
def TokenPermitted
    (permitted : WriteCall → Prop) (session : AuthContext) : Prop :=
  ∀ outcome : SaveOutcome,
    permitted (.store (refreshTokenName session.userId)
      (toUtf8 session.refreshToken) outcome)

theorem KeptByPermitted.signIn
    (byWrites : KeptByPermitted json sodium permitted kept)
    {service : AuthService} (holds : kept service.vaultState)
    {username : QString}
    {exchange : HttpRequest × ApiResult AuthSessionResponse}
    (offered : ∀ session ∈ exchange.2.accepted.map (service.sessionOf username),
      TokenPermitted permitted session)
    (request : AuthRequest) (outcome : PersistOutcome) :
    kept (signIn json sodium service username request exchange
      outcome).2.vaultState := by
  obtain ⟨posted, ok, statusCode, error, data⟩ := exchange
  cases ok with
  | false => exact holds
  | true =>
      cases data with
      | none => exact holds
      | some response =>
          have tokenPermitted :=
            offered (service.sessionOf username response) rfl
          change kept (persistSession json sodium service username response
            outcome).2.vaultState
          rw [vaultState_persistSession]
          exact byWrites _ _ (tokenPermitted outcome.save) holds

/-- A sign-in offers the session that it would offer before keys are
published. -/
theorem sessionOf_publishedKeys
    (service : AuthService) (outcome : KeyOutcome) (username : QString) :
    (publishedKeys json sodium service outcome).2.sessionOf username =
      service.sessionOf username := by
  funext response
  rw [sessionOf, sessionOf, publishedKeys_same outcome |>.2.2]

/-- The last write of a sign-in is the token that it is offered. -/
theorem vaultState_signIn
    {service : AuthService} {username : QString}
    {exchange : HttpRequest × ApiResult AuthSessionResponse}
    {session : AuthContext}
    (offered :
      exchange.2.accepted.map (service.sessionOf username) = some session)
    (request : AuthRequest) (outcome : PersistOutcome) :
    (signIn json sodium service username request exchange
        outcome).2.vaultState =
      (write json sodium service.vaultState
        (.store (refreshTokenName session.userId)
          (toUtf8 session.refreshToken) outcome.save)).2 := by
  obtain ⟨posted, ok, statusCode, error, data⟩ := exchange
  cases ok with
  | false => contradiction
  | true =>
      cases data with
      | none => contradiction
      | some response =>
          obtain rfl := Option.some.inj offered
          exact vaultState_persistSession service username response outcome

theorem KeptByPermitted.registerUser
    (byWrites : KeptByPermitted json sodium permitted kept)
    (keys : KeysPermitted permitted)
    {service : AuthService} (holds : kept service.vaultState)
    {username passwordDerived : QString} {outcome : RegisterOutcome}
    (offered : ∀ session ∈ offeredSession json sodium sha256 service
        (.registerUser username passwordDerived outcome),
      TokenPermitted permitted session) :
    kept (registerUser json sodium sha256 service username passwordDerived
      outcome).2.vaultState := by
  rw [AuthService.registerUser]
  rw [offeredSession] at offered
  split
  · exact holds
  rename_i arguments
  rw [if_neg arguments] at offered
  dsimp only
  have keysKept := byWrites.publishedKeys keys holds outcome.keys
  cases published :
      (AuthService.publishedKeys json sodium service outcome.keys).1 with
  | none => exact keysKept
  | some pair =>
      dsimp only
      cases wrapped : SyncCrypto.wrapSyncMasterKey sodium
          (toUtf8 (sha256HexLower sha256 passwordDerived))
          (CryptoHelpers.randomBytes sodium outcome.syncMasterKey) {}
          outcome.wrap with
      | none => exact keysKept
      | some wrappedSync =>
          simp only [published, wrapped] at offered
          refine byWrites.signIn keysKept ?_ _ _
          rw [sessionOf_publishedKeys]
          exact offered

theorem KeptByPermitted.login
    (byWrites : KeptByPermitted json sodium permitted kept)
    (keys : KeysPermitted permitted)
    {service : AuthService} (holds : kept service.vaultState)
    {username passwordDerived : QString} {outcome : LoginOutcome}
    (offered : ∀ session ∈ offeredSession json sodium sha256 service
        (.login username passwordDerived outcome),
      TokenPermitted permitted session) :
    kept (login json sodium sha256 service username passwordDerived
      outcome).2.vaultState := by
  rw [AuthService.login]
  rw [offeredSession] at offered
  split
  · exact holds
  rename_i arguments
  rw [if_neg arguments] at offered
  refine byWrites.signIn (byWrites.publishedKeys keys holds outcome.keys)
    ?_ _ _
  rw [sessionOf_publishedKeys]
  exact offered

theorem KeptByPermitted.restoreSession
    (byWrites : KeptByPermitted json sodium permitted kept)
    {service : AuthService} (holds : kept service.vaultState)
    {outcome : RestoreOutcome}
    (offered : ∀ session ∈ offeredSession json sodium sha256 service
        (.restoreSession outcome),
      TokenPermitted permitted session) :
    kept (restoreSession json sodium service outcome).2.vaultState := by
  rw [AuthService.restoreSession]
  rw [offeredSession] at offered
  cases active : AccountsRepository.activeAccount
      service.m_accountsRepository outcome.selected with
  | none => exact holds
  | some account =>
      dsimp only
      cases loaded :
          service.m_vault.loadSecret (refreshTokenName account.userId) with
      | none => exact holds
      | some refreshToken =>
          simp only [active, loaded] at offered
          dsimp only [AuthApi.refresh]
          generalize AuthApi.parseTypedResponse json outcome.response
            parseRefreshResponse = result at offered ⊢
          obtain ⟨ok, statusCode, error, data⟩ := result
          cases ok with
          | false => exact holds
          | true =>
              cases data with
              | none => exact holds
              | some tokens =>
                  have tokenPermitted :=
                    offered (refreshedSession account tokens) rfl
                  exact byWrites _ _ (tokenPermitted outcome.save) holds

theorem KeptByPermitted.logout
    (byWrites : KeptByPermitted json sodium permitted kept)
    (removals : ∀ name outcome, permitted (.remove name outcome))
    {service : AuthService} (holds : kept service.vaultState)
    (outcome : LogoutOutcome) :
    kept (logout json sodium service outcome).2.vaultState := by
  rw [AuthService.logout]
  split
  · exact holds
  dsimp only
  unfold forgetActive
  split
  · exact holds
  · exact byWrites _ (.remove _ _) (removals _ _) holds

/-- No call of the service breaks what no permitted write breaks, when it may
remove secrets and write keys and the token of the session it is offered. -/
theorem KeptByPermitted.step
    (byWrites : KeptByPermitted json sodium permitted kept)
    (keys : KeysPermitted permitted)
    (removals : ∀ name outcome, permitted (.remove name outcome))
    {service : AuthService} (holds : kept service.vaultState)
    {call : AuthCall}
    (offered : ∀ session ∈ offeredSession json sodium sha256 service call,
      TokenPermitted permitted session) :
    kept (step json sodium sha256 service call).2.vaultState := by
  cases call with
  | registerUser username passwordDerived outcome =>
      exact byWrites.registerUser keys holds offered
  | login username passwordDerived outcome =>
      exact byWrites.login keys holds offered
  | restoreSession outcome =>
      exact byWrites.restoreSession holds offered
  | logout outcome =>
      exact byWrites.logout removals holds outcome

end Permitted

theorem KeptByWrites.ensureIdentityKeys
    (byWrites : KeptByWrites json sodium kept)
    {state : VaultService × Files} (holds : kept state)
    (outcome : IdentityOutcome) :
    kept (IdentityKeyStore.ensureIdentityKeys json sodium state
      outcome).2 :=
  (byWrites.keptByPermitted fun _ => True).ensureIdentityKeys
    (fun _ _ => trivial) holds outcome

theorem KeptByWrites.publishedKeys
    (byWrites : KeptByWrites json sodium kept)
    {service : AuthService} (holds : kept service.vaultState)
    (outcome : KeyOutcome) :
    kept (publishedKeys json sodium service outcome).2.vaultState :=
  (byWrites.keptByPermitted fun _ => True).publishedKeys
    (fun _ _ => trivial) holds outcome

/-- A restore that is offered a session stores its token, saved or not. -/
theorem vaultState_restoreSession
    {service : AuthService} {outcome : RestoreOutcome}
    {session : AuthContext}
    (offered :
      offeredSession json sodium sha256 service (.restoreSession outcome) =
        some session) :
    (restoreSession json sodium service outcome).2.vaultState =
      (write json sodium service.vaultState
        (.store (refreshTokenName session.userId)
          (toUtf8 session.refreshToken) outcome.save)).2 := by
  rw [AuthService.restoreSession]
  rw [offeredSession] at offered
  cases active : AccountsRepository.activeAccount
      service.m_accountsRepository outcome.selected with
  | none =>
      rw [active] at offered
      contradiction
  | some account =>
      rw [active] at offered
      dsimp only at offered ⊢
      cases loaded :
          service.m_vault.loadSecret (refreshTokenName account.userId) with
      | none =>
          rw [loaded] at offered
          contradiction
      | some refreshToken =>
          rw [loaded] at offered
          dsimp only [AuthApi.refresh] at offered ⊢
          generalize AuthApi.parseTypedResponse json outcome.response
            parseRefreshResponse = result at offered ⊢
          obtain ⟨ok, statusCode, error, data⟩ := result
          cases ok with
          | false => contradiction
          | true =>
              cases data with
              | none => contradiction
              | some tokens =>
                  obtain rfl := Option.some.inj offered
                  rfl

/-- The last write of a call is the token of the session that it is offered;
before it, keys are written. -/
theorem step_storesToken
    {service : AuthService} {call : AuthCall} {session : AuthContext}
    (offered :
      offeredSession json sodium sha256 service call = some session) :
    ∃ state,
      (∀ permitted kept, KeptByPermitted json sodium permitted kept →
        KeysPermitted permitted → kept service.vaultState → kept state) ∧
      (step json sodium sha256 service call).2.vaultState =
        (write json sodium state
          (.store (refreshTokenName session.userId)
            (toUtf8 session.refreshToken) call.tokenSave)).2 := by
  cases call with
  | registerUser username passwordDerived outcome =>
      refine ⟨_, fun _ _ byWrites keys holds =>
        byWrites.publishedKeys keys holds outcome.keys, ?_⟩
      rw [step, AuthService.registerUser]
      rw [offeredSession] at offered
      split at offered
      · contradiction
      rename_i arguments
      rw [if_neg arguments]
      dsimp only
      split at offered
      · rename_i published wrapped
        simp only [published, wrapped]
        rw [← sessionOf_publishedKeys] at offered
        exact vaultState_signIn offered _ outcome.persist
      · contradiction
  | login username passwordDerived outcome =>
      refine ⟨_, fun _ _ byWrites keys holds =>
        byWrites.publishedKeys keys holds outcome.keys, ?_⟩
      rw [step, AuthService.login]
      rw [offeredSession] at offered
      split at offered
      · contradiction
      rename_i arguments
      rw [if_neg arguments]
      rw [← sessionOf_publishedKeys] at offered
      exact vaultState_signIn offered _ outcome.persist
  | restoreSession outcome =>
      exact ⟨_, fun _ _ _ _ holds => holds,
        vaultState_restoreSession offered⟩
  | logout outcome => contradiction

/-- No call of the service breaks what no write breaks. -/
theorem KeptByWrites.step
    (byWrites : KeptByWrites json sodium kept)
    {service : AuthService} (holds : kept service.vaultState)
    (call : AuthCall) :
    kept (step json sodium sha256 service call).2.vaultState :=
  (byWrites.keptByPermitted fun _ => True).step (fun _ _ => trivial)
    (fun _ _ => trivial) holds fun _ _ _ => trivial

theorem reopenable_keptByWrites
    (roundTrips : json.RoundTrips)
    (correct : sodium.AeadCorrect) :
    KeptByWrites json sodium
      (Reopenable json sodium vaultPath password) :=
  fun _ call reopenable => reopenable.of_write roundTrips correct call

/-- Whatever is called, the vault can be opened again. -/
theorem run_reopenable
    (roundTrips : json.RoundTrips)
    (correct : sodium.AeadCorrect)
    (reopenable : Reopenable json sodium vaultPath password
      service.vaultState)
    (calls : List AuthCall) :
    Reopenable json sodium vaultPath password
      (Machine.run (step json sodium sha256) service calls).vaultState := by
  apply Machine.run_invariant
    (fun reached : AuthService =>
      Reopenable json sodium vaultPath password reached.vaultState)
  · intro reached call holds
    exact (reopenable_keptByWrites roundTrips correct).step holds call
  · exact reopenable

end Writes

/-- The reference service starts from the reference vault. -/
theorem service_vaultState :
    ReferenceService.service.vaultState = ReferenceVault.start := by
  unfold ReferenceService.service
  exact vaultState_constructed _ _ _ _

end AuthService
end Services
end VoxDesktop
