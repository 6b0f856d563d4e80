import VoxDesktop.Crypto.ReferenceVault
import VoxDesktop.Services.Sessions
import VoxDesktop.Services.VaultWrites

/-!
# Sessions across a restart

A session survives a restart when the vault file has its refresh token and the
accounts table has a row of its user.  The sign-ins check both writes before
they return true.  `restoreSession` does not look at the result of
`storeSecret`: when that save fails, it returns true with the rotated token in
memory, and a restart presents the token that the server has replaced.

A restart restores the account with the latest login by the clock, so the
token of the session is presented if no other user's row is later.
-/

namespace VoxDesktop
namespace Services
namespace AuthService

open Library Qt Crypto Network Storage CryptoHelpers VaultService
open AccountsRepository (activeAccount upsertRow LoggedInLast)

/-- What a restart needs to take a session up again. -/
structure SurvivesRestart
    (json : QJsonDocument) (sodium : Sodium)
    (session : AuthContext) (service : AuthService) : Prop where
  onDisk :
    diskView json sodium service.vaultState
        (refreshTokenName session.userId) =
      some (toUtf8 session.refreshToken)
  listed : ∃ row ∈ service.m_accountsRepository, row.userId = session.userId

/-- A restore that installs a session has the rotated token saved, or finds
it on the disk. -/
def TokenSaved
    (json : QJsonDocument) (sodium : Sodium)
    (service : AuthService) (session : AuthContext) : AuthCall → Prop
  | .restoreSession outcome =>
      (session.refreshToken ≠ [] ∧ outcome.save.works = true) ∨
        diskView json sodium service.vaultState
            (refreshTokenName session.userId) =
          some (toUtf8 session.refreshToken)
  | _ => True

/-- The row that a call writes for its session makes an account of this user
the active one, whatever other rows there are. -/
def StaysActive
    (service : AuthService) (session : AuthContext) : AuthCall → Prop
  | .registerUser _ _ outcome =>
      LoggedInLast service.m_accountsRepository session.userId
        outcome.persist.accountId outcome.persist.now
  | .login _ _ outcome =>
      LoggedInLast service.m_accountsRepository session.userId
        outcome.persist.accountId outcome.persist.now
  | .restoreSession outcome =>
      ∀ account,
        activeAccount service.m_accountsRepository outcome.selected =
            some account →
          LoggedInLast service.m_accountsRepository session.userId
            account.accountId outcome.now
  | .logout _ => True

/-- The service of a new process: the vault opened again from its file, and
the accounts table as it was left. -/
def restarted
    (json : QJsonDocument) (sodium : Sodium) (password : QString)
    (service : AuthService) (salt : QByteArray) (save : SaveOutcome) :
    AuthService :=
  let reopened :=
    reopen json sodium password service.vaultState .restart salt save
  { constructed (service.m_network.setBearerToken []) reopened.2
      service.m_serverId service.m_deviceId with
    m_accountsRepository := service.m_accountsRepository }

/-- The refresh token that a call presents to the server. -/
def presentedToken (report : AuthReport) : Option QString :=
  match report.request with
  | some (.refresh request) => some request.refreshToken
  | _ => none

/-! ## What a call that returns true leaves -/

section Returned

variable {json : QJsonDocument} {sodium : Sodium}
  {sha256 : QByteArray → List.Vector UInt8 kSha256Bytes}
  {vaultPath password : QString} {service : AuthService}

/-- A row of a user is written, at a time and under an account identifier. -/
def WritesRow
    (before after : List Account) (userId accountId : QString) (now : ℤ) :
    Prop :=
  ∃ account : Account,
    account.userId = userId ∧ account.accountId = accountId ∧
      account.lastLogin = now ∧ after = upsertRow before account

theorem WritesRow.listed
    {before after : List Account} {userId accountId : QString} {now : ℤ}
    (written : WritesRow before after userId accountId now) :
    ∃ row ∈ after, row.userId = userId := by
  obtain ⟨account, ofUser, _, _, rfl⟩ := written
  exact ⟨account, AccountsRepository.mem_upsertRow before account, ofUser⟩

theorem WritesRow.activeAccount
    {before after : List Account} {userId accountId : QString} {now : ℤ}
    (written : WritesRow before after userId accountId now)
    (last : LoggedInLast before userId accountId now) :
    ∃ active, activeAccount after true = some active ∧
      active.userId = userId := by
  obtain ⟨account, rfl, rfl, rfl, rfl⟩ := written
  exact last.activeAccount

/-- What a call leaves for its session when both writes succeed. -/
structure LeavesSession
    (json : QJsonDocument) (sodium : Sodium) (before after : AuthService)
    (session : AuthContext) (accountId : QString) (now : ℤ) : Prop where
  installed : after.m_context = some session
  survives : SurvivesRestart json sodium session after
  writesRow :
    WritesRow before.m_accountsRepository after.m_accountsRepository
      session.userId accountId now

/-- A session whose writes succeed survives a restart. -/
theorem persistSession_survives
    (roundTrips : json.RoundTrips)
    (correct : sodium.AeadCorrect)
    (reopenable : Reopenable json sodium vaultPath password
      service.vaultState)
    {username : QString} {response : AuthSessionResponse}
    {outcome : PersistOutcome}
    (written : persistWrites json sodium service outcome
      (service.sessionOf username response) = true) :
    LeavesSession json sodium service
      (persistSession json sodium service username response outcome).2
      (service.sessionOf username response) outcome.accountId
      outcome.now := by
  obtain ⟨_, installed, _⟩ :=
    @persistSession_installs json sodium service username response outcome
  rw [persistWrites_eq, Bool.and_eq_true] at written
  obtain ⟨stored, upserted⟩ := written
  obtain ⟨_, disk⟩ :=
    store_onDisk roundTrips correct reopenable
      (refreshTokenName_ne_nil response.userId)
      (toUtf8 response.refreshToken) outcome.save
  have permitted :
      ¬ (service.m_vault.storeSecret json sodium service.files
        (refreshTokenName response.userId)
        (toUtf8 response.refreshToken) outcome.save).1 = false :=
    Bool.not_eq_false _ ▸ stored
  have writesRow :
      WritesRow service.m_accountsRepository
        (persistSession json sodium service username response
          outcome).2.m_accountsRepository
        response.userId outcome.accountId outcome.now := by
    unfold persistSession
    dsimp only
    rw [if_neg permitted, AccountsRepository.upsertAccount, if_pos upserted]
    exact ⟨_, rfl, rfl, rfl, rfl⟩
  refine ⟨installed, ⟨?_, writesRow.listed⟩, writesRow⟩
  rw [vaultState_persistSession]
  exact disk.trans (if_pos stored)

/-- A sign-in that returns true leaves a session that survives. -/
theorem signIn_survives
    (roundTrips : json.RoundTrips)
    (correct : sodium.AeadCorrect)
    (reopenable : Reopenable json sodium vaultPath password
      service.vaultState)
    {username : QString} {request : AuthRequest}
    {exchange : HttpRequest × ApiResult AuthSessionResponse}
    {outcome : PersistOutcome}
    (returned :
      (signIn json sodium service username request exchange
        outcome).1.returned = true) :
    ∃ session,
      LeavesSession json sodium service
        (signIn json sodium service username request exchange outcome).2
        session outcome.accountId outcome.now := by
  obtain ⟨posted, ok, statusCode, error, data⟩ := exchange
  cases ok with
  | false => contradiction
  | true =>
      cases data with
      | none => contradiction
      | some response =>
          obtain ⟨sameReturn, _⟩ :=
            @persistSession_installs json sodium service username response
              outcome
          exact ⟨_, persistSession_survives roundTrips correct reopenable
            (sameReturn.symm.trans returned)⟩

/-- Publishing keys first does not hurt. -/
theorem signIn_publishedKeys_survives
    (roundTrips : json.RoundTrips)
    (correct : sodium.AeadCorrect)
    (reopenable : Reopenable json sodium vaultPath password
      service.vaultState)
    {keyOutcome : KeyOutcome}
    {username : QString} {request : AuthRequest}
    {exchange : HttpRequest × ApiResult AuthSessionResponse}
    {outcome : PersistOutcome}
    (returned :
      (signIn json sodium (publishedKeys json sodium service keyOutcome).2
        username request exchange outcome).1.returned = true) :
    ∃ session,
      LeavesSession json sodium service
        (signIn json sodium (publishedKeys json sodium service keyOutcome).2
          username request exchange outcome).2
        session outcome.accountId outcome.now := by
  obtain ⟨session, installed, survives, writesRow⟩ :=
    signIn_survives roundTrips correct
      ((reopenable_keptByWrites roundTrips correct).publishedKeys reopenable
        keyOutcome) returned
  have sameAccounts :
      (publishedKeys json sodium service keyOutcome).2.m_accountsRepository =
        service.m_accountsRepository :=
    (publishedKeys_undisturbed keyOutcome).accounts
  exact ⟨session, installed, survives, sameAccounts ▸ writesRow⟩

/-- A restore that returns true has stored its token, saved or not, and
written the row of the active account. -/
theorem restoreSession_writes
    {outcome : RestoreOutcome}
    (returned :
      (restoreSession json sodium service outcome).1.returned = true) :
    let after := (restoreSession json sodium service outcome).2
    ∃ session, after.m_context = some session ∧
      after.vaultState =
        (write json sodium service.vaultState
          (.store (refreshTokenName session.userId)
            (toUtf8 session.refreshToken) outcome.save)).2 ∧
      ∃ account,
        activeAccount service.m_accountsRepository outcome.selected =
            some account ∧
          WritesRow service.m_accountsRepository after.m_accountsRepository
            session.userId account.accountId outcome.now := by
  intro after
  unfold after
  rw [restoreSession] at returned ⊢
  split at returned
  · contradiction
  rename_i account found
  split at returned
  · contradiction
  rename_i refreshToken loaded
  dsimp only at returned
  split at returned
  · rename_i tokens accepted received
    rw [AccountsRepository.upsertAccount_returns] at returned
    simp only [accepted, received]
    refine ⟨refreshedSession account tokens, rfl, rfl, account, found,
      { account with
        refreshTokenCiphertext := toUtf8 tokens.refreshToken
        lastLogin := outcome.now }, rfl, rfl, rfl, ?_⟩
    rw [AccountsRepository.upsertAccount, if_pos returned]
  · contradiction

/-- The session of a restore survives exactly when its token is saved, and
its user stays active when no later row of another user is left. -/
theorem restoreSession_survives_iff
    (roundTrips : json.RoundTrips)
    (correct : sodium.AeadCorrect)
    (reopenable : Reopenable json sodium vaultPath password
      service.vaultState)
    {outcome : RestoreOutcome}
    (returned :
      (restoreSession json sodium service outcome).1.returned = true) :
    let after := (restoreSession json sodium service outcome).2
    ∃ session, after.m_context = some session ∧
      (SurvivesRestart json sodium session after ↔
        TokenSaved json sodium service session (.restoreSession outcome)) ∧
      (StaysActive service session (.restoreSession outcome) →
        ∃ active, activeAccount after.m_accountsRepository true =
            some active ∧
          active.userId = session.userId) := by
  intro after
  obtain ⟨session, installed, written, account, found, writesRow⟩ :=
    restoreSession_writes returned
  obtain ⟨stored, disk⟩ :=
    store_onDisk roundTrips correct reopenable
      (refreshTokenName_ne_nil session.userId)
      (toUtf8 session.refreshToken) outcome.save
  rw [ne_eq, toUtf8_eq_nil_iff] at stored
  rw [← written] at disk
  refine ⟨session, installed, ?_, fun stays =>
    writesRow.activeAccount (stays account found)⟩
  rw [TokenSaved, ← stored]
  constructor
  · rintro ⟨onDisk, _⟩
    by_cases saved : (write json sodium service.vaultState
        (.store (refreshTokenName session.userId)
          (toUtf8 session.refreshToken) outcome.save)).1 = true
    · exact Or.inl saved
    · rw [if_neg saved] at disk
      exact Or.inr (disk.symm.trans onDisk)
  · rintro (saved | before)
    · rw [if_pos saved] at disk
      exact ⟨disk, writesRow.listed⟩
    · rw [before, ite_self] at disk
      exact ⟨disk, writesRow.listed⟩

/-- A call that returns true installs a session, which survives a restart
exactly when its token is saved, and whose user stays active when no later row
of another user is left. -/
theorem step_survives_iff
    (roundTrips : json.RoundTrips)
    (correct : sodium.AeadCorrect)
    (reopenable : Reopenable json sodium vaultPath password
      service.vaultState)
    {call : AuthCall}
    (notLogout : call.isLogout = false)
    (returned :
      (step json sodium sha256 service call).1.returned = true) :
    let after := (step json sodium sha256 service call).2
    ∃ session, after.m_context = some session ∧
      (SurvivesRestart json sodium session after ↔
        TokenSaved json sodium service session call) ∧
      (StaysActive service session call →
        ∃ active, activeAccount after.m_accountsRepository true =
            some active ∧
          active.userId = session.userId) := by
  intro after
  cases call with
  | registerUser username passwordDerived outcome =>
      rcases registerUser_cases json sodium sha256 service username
          passwordDerived outcome with
        stopped | stopped | ⟨_, _, _, _, _, signedIn⟩
      · rw [step, stopped] at returned
        contradiction
      · rw [step, stopped] at returned
        contradiction
      · unfold after
        rw [step, signedIn] at returned ⊢
        obtain ⟨session, installed, survives, writesRow⟩ :=
          signIn_publishedKeys_survives roundTrips correct reopenable
            returned
        exact ⟨session, installed, ⟨fun _ => trivial, fun _ => survives⟩,
          writesRow.activeAccount⟩
  | login username passwordDerived outcome =>
      rcases login_cases json sodium sha256 service username passwordDerived
          outcome with
        stopped | signedIn
      · rw [step, stopped] at returned
        contradiction
      · unfold after
        rw [step, signedIn] at returned ⊢
        obtain ⟨session, installed, survives, writesRow⟩ :=
          signIn_publishedKeys_survives roundTrips correct reopenable
            returned
        exact ⟨session, installed, ⟨fun _ => trivial, fun _ => survives⟩,
          writesRow.activeAccount⟩
  | restoreSession outcome =>
      exact restoreSession_survives_iff roundTrips correct reopenable returned
  | logout outcome => contradiction

/-- A restore presents the token that the vault has for the user of the active
account. -/
theorem presentedToken_restoreSession
    {outcome : RestoreOutcome} {account : Account}
    {refreshToken : QByteArray}
    (active : AccountsRepository.activeAccount service.m_accountsRepository
      outcome.selected = some account)
    (loaded : service.m_vault.loadSecret (refreshTokenName account.userId) =
      some refreshToken) :
    presentedToken (restoreSession json sodium service outcome).1 =
      some (fromUtf8 refreshToken) := by
  rw [restoreSession]
  simp only [active, loaded]
  split
  · rfl
  · rfl

/-- After a restart, a restore for the user of a session that survives
presents its token. -/
theorem SurvivesRestart.presented
    (reopenable : Reopenable json sodium vaultPath password
      service.vaultState)
    {session : AuthContext}
    (survives : SurvivesRestart json sodium session service)
    (salt : QByteArray) (save : SaveOutcome)
    {outcome : RestoreOutcome} {account : Account}
    (active : AccountsRepository.activeAccount service.m_accountsRepository
      outcome.selected = some account)
    (sameUser : account.userId = session.userId) :
    presentedToken
        (restoreSession json sodium
          (restarted json sodium password service salt save) outcome).1 =
      some (fromUtf8 (toUtf8 session.refreshToken)) := by
  obtain ⟨_, _, refined⟩ := reopen_refines reopenable .restart salt save
  have loaded :
      (restarted json sodium password service salt save).m_vault.loadSecret
          (refreshTokenName account.userId) =
        some (toUtf8 session.refreshToken) := by
    rw [sameUser, ← survives.onDisk]
    exact congrFun (congrArg WriteThrough.memory refined) _
  exact presentedToken_restoreSession active loaded

end Returned

/-! ## Runs -/

section Runs

variable {json : QJsonDocument} {sodium : Sodium}
  {sha256 : QByteArray → List.Vector UInt8 kSha256Bytes}
  {vaultPath password : QString} {service : AuthService}

/-- In every run from an unlocked vault, a call that returns true has
installed the session it was offered, and this session survives a restart
exactly when its token is saved.  If its user also stays active, every restore
after the restart that can read the accounts presents its token. -/
theorem session_survives_restart_iff
    (json : QJsonDocument)
    (sodium : Sodium)
    (sha256 : QByteArray → List.Vector UInt8 kSha256Bytes)
    (vaultPath password : QString)
    (files : Files)
    (opened : UnlockOutcome)
    (start : AuthService)
    (calls : List AuthCall)
    (call : AuthCall)
    (roundTrips : json.RoundTrips)
    (correct : sodium.AeadCorrect)
    (unlocked :
      (unlockWithPassword json sodium (onPath vaultPath) files password
        opened).1 = true)
    (unlockedVault :
      start.vaultState =
        (unlockWithPassword json sodium (onPath vaultPath) files password
          opened).2)
    (notLogout : call.isLogout = false)
    (returned :
      (step json sodium sha256
        (Machine.run (step json sodium sha256) start calls)
        call).1.returned = true) :
    let service := Machine.run (step json sodium sha256) start calls
    let after := (step json sodium sha256 service call).2
    ∃ session,
      offeredSession json sodium sha256 service call = some session ∧
        after.m_context = some session ∧
        (SurvivesRestart json sodium session after ↔
          TokenSaved json sodium service session call) ∧
        (TokenSaved json sodium service session call →
          StaysActive service session call →
          ∀ salt save (outcome : RestoreOutcome), outcome.selected = true →
            presentedToken
                (restoreSession json sodium
                  (restarted json sodium password after salt save)
                  outcome).1 =
              some (fromUtf8 (toUtf8 session.refreshToken))) := by
  intro service after
  have reopenableStart : Reopenable json sodium vaultPath password
      start.vaultState := by
    rw [unlockedVault]
    exact (unlockWithPassword_reopenable roundTrips correct unlocked).1
  have reopenable : Reopenable json sodium vaultPath password
      service.vaultState :=
    run_reopenable roundTrips correct reopenableStart calls
  have reopenableAfter : Reopenable json sodium vaultPath password
      after.vaultState :=
    run_reopenable roundTrips correct reopenable [call]
  obtain ⟨session, context, survives, staysActive⟩ :=
    step_survives_iff roundTrips correct reopenable notLogout returned
  have installs := @step_installs json sodium sha256 service call notLogout
  cases offered : offeredSession json sodium sha256 service call with
  | none =>
      rw [offered] at installs
      rw [installs.1] at returned
      contradiction
  | some other =>
      rw [offered] at installs
      have same : some other = some session :=
        installs.2.1.symm.trans context
      refine ⟨session, same, context, survives, ?_⟩
      intro saved stays salt save outcome selected
      obtain ⟨active, found, sameUser⟩ := staysActive stays
      rw [← selected] at found
      exact (survives.mpr saved).presented reopenableAfter salt save found
        sameUser

end Runs

/-! ## A save that fails -/

section Examples

/-- A login with the token `r1`. -/
def firstLogin : AuthCall :=
  .login (QString.literal "alice") (QString.literal "p")
    (ReferenceService.loginOutcome (QString.literal "u1")
      (QString.literal "r1") (QString.literal "a1") 1)

def restoreSaved : AuthCall := .restoreSession ReferenceService.restoreOutcome

/-- A restore during which the vault cannot be saved. -/
def restoreUnsaved : AuthCall :=
  .restoreSession
    { ReferenceService.restoreOutcome with save := ReferenceVault.failedSave }

/-- A login and a restore whose save works: the rotated token is on the
disk, and a restart presents it. -/
theorem session_survives_restart_saved :
    let after :=
      (step ReferenceJson.json ReferenceSodium.sodium ReferenceService.sha256
        (Machine.run
          (step ReferenceJson.json ReferenceSodium.sodium
            ReferenceService.sha256)
          ReferenceService.service [firstLogin])
        restoreSaved).2
    ∃ session, after.m_context = some session ∧
      SurvivesRestart ReferenceJson.json ReferenceSodium.sodium session
        after ∧
      presentedToken
          (restoreSession ReferenceJson.json ReferenceSodium.sodium
            (restarted ReferenceJson.json ReferenceSodium.sodium
              ReferenceVault.password after [] ReferenceVault.save)
            ReferenceService.restoreOutcome).1 =
        some (fromUtf8 (toUtf8 session.refreshToken)) := by
  intro after
  have returned :
      (step ReferenceJson.json ReferenceSodium.sodium ReferenceService.sha256
        (Machine.run
          (step ReferenceJson.json ReferenceSodium.sodium
            ReferenceService.sha256)
          ReferenceService.service [firstLogin])
        restoreSaved).1.returned = true := by
    decide +kernel
  have rotated :
      after.m_context.map AuthContext.refreshToken =
        some (QString.literal "refreshed") := by
    decide +kernel
  have ofUser :
      ((Machine.run
        (step ReferenceJson.json ReferenceSodium.sodium
          ReferenceService.sha256)
        ReferenceService.service [firstLogin]).m_accountsRepository.all
          fun row =>
            some row.userId = after.m_context.map AuthContext.userId) =
        true := by
    decide +kernel
  obtain ⟨session, _, context, survives, presents⟩ :=
    session_survives_restart_iff ReferenceJson.json ReferenceSodium.sodium
      ReferenceService.sha256 ReferenceVault.vaultPath
      ReferenceVault.password (fun _ => none) ReferenceVault.outcome
      ReferenceService.service [firstLogin] restoreSaved
      ReferenceJson.json_roundTrips ReferenceSodium.sodium_aeadCorrect
      ReferenceVault.unlocking_returns service_vaultState rfl returned
  have installed : after.m_context = some session := context
  rw [installed] at rotated ofUser
  have notEmpty : session.refreshToken ≠ [] := by
    intro empty
    rw [Option.map_some, empty] at rotated
    exact absurd rotated (by decide)
  refine ⟨session, context, survives.mpr (Or.inl ⟨notEmpty, rfl⟩),
    presents (Or.inl ⟨notEmpty, rfl⟩) ?_ [] ReferenceVault.save
      ReferenceService.restoreOutcome rfl⟩
  intro account _ row within other
  have same := List.all_eq_true.mp ofUser row within
  exact absurd (Option.some.inj (of_decide_eq_true same)) other

/-- A login and a restore whose save fails: the restore returns true with the
rotated token in the session, the disk has the token of the login, and after a
restart this one is presented. -/
theorem restored_token_lost_after_restart :
    let machine :=
      step ReferenceJson.json ReferenceSodium.sodium ReferenceService.sha256
    let restored :=
      machine (Machine.run machine ReferenceService.service [firstLogin])
        restoreUnsaved
    let again :=
      restoreSession ReferenceJson.json ReferenceSodium.sodium
        (restarted ReferenceJson.json ReferenceSodium.sodium
          ReferenceVault.password restored.2 [] ReferenceVault.save)
        ReferenceService.restoreOutcome
    restored.1.returned = true ∧
      restored.2.m_context.map AuthContext.refreshToken =
        some (QString.literal "refreshed") ∧
      diskView ReferenceJson.json ReferenceSodium.sodium
          restored.2.vaultState
          (refreshTokenName (QString.literal "u1")) =
        some (toUtf8 (QString.literal "r1")) ∧
      toUtf8 (QString.literal "r1") ≠
        toUtf8 (QString.literal "refreshed") ∧
      presentedToken again.1 = some (QString.literal "r1") := by
  decide +kernel

end Examples

end AuthService
end Services
end VoxDesktop
