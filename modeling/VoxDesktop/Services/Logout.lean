import VoxDesktop.Services.ReferenceService

/-!
# What logging out leaves behind

`restoreSession` revives the session of the latest accounts row if the vault
still holds a refresh token for its user.  Every sign-in adds a row and stores
a token under its user; `logout` removes one row and one token.  The session
is over exactly when the row that becomes the latest one has no token, and
from then on no call revives it without a new sign-in.
-/

namespace VoxDesktop
namespace Services
namespace AuthService

open Library Qt Crypto Network Storage CryptoHelpers VaultService
  AccountsRepository

/-- No refresh token is left for the latest accounts row. -/
def NothingToRestore (service : AuthService) : Prop :=
  ∀ account, latestRow service.m_accountsRepository = some account →
    service.m_vault.loadSecret (refreshTokenName account.userId) = none

/-- The latest row of another account than the active one belongs to the same
user, or to one without a token. -/
def NothingBehind (service : AuthService) : Prop :=
  ∀ active next,
    latestRow service.m_accountsRepository = some active →
      active.accountId ≠ [] →
      latestRow (deleteRow service.m_accountsRepository active.accountId) =
        some next →
      next.userId ≠ active.userId →
        service.m_vault.loadSecret (refreshTokenName next.userId) = none

/-- The states before a logout in which it leaves nothing to restore: without
a session it does nothing, and with one it removes the active account. -/
structure LeavesNothing (service : AuthService) : Prop where
  signedOut : service.m_context = none → NothingToRestore service
  signedIn : service.m_context.isSome = true → NothingBehind service

/-- Until a sign-in reaches `persistSession` again, which with working vault
and accounts operations means until it succeeds, every `restoreSession`
returns false and sets no context. -/
def SessionOver
    (json : QJsonDocument) (sodium : Sodium)
    (sha256 : QByteArray → List.Vector UInt8 kSha256Bytes)
    (service : AuthService) : Prop :=
  ∀ calls : List AuthCall,
    (∀ report ∈ Machine.trace (step json sodium sha256) service calls,
      report.persisted = false) →
      ∀ outcome : RestoreOutcome,
        let reached := Machine.run (step json sodium sha256) service calls
        (restoreSession json sodium reached outcome).1.returned = false ∧
          (restoreSession json sodium reached outcome).2.m_context = none

variable {json : QJsonDocument} {sodium : Sodium}
  {sha256 : QByteArray → List.Vector UInt8 kSha256Bytes}
  {service : AuthService}

/-! ## Nothing to restore stays nothing to restore -/

theorem NothingToRestore.of_undisturbed
    {after : AuthService}
    (nothing : NothingToRestore service)
    (undisturbed : Undisturbed service after) :
    NothingToRestore after := by
  intro account latest
  rw [undisturbed.accounts] at latest
  rw [undisturbed.tokens]
  exact nothing account latest

theorem restoreSession_of_nothing
    (nothing : NothingToRestore service) (outcome : RestoreOutcome) :
    restoreSession json sodium service outcome = ({}, service) := by
  unfold restoreSession
  cases active : activeAccount service.m_accountsRepository
      outcome.selected with
  | none => rfl
  | some account =>
      have latest :
          latestRow service.m_accountsRepository = some account := by
        rw [activeAccount] at active
        split at active
        · exact active
        · contradiction
      simp only [nothing account latest]

/-- Without a context, a call that establishes no session disturbs
nothing. -/
theorem step_undisturbed
    {call : AuthCall}
    (signedOut : service.m_context = none)
    (nothing : NothingToRestore service)
    (notPersisted :
      (step json sodium sha256 service call).1.persisted = false) :
    Undisturbed service (step json sodium sha256 service call).2 := by
  cases call with
  | registerUser username passwordDerived outcome =>
      exact registerUser_undisturbed notPersisted
  | login username passwordDerived outcome =>
      exact login_undisturbed notPersisted
  | restoreSession outcome =>
      rw [step, restoreSession_of_nothing nothing]
      exact .refl service
  | logout outcome =>
      rw [step, logout, if_pos (by rw [signedOut]; rfl)]
      exact .refl service

theorem run_nothingToRestore
    (signedOut : service.m_context = none)
    (nothing : NothingToRestore service)
    (calls : List AuthCall)
    (noSession :
      ∀ report ∈ Machine.trace (step json sodium sha256) service calls,
        report.persisted = false) :
    let reached := Machine.run (step json sodium sha256) service calls
    reached.m_context = none ∧ NothingToRestore reached := by
  refine Machine.run_invariant_of_trace
    (fun state : AuthService =>
      state.m_context = none ∧ NothingToRestore state)
    (fun report : AuthReport => report.persisted = false)
    ?_ ⟨signedOut, nothing⟩ calls noSession
  rintro state call ⟨signedOut, nothing⟩ notPersisted
  have undisturbed := step_undisturbed signedOut nothing notPersisted
  exact ⟨undisturbed.context.trans signedOut,
    nothing.of_undisturbed undisturbed⟩

/-- A server can revive every session that is left. -/
theorem restoreSession_refreshed
    (sodium : Sodium)
    {account : Account} {refreshToken : QByteArray}
    (roundTrips : json.RoundTrips)
    (latest : latestRow service.m_accountsRepository = some account)
    (token :
      service.m_vault.loadSecret (refreshTokenName account.userId) =
        some refreshToken)
    (save : SaveOutcome) (now : ℤ) :
    let tokens : RefreshResponse :=
      ⟨QString.literal "access", QString.literal "refresh"⟩
    (restoreSession json sodium service
      ⟨true, AuthApi.refreshed json tokens, save, now, true⟩).1.returned =
        true := by
  intro tokens
  have active :
      activeAccount service.m_accountsRepository true = some account := latest
  have exchanged :=
    AuthApi.refresh_refreshed roundTrips service.m_network
      ⟨fromUtf8 refreshToken, account.activeDeviceId⟩ tokens
  unfold restoreSession
  simp only [active, token, exchanged]
  rfl

theorem not_sessionOver_of_restored
    {outcome : RestoreOutcome}
    (restored :
      (restoreSession json sodium service outcome).1.returned = true) :
    ¬ SessionOver json sodium sha256 service := by
  intro ended
  have stillOver := (ended [] (by simp) outcome).1
  rw [Machine.run_nil, restored] at stillOver
  contradiction

/-- Without a context, the session is over when there is nothing to
restore. -/
theorem sessionOver_iff
    (roundTrips : json.RoundTrips)
    (signedOut : service.m_context = none) :
    SessionOver json sodium sha256 service ↔ NothingToRestore service := by
  constructor
  · intro ended account latest
    cases token :
        service.m_vault.loadSecret (refreshTokenName account.userId) with
    | none => rfl
    | some refreshToken =>
        have revived :=
          restoreSession_refreshed sodium roundTrips latest token
            ⟨List.replicate kXChaCha20NonceBytes 0, true, true, true⟩ 0
        exact absurd ended (not_sessionOver_of_restored revived)
  · intro nothing calls noSession outcome
    obtain ⟨stillSignedOut, stillNothing⟩ :=
      run_nothingToRestore signedOut nothing calls noSession
    intro reached
    rw [restoreSession_of_nothing stillNothing]
    exact ⟨rfl, stillSignedOut⟩

/-! ## What logout removes -/

theorem refreshTokenName_injective : Function.Injective refreshTokenName :=
  fun _ _ equal => List.append_cancel_left equal

/-- After a removal, nothing is left under the name. -/
theorem loadSecret_removeSecret
    {vault : VaultService} {files : Files} {name : QString}
    (nameNonempty : name ≠ []) (save : SaveOutcome) :
    (vault.removeSecret json sodium files name save).2.1.loadSecret name =
      none := by
  rw [removeSecret]
  split
  · rename_i refused
    exact loadSecret_of_locked (refused.resolve_right nameNonempty)
  split
  · rename_i absent
    rw [loadSecret, AList.lookup_eq_none.mpr absent, ite_self]
  · simp only [loadSecret, AList.lookup_erase, ite_self]

section Forget

variable {outcome : LogoutOutcome}

theorem forgetActive_of_none
    (latest : latestRow service.m_accountsRepository = none) :
    service.forgetActive json sodium outcome = service := by
  have active :
      activeAccount service.m_accountsRepository outcome.selected = none := by
    rw [activeAccount, latest, ite_self]
  simp only [forgetActive, active]

/-- Working statements delete the latest row. -/
theorem accounts_forgetActive
    {account : Account}
    (latest : latestRow service.m_accountsRepository = some account)
    (selected : outcome.selected = true)
    (deleted : outcome.deleted = true) :
    (service.forgetActive json sodium outcome).m_accountsRepository =
      (deleteAccount service.m_accountsRepository account.accountId
        true).2 := by
  have active :
      activeAccount service.m_accountsRepository outcome.selected =
        some account := by
    rw [activeAccount, if_pos selected, latest]
  simp only [forgetActive, active, deleted]

/-- The token of the user of the latest row goes, the others stay. -/
theorem tokens_forgetActive
    {account : Account}
    (latest : latestRow service.m_accountsRepository = some account)
    (selected : outcome.selected = true)
    (userId : QString) :
    (service.forgetActive json sodium outcome).m_vault.loadSecret
        (refreshTokenName userId) =
      if userId = account.userId then none
      else service.m_vault.loadSecret (refreshTokenName userId) := by
  have active :
      activeAccount service.m_accountsRepository outcome.selected =
        some account := by
    rw [activeAccount, if_pos selected, latest]
  simp only [forgetActive, active]
  split
  · rename_i sameUser
    subst sameUser
    exact loadSecret_removeSecret (by simp [refreshTokenName,
      QString.literal]) outcome.save
  · rename_i differs
    have otherName :
        (WriteCall.remove (refreshTokenName account.userId)
          outcome.save).name ≠ refreshTokenName userId :=
      fun sameName => differs (refreshTokenName_injective sameName).symm
    exact loadSecret_write (service.m_vault, service.files) otherName

/-- Without the active account nothing is left exactly when there is nothing
behind it. -/
theorem nothing_forgetActive_iff
    (selected : outcome.selected = true)
    (deleted : outcome.deleted = true) :
    NothingToRestore (service.forgetActive json sodium outcome) ↔
      NothingBehind service := by
  constructor
  · intro nothing active next isLatest named isNext differs
    rw [NothingToRestore, accounts_forgetActive isLatest selected deleted,
      deleteAccount, if_neg named, if_pos rfl] at nothing
    have noToken := nothing next isNext
    rwa [tokens_forgetActive isLatest selected, if_neg differs] at noToken
  · intro nothingBehind
    cases isLatest : latestRow service.m_accountsRepository with
    | none =>
        rw [forgetActive_of_none isLatest]
        intro account latest
        rw [isLatest] at latest
        contradiction
    | some active =>
        intro next isNext
        rw [accounts_forgetActive isLatest selected deleted] at isNext
        rw [tokens_forgetActive isLatest selected]
        split
        · rfl
        · rename_i differs
          by_cases named : active.accountId = []
          · -- An account without an identifier is not deleted.
            rw [deleteAccount, if_pos named, isLatest] at isNext
            obtain rfl := Option.some.inj isNext
            exact absurd rfl differs
          · rw [deleteAccount, if_neg named, if_pos rfl] at isNext
            exact nothingBehind active next isLatest named isNext differs

end Forget

/-- Logging out ends the context; with working statements it leaves nothing
to restore exactly in the states described. -/
theorem logout_nothing_iff
    (json : QJsonDocument) (sodium : Sodium) (service : AuthService)
    {outcome : LogoutOutcome}
    (selected : outcome.selected = true)
    (deleted : outcome.deleted = true) :
    let after := (logout json sodium service outcome).2
    after.m_context = none ∧
      (NothingToRestore after ↔ LeavesNothing service) := by
  intro after
  cases context : service.m_context with
  | none =>
      have unchanged : after = service := by
        simp only [after, logout, context, Option.isNone_none, if_true]
      rw [unchanged]
      refine ⟨context, fun nothing => ⟨fun _ => nothing, ?_⟩,
        fun leavesNothing => leavesNothing.signedOut context⟩
      rw [context]
      exact fun impossible => by contradiction
  | some session =>
      have entered : ¬ service.m_context.isNone = true := by
        rw [context]
        exact Bool.false_ne_true
      have left : (logout json sodium service outcome).2 = after := rfl
      rw [logout, if_neg entered] at left
      refine ⟨by rw [← left], ?_⟩
      have sameRestore :
          NothingToRestore after ↔
            NothingToRestore
              (service.forgetActive json sodium outcome) := by
        rw [← left]
        exact Iff.rfl
      have signedIn : service.m_context.isSome = true := by
        rw [context]
        rfl
      rw [sameRestore, nothing_forgetActive_iff selected deleted]
      refine ⟨fun nothingBehind => ⟨?_, fun _ => nothingBehind⟩,
        fun leavesNothing => leavesNothing.signedIn signedIn⟩
      intro signedOut
      exact absurd signedOut (by simp [context])

/-- With a session and rows of a single user, logging out leaves nothing. -/
theorem leavesNothing_of_single_user
    {userId : QString}
    (signedIn : service.m_context.isSome = true)
    (singleUser :
      ∀ row ∈ service.m_accountsRepository, row.userId = userId) :
    LeavesNothing service := by
  refine ⟨fun signedOut => absurd signedIn (by simp [signedOut]), ?_⟩
  intro _ active next isLatest _ isNext differs
  have nextWithin : next ∈ service.m_accountsRepository :=
    List.mem_of_mem_filter (latestRow_eq_some isNext).1
  have activeUser := singleUser active (latestRow_eq_some isLatest).1
  have nextUser := singleUser next nextWithin
  exact absurd (nextUser.trans activeUser.symm) differs

/-- In every run, a logout whose statements execute ends the session for good
if and only if it leaves nothing. -/
theorem logout_ends_session_iff
    (json : QJsonDocument)
    (sodium : Sodium)
    (sha256 : QByteArray → List.Vector UInt8 kSha256Bytes)
    (start : AuthService)
    (calls : List AuthCall)
    (outcome : LogoutOutcome)
    (roundTrips : json.RoundTrips)
    (selected : outcome.selected = true)
    (deleted : outcome.deleted = true) :
    let service := Machine.run (step json sodium sha256) start calls
    SessionOver json sodium sha256 (logout json sodium service outcome).2 ↔
      LeavesNothing service := by
  intro service
  obtain ⟨signedOut, leavesNothing⟩ :=
    logout_nothing_iff json sodium service selected deleted
  exact (sessionOver_iff roundTrips signedOut).trans leavesNothing

/-- One login and its logout. -/
theorem logout_ends_session_iff_single :
    let json := ReferenceJson.json
    let sodium := ReferenceSodium.sodium
    let calls : List AuthCall :=
      [.login (QString.literal "alice") (QString.literal "p")
        (ReferenceService.loginOutcome (QString.literal "u1")
          (QString.literal "r1") (QString.literal "a1") 1)]
    let service :=
      Machine.run (step json sodium ReferenceService.sha256)
        ReferenceService.service calls
    service.m_context.isSome = true ∧
      SessionOver json sodium ReferenceService.sha256
        (logout json sodium service ReferenceService.logoutOutcome).2 := by
  intro json sodium calls service
  have signedIn : service.m_context.isSome = true := by decide +kernel
  have userIds :
      ∀ userId ∈ service.m_accountsRepository.map Account.userId,
        userId = QString.literal "u1" := by decide +kernel
  have singleUser :
      ∀ row ∈ service.m_accountsRepository,
        row.userId = QString.literal "u1" := by
    intro row within
    exact userIds row.userId (List.mem_map_of_mem within)
  have leavesNothing : LeavesNothing service :=
    leavesNothing_of_single_user signedIn singleUser
  have exactCondition := logout_ends_session_iff json sodium
    ReferenceService.sha256 ReferenceService.service calls
    ReferenceService.logoutOutcome ReferenceJson.json_roundTrips rfl rfl
  exact ⟨signedIn, exactCondition.mpr leavesNothing⟩

/-- Two users log in one after the other and the second logs out; every call
succeeds, and then `restoreSession` signs the first one in. -/
theorem logout_leaves_first_user :
    let json := ReferenceJson.json
    let sodium := ReferenceSodium.sodium
    let calls : List AuthCall :=
      [.login (QString.literal "alice") (QString.literal "p")
        (ReferenceService.loginOutcome (QString.literal "u1")
          (QString.literal "r1") (QString.literal "a1") 1),
        .login (QString.literal "bob") (QString.literal "q")
          (ReferenceService.loginOutcome (QString.literal "u2")
            (QString.literal "r2") (QString.literal "a2") 2),
        .logout ReferenceService.logoutOutcome]
    let start := ReferenceService.service
    let machine := step json sodium ReferenceService.sha256
    let after := Machine.run machine start calls
    let outcome := ReferenceService.restoreOutcome
    (Machine.trace machine start calls).map AuthReport.returned =
        [true, true, true] ∧
      after.m_context.isSome = false ∧
      (restoreSession json sodium after outcome).1.returned = true ∧
      (restoreSession json sodium after outcome).2.m_context.map
        AuthContext.userId = some (QString.literal "u1") ∧
      ¬ SessionOver json sodium ReferenceService.sha256 after := by
  intro json sodium calls start machine after outcome
  have returned :
      (Machine.trace machine start calls).map AuthReport.returned =
        [true, true, true] := by decide +kernel
  have signedOut : after.m_context.isSome = false := by decide +kernel
  have revived :
      (restoreSession json sodium after outcome).1.returned = true := by
    decide +kernel
  have firstUser :
      (restoreSession json sodium after outcome).2.m_context.map
        AuthContext.userId = some (QString.literal "u1") := by
    decide +kernel
  exact ⟨returned, signedOut, revived, firstUser,
    not_sessionOver_of_restored revived⟩

end AuthService
end Services
end VoxDesktop
