import VoxDesktop.Application.ReferenceApplication
import VoxDesktop.Crypto.VaultContents
import VoxDesktop.Services.SessionDurability

/-!
# Refresh tokens over several processes

Processes over one data directory, each initialized with the base URL of some
server.  The vault has refresh tokens under the users they were issued to, and
nothing there or in the accounts table says by which server.  Every token that
a restore presents was issued to the user of the active account by some
server.  It was issued by the server it is sent to when no other server has
offered this user a session since a token of the server was last saved.
-/

namespace VoxDesktop
namespace Application

open Library Qt Crypto Network Storage Services AuthService VaultService
  ServiceLocator

/-! ## Histories -/

inductive HistoryEvent
  /-- A new process is initialized. -/
  | initialized (serverBaseUrl vaultPassword : QString)
      (outcome : InitializeOutcome)
  | call (call : AuthCall)

/-- The passwords that processes unlock the vault with. -/
def vaultPasswords (history : List HistoryEvent) : List QString :=
  history.filterMap fun
    | .initialized _ vaultPassword _ => some vaultPassword
    | .call _ => none

section History

variable (json : QJsonDocument) (sodium : Sodium)
  (sha256 : QByteArray → List.Vector UInt8 kSha256Bytes)
  (appDataPath : QString)

def historyStep (locator : ServiceLocator) :
    HistoryEvent → AuthReport × ServiceLocator
  | .initialized serverBaseUrl vaultPassword outcome =>
      ({}, (initializeServices json sodium appDataPath serverBaseUrl
        vaultPassword locator.data outcome).2)
  | .call call => locator.callAuth json sodium sha256 call

/-- The session that a server offers in reply to a call, with the base URL of
the server. -/
def offer (locator : ServiceLocator) :
    HistoryEvent → Option (QString × AuthContext)
  | .initialized _ _ _ => none
  | .call call =>
      locator.m_authService.bind fun service =>
        (offeredSession json sodium sha256 service call).map fun session =>
          (service.m_network.m_baseUrl, session)

/-- The services after a history that starts from a data directory. -/
def servicesAfter (start : AppData) (history : List HistoryEvent) :
    ServiceLocator :=
  Machine.run (historyStep json sodium sha256 appDataPath) ⟨start, none⟩
    history

/-- The sessions that servers have offered over a history. -/
def offers (start : AppData) (history : List HistoryEvent) :
    List (QString × AuthContext) :=
  Machine.observed (offer json sodium sha256)
    (historyStep json sodium sha256 appDataPath) ⟨start, none⟩ history

/-- The last event is a call that the server at a base URL offers a session of
the user, and the token of the session is saved. -/
def EndsSaved
    (start : AppData) (history : List HistoryEvent) (url userId : QString) :
    Prop :=
  ∃ earlier call session,
    history = earlier ++ [.call call] ∧
      offer json sodium sha256
          (servicesAfter json sodium sha256 appDataPath start earlier)
          (.call call) =
        some (url, session) ∧
      session.userId = userId ∧ session.refreshToken ≠ [] ∧
      call.tokenSave.works = true

/-- No other server has offered the user a session since a token of the server
was last saved, or at all. -/
def SettledAt
    (start : AppData) (history : List HistoryEvent) (url userId : QString) :
    Prop :=
  ∃ settled since,
    history = settled ++ since ∧
      (settled = [] ∨
        EndsSaved json sodium sha256 appDataPath start settled url userId) ∧
      ∀ source ∈
        Machine.observed (offer json sodium sha256)
          (historyStep json sodium sha256 appDataPath)
          (servicesAfter json sodium sha256 appDataPath start settled) since,
        source.2.userId = userId → source.1 = url

/-- A restore sends a refresh request with this token to this base URL. -/
def SendsRefresh
    (locator : ServiceLocator) (outcome : RestoreOutcome)
    (url token : QString) : Prop :=
  let report :=
    (historyStep json sodium sha256 appDataPath locator
      (.call (.restoreSession outcome))).1
  (∃ request, report.posted = some request ∧
      request.url = url ++ ApiPaths.kRefresh) ∧
    presentedToken report = some token

end History

/-- The server has issued a token that is stored as this text. -/
def Issued
    (offered : List (QString × AuthContext)) (url token : QString) : Prop :=
  ∃ session, (url, session) ∈ offered ∧
    fromUtf8 (toUtf8 session.refreshToken) = token

/-- A token under the name of a user was issued to this user. -/
def TokenFrom
    (offered : List (QString × AuthContext))
    (name : QString) (value : QByteArray) : Prop :=
  ∀ userId, name = refreshTokenName userId →
    ∃ source ∈ offered, source.2.userId = userId ∧
      toUtf8 source.2.refreshToken = value

/-- Every refresh request goes to a server that has issued its token. -/
def TokensStay
    (json : QJsonDocument) (sodium : Sodium)
    (sha256 : QByteArray → List.Vector UInt8 kSha256Bytes)
    (appDataPath : QString) (start : AppData) (history : List HistoryEvent) :
    Prop :=
  ∀ earlier outcome later,
    history = earlier ++ .call (.restoreSession outcome) :: later →
      ∀ url token,
        SendsRefresh json sodium sha256 appDataPath
            (servicesAfter json sodium sha256 appDataPath start earlier)
            outcome url token →
          Issued (offers json sodium sha256 appDataPath start earlier) url
            token

/-- What an active service or else the vault file holds. -/
def LocatorHolds
    (json : QJsonDocument) (sodium : Sodium) (appDataPath : QString)
    (passwords : List QString) (permitted : QString → QByteArray → Prop)
    (locator : ServiceLocator) : Prop :=
  match locator.m_authService with
  | none =>
      FileHoldsOnly json sodium (vaultPath appDataPath) passwords permitted
        locator.m_data.files
  | some service =>
      HoldsOnly json sodium (vaultPath appDataPath) passwords permitted
        service.vaultState

/-! ## Where stored tokens come from -/

section Provenance

variable {json : QJsonDocument} {sodium : Sodium}
  {sha256 : QByteArray → List.Vector UInt8 kSha256Bytes}
  {appDataPath : QString} {passwords : List QString}
  {permitted : QString → QByteArray → Prop} {locator : ServiceLocator}
  {offered : List (QString × AuthContext)}

theorem TokenFrom.mono
    {name : QString} {value : QByteArray}
    (source : TokenFrom offered name value)
    (more : List (QString × AuthContext)) :
    TokenFrom (offered ++ more) name value := by
  intro userId named
  obtain ⟨found, member, facts⟩ := source userId named
  exact ⟨found, List.mem_append_left more member, facts⟩

theorem tokenFrom_of_ne
    {name : QString}
    (other : ∀ userId, name ≠ refreshTokenName userId) (value : QByteArray) :
    TokenFrom offered name value :=
  fun userId named => absurd named (other userId)

theorem keysPermitted_tokenFrom :
    KeysPermitted (WriteCall.Permitted (TokenFrom offered)) := by
  intro call others
  cases call with
  | store name value outcome => exact tokenFrom_of_ne others value
  | remove name outcome => trivial

theorem tokenPermitted_of_mem
    {url : QString} {session : AuthContext}
    (member : (url, session) ∈ offered) :
    TokenPermitted (WriteCall.Permitted (TokenFrom offered)) session := by
  intro outcome userId named
  rw [refreshTokenName, refreshTokenName, List.append_cancel_left_eq] at named
  exact ⟨(url, session), member, named, rfl⟩

theorem LocatorHolds.file
    (holds : LocatorHolds json sodium appDataPath passwords permitted
      locator) :
    FileHoldsOnly json sodium (vaultPath appDataPath) passwords permitted
      locator.data.files := by
  unfold LocatorHolds at holds
  unfold ServiceLocator.data
  cases service : locator.m_authService with
  | none =>
      rw [service] at holds
      exact holds
  | some active =>
      rw [service] at holds
      exact holds.file

/-- Every process unlocked a vault that can be opened again. -/
def VaultOpen
    (json : QJsonDocument) (sodium : Sodium) (appDataPath : QString)
    (passwords : List QString) (locator : ServiceLocator) : Prop :=
  ∀ service, locator.m_authService = some service →
    ∃ password ∈ passwords,
      Reopenable json sodium (vaultPath appDataPath) password
        service.vaultState

/-- Making the search key leaves a vault that can be opened again. -/
theorem reopenable_ensureSearchKey
    (roundTrips : json.RoundTrips)
    (correct : sodium.AeadCorrect)
    {state : VaultService × Files} {vaultPath password : QString}
    (reopenable : Reopenable json sodium vaultPath password state)
    (outcome : InitializeOutcome) :
    Reopenable json sodium vaultPath password
      (ensureSearchKey json sodium state outcome) := by
  unfold ensureSearchKey
  split
  · exact reopenable
  · exact reopenable.of_write roundTrips correct _

theorem vaultOpen_initialized
    (roundTrips : json.RoundTrips)
    (correct : sodium.AeadCorrect)
    {serverBaseUrl vaultPassword : QString}
    (member : vaultPassword ∈ passwords)
    (data : AppData) (outcome : InitializeOutcome) :
    VaultOpen json sodium appDataPath passwords
      (initializeServices json sodium appDataPath serverBaseUrl vaultPassword
        data outcome).2 := by
  intro service isService
  rcases @initializeServices_cases json sodium appDataPath serverBaseUrl
      vaultPassword data outcome with
    ⟨error, left, result, _⟩ | ⟨opens, made, _, active, _, _, _, vault⟩
  · rw [result] at isService
    contradiction
  · rw [active] at isService
    obtain rfl := Option.some.inj isService
    refine ⟨vaultPassword, member, ?_⟩
    rw [vault]
    exact reopenable_ensureSearchKey roundTrips correct
      (unlockWithPassword_reopenable roundTrips correct opens).1 outcome

theorem VaultOpen.callAuth
    (roundTrips : json.RoundTrips)
    (correct : sodium.AeadCorrect)
    (vaultOpen : VaultOpen json sodium appDataPath passwords locator)
    (call : AuthCall) :
    VaultOpen json sodium appDataPath passwords
      (locator.callAuth json sodium sha256 call).2 := by
  intro service isService
  rw [ServiceLocator.callAuth] at isService
  cases active : locator.m_authService with
  | none =>
      simp [active] at isService
  | some before =>
      rw [active] at isService
      obtain rfl := Option.some.inj isService
      obtain ⟨password, member, reopenable⟩ := vaultOpen before active
      exact ⟨password, member,
        (reopenable_keptByWrites roundTrips correct).step reopenable call⟩

/-- Making the search key writes no token. -/
theorem holdsOnly_ensureSearchKey
    (roundTrips : json.RoundTrips)
    {state : VaultService × Files} {vaultPath : QString}
    (holds : HoldsOnly json sodium vaultPath passwords (TokenFrom offered)
      state)
    (outcome : InitializeOutcome) :
    HoldsOnly json sodium vaultPath passwords (TokenFrom offered)
      (ensureSearchKey json sodium state outcome) := by
  unfold ensureSearchKey
  split
  · exact holds
  · refine holds.of_write roundTrips (keysPermitted_tokenFrom _ ?_)
    intro userId named
    exact @refreshTokenName_notMem [kSearchIndexKey] (by decide) userId
      (List.mem_singleton.mpr named.symm)

theorem locatorHolds_initialized
    (roundTrips : json.RoundTrips)
    (correct : sodium.AeadCorrect)
    (committing : Committing sodium passwords)
    (holds : LocatorHolds json sodium appDataPath passwords
      (TokenFrom offered) locator)
    (serverBaseUrl : QString)
    {vaultPassword : QString} (member : vaultPassword ∈ passwords)
    (outcome : InitializeOutcome) :
    LocatorHolds json sodium appDataPath passwords (TokenFrom offered)
      (initializeServices json sodium appDataPath serverBaseUrl vaultPassword
        locator.data outcome).2 := by
  obtain ⟨fileKept, unlockedHolds⟩ :=
    holds.file.of_unlock roundTrips correct committing member outcome.unlock
  rcases @initializeServices_cases json sodium appDataPath serverBaseUrl
      vaultPassword locator.data outcome with
    ⟨error, left, result, rfl | rfl⟩ |
      ⟨unlocked, service, _, active, _, _, _, vault⟩
  · rw [result]
    exact holds.file
  · rw [result]
    exact fileKept
  · unfold LocatorHolds
    rw [active]
    dsimp only
    rw [vault]
    exact holdsOnly_ensureSearchKey roundTrips (unlockedHolds unlocked)
      outcome

/-- An event leaves tokens that were issued to their users. -/
theorem locatorHolds_historyStep
    (roundTrips : json.RoundTrips)
    (correct : sodium.AeadCorrect)
    (committing : Committing sodium passwords)
    (holds : LocatorHolds json sodium appDataPath passwords
      (TokenFrom offered) locator)
    {event : HistoryEvent}
    (known : ∀ password ∈ vaultPasswords [event], password ∈ passwords) :
    LocatorHolds json sodium appDataPath passwords
      (TokenFrom
        (offered ++ (offer json sodium sha256 locator event).toList))
      (historyStep json sodium sha256 appDataPath locator event).2 := by
  cases event with
  | initialized serverBaseUrl vaultPassword outcome =>
      change LocatorHolds json sodium appDataPath passwords
        (TokenFrom (offered ++ [])) _
      rw [List.append_nil]
      exact locatorHolds_initialized roundTrips correct committing holds
        serverBaseUrl (known vaultPassword (by simp [vaultPasswords])) outcome
  | call call =>
      unfold offer historyStep callAuth
      unfold LocatorHolds at holds ⊢
      cases active : locator.m_authService with
      | none =>
          rw [active] at holds
          simpa only [active, Option.bind_none, Option.toList_none,
            List.append_nil] using holds
      | some service =>
          rw [active] at holds
          simp only [Option.bind_some]
          generalize sources : offered ++ _ = more
          have weaker : ∀ name value, TokenFrom offered name value →
              TokenFrom more name value :=
            fun name value source => sources ▸ source.mono _
          have byWrites : KeptByPermitted json sodium
              (WriteCall.Permitted (TokenFrom more))
              (HoldsOnly json sodium (vaultPath appDataPath) passwords
                (TokenFrom more)) :=
            fun state write permitted kept =>
              kept.of_write roundTrips permitted
          refine byWrites.step keysPermitted_tokenFrom
            (fun _ _ => trivial) (holds.mono weaker) ?_
          intro session offeredHere
          apply @tokenPermitted_of_mem more service.m_network.m_baseUrl
          rw [← sources, Option.mem_def.mp offeredHere]
          simp

/-- Over a history, stored tokens stay tokens that were issued to their
users. -/
theorem locatorHolds_run
    (roundTrips : json.RoundTrips)
    (correct : sodium.AeadCorrect)
    (committing : Committing sodium passwords)
    (holds : LocatorHolds json sodium appDataPath passwords
      (TokenFrom offered) locator)
    {history : List HistoryEvent}
    (known : ∀ password ∈ vaultPasswords history, password ∈ passwords) :
    LocatorHolds json sodium appDataPath passwords
      (TokenFrom
        (offered ++
          Machine.observed (offer json sodium sha256)
            (historyStep json sodium sha256 appDataPath) locator history))
      (Machine.run (historyStep json sodium sha256 appDataPath) locator
        history) := by
  induction history generalizing locator offered with
  | nil => simpa using holds
  | cons event later inductionHypothesis =>
      rw [vaultPasswords, ← List.singleton_append, List.filterMap_append]
        at known
      rw [Machine.observed_cons, ← List.append_assoc, Machine.run_cons]
      exact inductionHypothesis
        (locatorHolds_historyStep roundTrips correct committing holds
          fun password member => known password (List.mem_append_left _ member))
        fun password member => known password (List.mem_append_right _ member)

theorem vaultOpen_run
    (roundTrips : json.RoundTrips)
    (correct : sodium.AeadCorrect)
    (vaultOpen : VaultOpen json sodium appDataPath passwords locator)
    {history : List HistoryEvent}
    (known : ∀ password ∈ vaultPasswords history, password ∈ passwords) :
    VaultOpen json sodium appDataPath passwords
      (Machine.run (historyStep json sodium sha256 appDataPath) locator
        history) := by
  induction history generalizing locator with
  | nil => exact vaultOpen
  | cons event later inductionHypothesis =>
      rw [vaultPasswords, ← List.singleton_append, List.filterMap_append]
        at known
      refine inductionHypothesis ?_ fun password member =>
        known password (List.mem_append_right _ member)
      cases event with
      | initialized serverBaseUrl vaultPassword outcome =>
          exact vaultOpen_initialized roundTrips correct
            (known vaultPassword (by simp)) locator.data outcome
      | call call => exact vaultOpen.callAuth roundTrips correct call

/-- Tokens of the user are replaced by the one that a call saves. -/
theorem locatorHolds_saved
    (roundTrips : json.RoundTrips)
    (correct : sodium.AeadCorrect)
    (holds : LocatorHolds json sodium appDataPath passwords
      (TokenFrom offered) locator)
    (vaultOpen : VaultOpen json sodium appDataPath passwords locator)
    {call : AuthCall} {url : QString} {session : AuthContext}
    (isOffered :
      offer json sodium sha256 locator (.call call) = some (url, session))
    (notEmpty : session.refreshToken ≠ [])
    (works : call.tokenSave.works = true) :
    LocatorHolds json sodium appDataPath passwords
      (TokenFrom
        ((offered.filter fun source => source.2.userId ≠ session.userId) ++
          [(url, session)]))
      (historyStep json sodium sha256 appDataPath locator
        (.call call)).2 := by
  rw [offer, Option.bind_eq_some_iff] at isOffered
  obtain ⟨service, active, isOffered⟩ := isOffered
  obtain ⟨installed, offeredHere, same⟩ := Option.map_eq_some_iff.mp isOffered
  obtain ⟨rfl, rfl⟩ := Prod.mk.inj same
  obtain ⟨password, _, reopenable⟩ := vaultOpen service active
  unfold LocatorHolds at holds
  rw [active] at holds
  unfold LocatorHolds historyStep callAuth
  rw [active]
  dsimp only
  obtain ⟨state, kept, written⟩ := step_storesToken offeredHere
  have reopenableThere : Reopenable json sodium (vaultPath appDataPath)
      password state :=
    kept (fun _ => True) _
      ((reopenable_keptByWrites roundTrips correct).keptByPermitted _)
      (fun _ _ => trivial) reopenable
  have holdsThere : HoldsOnly json sodium (vaultPath appDataPath) passwords
      (TokenFrom offered) state :=
    kept (WriteCall.Permitted (TokenFrom offered)) _
      (fun _ _ permitted holds => holds.of_write roundTrips permitted)
      keysPermitted_tokenFrom holds
  have tokenNonempty : toUtf8 installed.refreshToken ≠ [] :=
    toUtf8_ne_nil notEmpty
  have saved := (store_refines roundTrips correct reopenableThere
    (refreshTokenName_ne_nil installed.userId) tokenNonempty
    call.tokenSave).1.trans works
  rw [written]
  refine holdsThere.of_saved_store roundTrips saved ?_ ?_
  · intro userId named
    rw [refreshTokenName, refreshTokenName, List.append_cancel_left_eq]
      at named
    exact ⟨(service.m_network.m_baseUrl, installed), by simp, named, rfl⟩
  · intro name value other permitted userId named
    obtain ⟨source, member, ofUser, sameToken⟩ := permitted userId named
    have apart : source.2.userId ≠ installed.userId := by
      intro same
      rw [← same, ofUser] at other
      exact other named
    exact ⟨source, List.mem_append_left _
      (List.mem_filter.mpr ⟨member, decide_eq_true apart⟩), ofUser, sameToken⟩

/-- When a history starts without a vault, tokens are of sessions that were
offered; of the user whose token is saved at its end, or of everyone at its
start, they are of sessions that the server offered. -/
theorem exists_tokenFrom_settled
    (roundTrips : json.RoundTrips)
    (correct : sodium.AeadCorrect)
    (committing : Committing sodium passwords)
    {start : AppData}
    (noVault : start.files (vaultPath appDataPath) = none)
    {settled : List HistoryEvent}
    (known : ∀ password ∈ vaultPasswords settled, password ∈ passwords)
    {url userId : QString}
    (ends : settled = [] ∨
      EndsSaved json sodium sha256 appDataPath start settled url userId) :
    ∃ sources,
      LocatorHolds json sodium appDataPath passwords (TokenFrom sources)
        (servicesAfter json sodium sha256 appDataPath start settled) ∧
      sources ⊆ offers json sodium sha256 appDataPath start settled ∧
      ∀ source ∈ sources, source.2.userId = userId → source.1 = url := by
  have atStart : LocatorHolds json sodium appDataPath passwords
      (TokenFrom []) ⟨start, none⟩ := by
    intro content onDisk
    exact absurd (noVault.symm.trans onDisk) (by simp)
  rcases ends with rfl | ⟨earlier, call, session, rfl, isOffered, rfl,
    notEmpty, works⟩
  · exact ⟨[], atStart, List.nil_subset _, by simp⟩
  · have knownEarlier : ∀ password ∈ vaultPasswords earlier,
        password ∈ passwords := by
      intro password member
      apply known
      rw [vaultPasswords, List.filterMap_append]
      exact List.mem_append_left _ member
    have before := @locatorHolds_run json sodium sha256 appDataPath passwords
      _ _ roundTrips correct committing atStart earlier knownEarlier
    have opens := @vaultOpen_run json sodium sha256 appDataPath passwords
      ⟨start, none⟩ roundTrips correct (fun _ absent => nomatch absent)
      earlier knownEarlier
    refine ⟨
      ((offers json sodium sha256 appDataPath start earlier).filter
        fun source => source.2.userId ≠ session.userId) ++ [(url, session)],
      ?_, ?_, ?_⟩
    · rw [servicesAfter, Machine.run_append, Machine.run_cons,
        Machine.run_nil]
      exact locatorHolds_saved roundTrips correct before opens isOffered
        notEmpty works
    · have everything :
          offers json sodium sha256 appDataPath start
              (earlier ++ [.call call]) =
            offers json sodium sha256 appDataPath start earlier ++
              [(url, session)] := by
        rw [servicesAfter] at isOffered
        rw [offers, Machine.observed_concat, isOffered]
        rfl
      rw [everything]
      exact List.append_subset.mpr
        ⟨fun source member =>
          List.mem_append_left _ (List.mem_of_mem_filter member),
        List.subset_append_right _ _⟩
    · intro source member ofUser
      rcases List.mem_append.mp member with other | here
      · exact absurd ofUser (of_decide_eq_true (List.mem_filter.mp other).2)
      · rw [List.mem_singleton.mp here]

/-- What the vault has for a user at a settled point came from the server. -/
theorem SettledAt.issued
    (roundTrips : json.RoundTrips)
    (correct : sodium.AeadCorrect)
    (committing : Committing sodium passwords)
    {start : AppData}
    (noVault : start.files (vaultPath appDataPath) = none)
    {history : List HistoryEvent}
    (known : ∀ password ∈ vaultPasswords history, password ∈ passwords)
    {url userId : QString}
    (settledAt :
      SettledAt json sodium sha256 appDataPath start history url userId)
    {service : AuthService}
    (active :
      (servicesAfter json sodium sha256 appDataPath start
        history).m_authService = some service)
    {stored : QByteArray}
    (loaded :
      service.m_vault.loadSecret (refreshTokenName userId) = some stored) :
    Issued (offers json sodium sha256 appDataPath start history) url
      (fromUtf8 stored) := by
  obtain ⟨settled, since, rfl, ends, only⟩ := settledAt
  rw [vaultPasswords, List.filterMap_append] at known
  obtain ⟨sources, holds, offered, ofServer⟩ :=
    exists_tokenFrom_settled roundTrips correct committing noVault
      (fun password member => known password (List.mem_append_left _ member))
      ends
  have holdsNow := @locatorHolds_run json sodium sha256 appDataPath passwords
    _ _ roundTrips correct committing holds since
    fun password member => known password (List.mem_append_right _ member)
  rw [servicesAfter, Machine.run_append] at active
  unfold LocatorHolds at holdsNow
  rw [← servicesAfter] at active
  rw [active] at holdsNow
  obtain ⟨⟨origin, session⟩, member, ofUser, sameToken⟩ :=
    holdsNow.of_loadSecret loaded userId rfl
  have fromServer : origin = url := by
    rcases List.mem_append.mp member with old | new
    · exact ofServer _ old ofUser
    · exact only _ new ofUser
  subst fromServer
  refine ⟨session, ?_, congrArg fromUtf8 sameToken⟩
  rw [offers, Machine.observed_append]
  rcases List.mem_append.mp member with old | new
  · exact List.mem_append_left _ (offered old)
  · exact List.mem_append_right _ new

/-- A restore makes a request with the token that the vault has for the user
of the active account, if there is one. -/
theorem restoreSession_presents
    (service : AuthService) (outcome : RestoreOutcome) (token : QString) :
    let report := (restoreSession json sodium service outcome).1
    (∃ request, report.posted = some request) ∧
        presentedToken report = some token ↔
      ∃ account stored,
        AccountsRepository.activeAccount service.m_accountsRepository
            outcome.selected = some account ∧
          service.m_vault.loadSecret (refreshTokenName account.userId) =
            some stored ∧
          fromUtf8 stored = token := by
  intro report
  unfold report restoreSession
  cases AccountsRepository.activeAccount service.m_accountsRepository
      outcome.selected with
  | none => simp
  | some account =>
      dsimp only
      cases loaded :
          service.m_vault.loadSecret (refreshTokenName account.userId) with
      | none => simp [loaded]
      | some stored =>
          dsimp only
          split <;> simp [presentedToken, loaded]

/-- A restore sends the token that the vault has for the user of the active
account to the base URL of the process. -/
theorem sendsRefresh_iff
    (locator : ServiceLocator) (outcome : RestoreOutcome)
    (url token : QString) :
    SendsRefresh json sodium sha256 appDataPath locator outcome url token ↔
      ∃ service, locator.m_authService = some service ∧
        service.m_network.m_baseUrl = url ∧
          ∃ account stored,
            AccountsRepository.activeAccount service.m_accountsRepository
                outcome.selected = some account ∧
              service.m_vault.loadSecret (refreshTokenName account.userId) =
                some stored ∧
              fromUtf8 stored = token := by
  unfold SendsRefresh historyStep callAuth
  cases locator.m_authService with
  | none => simp
  | some service =>
      obtain ⟨_, goes⟩ :=
        @step_goesTo json sodium sha256 service (.restoreSession outcome)
      dsimp only [AuthService.step, AuthCall.path] at goes ⊢
      constructor
      · rintro ⟨⟨request, posted, sent⟩, presented⟩
        have same := (goes request posted).symm.trans sent
        rw [List.append_cancel_right_eq] at same
        exact ⟨service, rfl, same,
          (restoreSession_presents service outcome token).mp
            ⟨⟨request, posted⟩, presented⟩⟩
      · rintro ⟨active, equal, rfl, stored⟩
        obtain rfl := Option.some.inj equal
        obtain ⟨⟨request, posted⟩, presented⟩ :=
          (restoreSession_presents service outcome token).mpr stored
        exact ⟨⟨request, posted, goes request posted⟩, presented⟩

end Provenance

/-! ## Which tokens are sent where -/

/-- Over every history that starts without a vault, refresh tokens are only
sent to servers that have issued them, if at every restore that finds a token
for the user of the active account no other server has offered this user a
session since a token of the server of the process was last saved. -/
theorem refresh_tokens_stay_of_settled
    (json : QJsonDocument)
    (sodium : Sodium)
    (sha256 : QByteArray → List.Vector UInt8 kSha256Bytes)
    (appDataPath : QString)
    (start : AppData)
    (history : List HistoryEvent)
    (roundTrips : json.RoundTrips)
    (correct : sodium.AeadCorrect)
    (committing : Committing sodium (vaultPasswords history))
    (noVault : start.files (vaultPath appDataPath) = none)
    (settled : ∀ earlier outcome later,
      history = earlier ++ .call (.restoreSession outcome) :: later →
        ∀ service account,
          (servicesAfter json sodium sha256 appDataPath start
              earlier).m_authService = some service →
            AccountsRepository.activeAccount service.m_accountsRepository
                outcome.selected = some account →
            (service.m_vault.loadSecret
                (refreshTokenName account.userId)).isSome = true →
              SettledAt json sodium sha256 appDataPath start earlier
                service.m_network.m_baseUrl account.userId) :
    TokensStay json sodium sha256 appDataPath start history := by
  rintro earlier outcome later rfl url token sends
  obtain ⟨service, active, rfl, account, stored, latest, loaded, rfl⟩ :=
    (sendsRefresh_iff _ _ _ _).mp sends
  have knownEarlier : ∀ password ∈ vaultPasswords earlier,
      password ∈ vaultPasswords
        (earlier ++ .call (.restoreSession outcome) :: later) := by
    intro password member
    rw [vaultPasswords, List.filterMap_append]
    exact List.mem_append_left _ member
  have settledHere := settled earlier outcome later rfl service account
    active latest (Option.isSome_iff_exists.mpr ⟨stored, loaded⟩)
  exact settledHere.issued roundTrips correct committing noVault knownEarlier
    active loaded

/-! ## Two servers -/

section Examples

open ReferenceApplication

def initialized (serverBaseUrl : QString) : HistoryEvent :=
  .initialized serverBaseUrl ReferenceVault.password initializing

/-- A process signs in at the first server; the next process is initialized
with the second one. -/
def movedOn : List HistoryEvent :=
  [initialized firstServer, .call firstLogin, initialized secondServer]

/-- The user signs in at the second server, with the token `r2`. -/
def secondLogin : AuthCall :=
  .login (QString.literal "alice") (QString.literal "p")
    (ReferenceService.loginOutcome (QString.literal "u1")
      (QString.literal "r2") (QString.literal "a2") 2)

/-- The only restore after the second login. -/
theorem split_at_restore
    {earlier later : List HistoryEvent} {outcome : RestoreOutcome}
    (split : movedOn ++ [.call secondLogin, .call restoreSaved] =
      earlier ++ .call (.restoreSession outcome) :: later) :
    earlier = movedOn ++ [.call secondLogin] := by
  unfold movedOn initialized firstLogin secondLogin restoreSaved at *
  rcases earlier with
    _ | ⟨first, _ | ⟨second, _ | ⟨third, _ | ⟨fourth, _ | ⟨fifth, _⟩⟩⟩⟩⟩
  · simp at split
  · simp at split
  · simp at split
  · simp at split
  · simp only [List.cons_append, List.nil_append, List.cons.injEq] at split
    obtain ⟨rfl, rfl, rfl, rfl, _⟩ := split
    rfl
  · simp at split

/-- The token of the second server has taken the place of the other one, and
goes back to the second server. -/
theorem refresh_tokens_stay_after_second_login :
    TokensStay ReferenceJson.json ReferenceSodium.sodium
      ReferenceService.sha256 [] emptyData
      (movedOn ++ [.call secondLogin, .call restoreSaved]) := by
  have offered :
      (offer ReferenceJson.json ReferenceSodium.sodium ReferenceService.sha256
        (servicesAfter ReferenceJson.json ReferenceSodium.sodium
          ReferenceService.sha256 [] emptyData movedOn)
        (.call secondLogin)).map
          (fun source =>
            (source.1, source.2.userId, source.2.refreshToken)) =
        some (secondServer, QString.literal "u1", QString.literal "r2") := by
    decide +kernel
  obtain ⟨⟨url, session⟩, isOffered, facts⟩ :=
    Option.map_eq_some_iff.mp offered
  obtain ⟨rfl, facts⟩ := Prod.mk.inj facts
  obtain ⟨ofUser, token⟩ := Prod.mk.inj facts
  have home :
      (servicesAfter ReferenceJson.json ReferenceSodium.sodium
        ReferenceService.sha256 [] emptyData
        (movedOn ++ [.call secondLogin])).baseUrl = some secondServer := by
    decide +kernel
  have onlyUser :
      ((servicesAfter ReferenceJson.json ReferenceSodium.sodium
        ReferenceService.sha256 [] emptyData
        (movedOn ++ [.call secondLogin])).data.accounts.all fun account =>
          account.userId = QString.literal "u1") = true := by
    decide +kernel
  refine refresh_tokens_stay_of_settled ReferenceJson.json
    ReferenceSodium.sodium ReferenceService.sha256 [] emptyData
    (movedOn ++ [.call secondLogin, .call restoreSaved])
    ReferenceJson.json_roundTrips ReferenceSodium.sodium_aeadCorrect
    (@committing_of_forall_eq _ _ ReferenceVault.password
      fun other member => ?_) rfl ?_
  · rw [show vaultPasswords
        (movedOn ++ [.call secondLogin, .call restoreSaved]) =
      [ReferenceVault.password, ReferenceVault.password] from rfl] at member
    simpa using member
  · intro earlier outcome later split service account active latest _
    obtain rfl := split_at_restore split
    rw [baseUrl, active, Option.map_some, Option.some.injEq] at home
    rw [data, active] at onlyUser
    have sameUser : account.userId = QString.literal "u1" :=
      of_decide_eq_true
        (List.all_eq_true.mp onlyUser account
          (AccountsRepository.activeAccount_mem latest))
    rw [home, sameUser]
    exact ⟨movedOn ++ [.call secondLogin], [], rfl,
      Or.inr ⟨movedOn, secondLogin, session, rfl, isOffered, ofUser,
        by rw [token]; decide, rfl⟩, by simp⟩

/-- The token of the first server is sent to the second one. -/
theorem refresh_token_sent_to_second_server :
    ¬TokensStay ReferenceJson.json ReferenceSodium.sodium
      ReferenceService.sha256 [] emptyData
      (movedOn ++ [.call restoreSaved]) := by
  intro stay
  have onlyServer :
      (offers ReferenceJson.json ReferenceSodium.sodium
        ReferenceService.sha256 [] emptyData
        movedOn).map Prod.fst = [firstServer] := by
    decide +kernel
  have sent :
      let report :=
        (historyStep ReferenceJson.json ReferenceSodium.sodium
          ReferenceService.sha256 []
          (servicesAfter ReferenceJson.json ReferenceSodium.sodium
            ReferenceService.sha256 [] emptyData movedOn)
          (.call (.restoreSession ReferenceService.restoreOutcome))).1
      report.posted.map HttpRequest.url =
          some (secondServer ++ ApiPaths.kRefresh) ∧
        presentedToken report = some (QString.literal "r1") := by
    decide +kernel
  have sends : SendsRefresh ReferenceJson.json ReferenceSodium.sodium
      ReferenceService.sha256 []
      (servicesAfter ReferenceJson.json ReferenceSodium.sodium
        ReferenceService.sha256 [] emptyData movedOn)
      ReferenceService.restoreOutcome secondServer (QString.literal "r1") :=
    ⟨Option.map_eq_some_iff.mp sent.1, sent.2⟩
  obtain ⟨session, member, _⟩ :=
    stay movedOn _ [] rfl _ _ sends
  have known := @List.mem_map_of_mem _ _ _ _ Prod.fst member
  rw [onlyServer, List.mem_singleton] at known
  have distinct : secondServer ≠ firstServer := by decide
  exact distinct known

end Examples

end Application
end VoxDesktop
