import VoxDesktop.Integration.SessionRuns

/-!
# Sessions over restarts of a client

The server keeps every refresh token it has issued, and the client keeps the
token of its session in the vault.  So a restore finds a token that the server
still knows, and a client that is started again comes back as the same user.
-/

namespace VoxDesktop
namespace Integration

open Library Qt Crypto Network Storage Services AuthService Application
  ServiceLocator VaultService FakeVoxServer

/-! ## A restore -/

section Restores

variable {json : QJsonDocument} {sodium : Sodium}
  {sha256 : QByteArray → List.Vector UInt8 kSha256Bytes}
  {server : FakeVoxServer} {service : AuthService}

theorem handleRefresh_of_known
    {request : ServerRequest} {object : QJsonObject} {userId : QString}
    (parsed : parseJson json request.body = some object)
    (known : server.m_userByRefreshToken.lookup
      (stringField object "refresh_token") = some userId) :
    server.handleRefresh json request =
      (refreshedResponse json userId, server.afterRefresh userId) := by
  unfold handleRefresh
  rw [parsed]
  dsimp only
  rw [known]
  rfl

/-- The request that a restore posts when it finds an account and a token. -/
theorem restoreSession_posts
    {outcome : RestoreOutcome} {account : Account} {stored : QByteArray}
    (active : AccountsRepository.activeAccount service.m_accountsRepository
      outcome.selected = some account)
    (loaded : service.m_vault.loadSecret (refreshTokenName account.userId) =
      some stored) :
    (service.step json sodium sha256 (.restoreSession outcome)).1.posted =
      some (service.m_network.postJson ApiPaths.kRefresh
        (json.toJson (RefreshRequest.toJson
          ⟨fromUtf8 stored, account.activeDeviceId⟩))) := by
  rw [step, restoreSession, active]
  dsimp only
  rw [loaded]
  dsimp only
  split <;> rfl

/-- A restore whose request and answer get through is offered a session of the
active account. -/
theorem restore_offered
    (roundTrips : json.RoundTrips)
    (remembers : Remembers server service)
    {outcome : RestoreOutcome} {account : Account} {stored : QByteArray}
    (active : AccountsRepository.activeAccount service.m_accountsRepository
      outcome.selected = some account)
    (loaded : service.m_vault.loadSecret (refreshTokenName account.userId) =
      some stored)
    (moment : Moment) :
    offeredSession json sodium sha256 service
        (answeredCall json sodium sha256 server service
          (.restoreSession outcome) ⟨moment, .delivered⟩).1 =
      some (refreshedSession account
        ⟨refreshedAccess account.userId,
          refreshedRefresh account.userId⟩) := by
  have listed := AccountsRepository.activeAccount_mem active
  have known := (remembers account listed).2 stored loaded
  obtain ⟨object, parsed, presented⟩ := @refreshRequest_reads json roundTrips
    ⟨fromUtf8 stored, account.activeDeviceId⟩
  rw [← show stringField object "refresh_token" = fromUtf8 stored from
    presented] at known
  unfold answeredCall
  rw [restoreSession_posts active loaded]
  dsimp only [exchanged]
  rw [serverRequest_postJson _ rfl, handle_refresh,
    handleRefresh_of_known parsed known]
  simp only [answered, offeredSession, active, loaded,
    accepted_refreshedResponse roundTrips, Option.map_some]

/-- The client then has this session, whether or not it can be written. -/
theorem callStep_restore
    (roundTrips : json.RoundTrips)
    {client : Client} (isService : client.locator.m_authService = some service)
    (remembers : Remembers server service)
    {outcome : RestoreOutcome} {account : Account} {stored : QByteArray}
    (active : AccountsRepository.activeAccount service.m_accountsRepository
      outcome.selected = some account)
    (loaded : service.m_vault.loadSecret (refreshTokenName account.userId) =
      some stored)
    (moment : Moment) :
    let result := callStep json sodium sha256 server client
      (.restoreSession outcome) ⟨moment, .delivered⟩
    result.1.auth.returned = outcome.upserted ∧
      result.2.2.locator.context =
        some (refreshedSession account
          ⟨refreshedAccess account.userId,
            refreshedRefresh account.userId⟩) := by
  intro result
  unfold result callStep
  rw [isService]
  dsimp only
  have offered := @restore_offered json sodium sha256 server service
    roundTrips remembers outcome account stored active loaded moment
  have isRestore : ∃ response,
      (answeredCall json sodium sha256 server service
        (.restoreSession outcome) ⟨moment, .delivered⟩).1 =
          .restoreSession { outcome with response := response } := by
    unfold answeredCall
    rw [restoreSession_posts active loaded]
    exact ⟨_, rfl⟩
  obtain ⟨response, answeredAs⟩ := isRestore
  rw [answeredAs] at offered ⊢
  have installs := @step_installs json sodium sha256 service
    (.restoreSession { outcome with response := response }) rfl
  rw [offered] at installs
  rw [callAuth, isService]
  exact ⟨installs.1, installs.2.1⟩

end Restores

/-! ## A new process -/

section Processes

variable {json : QJsonDocument} {sodium : Sodium}
  {appDataPath : QString} {passwords : List QString}
  {server : FakeVoxServer} {locator : ServiceLocator}

theorem loadSecret_ensureSearchKey
    (state : VaultService × Files) (outcome : InitializeOutcome)
    (userId : QString) :
    (ensureSearchKey json sodium state outcome).1.loadSecret
        (refreshTokenName userId) =
      state.1.loadSecret (refreshTokenName userId) := by
  unfold ensureSearchKey
  split
  · rfl
  · apply VaultService.loadSecret_write
    intro same
    exact @refreshTokenName_notMem [kSearchIndexKey] (by decide) userId
      (List.mem_singleton.mpr same.symm)

/-- A new process that comes up finds the accounts of the one before and the
tokens that it has saved. -/
theorem initialized_finds
    (roundTrips : json.RoundTrips)
    (correct : sodium.AeadCorrect)
    (committing : Committing sodium passwords)
    (sound : Sound json sodium appDataPath passwords server locator)
    {service : AuthService} (active : locator.m_authService = some service)
    {serverBaseUrl vaultPassword : QString}
    (member : vaultPassword ∈ passwords) {outcome : InitializeOutcome}
    (works :
      (initializeServices json sodium appDataPath serverBaseUrl vaultPassword
        locator.data outcome).1 = none) :
    ∃ next,
      (initializeServices json sodium appDataPath serverBaseUrl vaultPassword
          locator.data outcome).2.m_authService = some next ∧
        next.m_accountsRepository = service.m_accountsRepository ∧
        ∀ userId,
          next.m_vault.loadSecret (refreshTokenName userId) =
            diskView json sodium service.vaultState
              (refreshTokenName userId) := by
  obtain ⟨password, former, reopenable⟩ := sound.vault service active
  obtain ⟨_, _, holds⟩ := sound.tokens
  have data : locator.data =
      { locator.m_data with
        files := service.files
        accounts := service.m_accountsRepository } := by
    rw [ServiceLocator.data, active]
  rcases @initializeServices_cases json sodium appDataPath serverBaseUrl
      vaultPassword locator.data outcome with
    ⟨error, left, result, _⟩ | ⟨opens, next, _, isNext, _, _, accounts, vault⟩
  · rw [result] at works
    contradiction
  refine ⟨next, isNext, accounts.trans (by rw [data]), fun userId => ?_⟩
  rw [show next.m_vault = _ from congrArg Prod.fst vault,
    loadSecret_ensureSearchKey]
  obtain ⟨content, loaded, onDisk, salted, opened⟩ := reopenable.onDisk
  have here : locator.data.files (vaultPath appDataPath) = some content := by
    rw [data]
    exact onDisk
  rcases unlockWithPassword_returned roundTrips opens with
    ⟨absent, _⟩ | ⟨found, again, onDiskAgain, openedAgain, result⟩
  · exact absurd (here.symm.trans absent) (by simp)
  obtain rfl : content = found :=
    Option.some.inj (here.symm.trans onDiskAgain)
  -- Both keys open the file to what was sealed in it.
  obtain ⟨_, _, _, sealedIn, keyed, _⟩ := holds.file content here
  have formerly := sealedIn.lookup_opened correct committing keyed former
    (by rw [salted, reopenable.key]; exact opened) (refreshTokenName userId)
  have newly := sealedIn.lookup_opened correct committing keyed member
    openedAgain (refreshTokenName userId)
  have onDiskHere :
      service.vaultState.2 service.vaultState.1.m_vaultPath =
        some content := by
    rw [reopenable.path]
    exact onDisk
  rw [result, loadSecret_of_unlocked rfl (refreshTokenName_ne_nil userId),
    diskView_of_onDisk onDiskHere opened,
    if_neg (refreshTokenName_ne_nil userId), newly, formerly]

end Processes

/-! ## The same user again -/

/-- Over every run, a restore that finds an account and its token in the vault
and gets through is never refused: the client then has a session of the user
of the account. -/
theorem restores_never_refused
    {ι : Type} [DecidableEq ι]
    (json : QJsonDocument)
    (sodium : Sodium)
    (sha256 : QByteArray → List.Vector UInt8 kSha256Bytes)
    (toLower : QString → QString)
    (appDataPath : QString)
    (starts : ι → AppData)
    (passwords : ι → List QString)
    (events : List (SystemEvent ι))
    (client : ι)
    (service : AuthService)
    (outcome : RestoreOutcome)
    (account : Account)
    (stored : QByteArray)
    (moment : Moment)
    (roundTrips : json.RoundTrips)
    (nested : json.RoundTripsNested)
    (correct : sodium.AeadCorrect)
    (committing : ∀ client, Committing sodium (passwords client))
    (noVault : ∀ client, (starts client).files (vaultPath appDataPath) = none)
    (noAccounts : ∀ client, (starts client).accounts = [])
    (device : ∀ client, IsUtf16 (starts client).deviceId)
    (allowed : ∀ event ∈ events, event.Allowed passwords)
    (isService :
      ((systemAfter json sodium sha256 toLower appDataPath starts
        events).clients client).locator.m_authService = some service)
    (active :
      AccountsRepository.activeAccount service.m_accountsRepository
        outcome.selected = some account)
    (loaded :
      service.m_vault.loadSecret (refreshTokenName account.userId) =
        some stored) :
    let system :=
      systemAfter json sodium sha256 toLower appDataPath starts events
    let result :=
      systemStep json sodium sha256 toLower appDataPath system
        (.call client (.restoreSession outcome) ⟨moment, .delivered⟩)
    result.1.auth.returned = outcome.upserted ∧
      ∃ session,
        (result.2.clients client).locator.context = some session ∧
          session.userId = account.userId ∧
          session.username = account.username ∧
          Recognised result.2.server session := by
  intro system result
  have all : AllSound json sodium appDataPath passwords system :=
    allSound_systemAfter roundTrips nested correct committing noVault
      noAccounts device allowed
  have after : AllSound json sodium appDataPath passwords result.2 :=
    all.step roundTrips nested correct committing
      (IsAsciiText.isUtf16 (by decide : IsAsciiText []))
  obtain ⟨returned, restored⟩ := @callStep_restore json sodium sha256 _
    service roundTrips _ isService ((all.clients client).remembers isService)
    outcome account stored active loaded moment
  have context : (result.2.clients client).locator.context =
      some (refreshedSession account
        ⟨refreshedAccess account.userId,
          refreshedRefresh account.userId⟩) := by
    unfold result
    rw [systemStep, ofClient_clients_self]
    exact restored
  exact ⟨returned, _, context, rfl, rfl,
    (after.clients client).context _ context⟩

section Examples

open ReferenceSystem

/-- The restore of a client at which Alice has registered. -/
theorem restore_of_alice :
    let system := ReferenceSystem.systemAfter (signingUp false alice)
    let result :=
      systemStep ReferenceNestedJson.json ReferenceSodium.sodium
        ReferenceService.sha256 id [] system (restoring false)
    result.1.auth.returned = true ∧
      ∃ session, (result.2.clients false).locator.context = some session ∧
        session.username = alice := by
  have facts :
      (((ReferenceSystem.systemAfter (signingUp false alice)).clients
          false).locator.m_authService.bind fun service =>
        (AccountsRepository.activeAccount service.m_accountsRepository
            true).bind fun account =>
          (service.m_vault.loadSecret (refreshTokenName account.userId)).map
            fun _ => account.username) = some alice := by
    decide +kernel
  obtain ⟨service, isService, facts⟩ := Option.bind_eq_some_iff.mp facts
  obtain ⟨account, active, facts⟩ := Option.bind_eq_some_iff.mp facts
  obtain ⟨stored, loaded, named⟩ := Option.map_eq_some_iff.mp facts
  obtain ⟨returned, session, context, _, sameName, _⟩ :=
    restores_never_refused
      ReferenceNestedJson.json ReferenceSodium.sodium ReferenceService.sha256
      id [] (fun _ : Bool => ReferenceApplication.emptyData)
      (fun _ => [ReferenceVault.password]) (signingUp false alice) false
      service ReferenceService.restoreOutcome account stored moment
      ReferenceNestedJson.json_roundTrips
      ReferenceNestedJson.json_roundTripsNested
      ReferenceSodium.sodium_aeadCorrect
      (fun _ => @committing_of_forall_eq _ _ ReferenceVault.password
        fun other member => List.mem_singleton.mp member)
      (fun _ => rfl) (fun _ => rfl)
      (fun _ => IsAsciiText.isUtf16 (by decide))
      (allowed_of_forall (by simp [signingUp, starting, restoring,
        registering]))
      isService active loaded
  have same : restoring false =
      .call false (.restoreSession ReferenceService.restoreOutcome)
        ⟨moment, .delivered⟩ := rfl
  rw [ReferenceSystem.systemAfter, same]
  exact ⟨returned, session, context, sameName.trans named⟩

end Examples

/-- Over every run: a client has the session of a user, the refresh token is
saved, and the active account is the one of this user.  Whatever the others
do, when a new process of the client comes up and its restore gets through,
it has a session of the same user under the same name, which the server
recognises. -/
theorem restart_resumes_session
    {ι : Type} [DecidableEq ι]
    (json : QJsonDocument)
    (sodium : Sodium)
    (sha256 : QByteArray → List.Vector UInt8 kSha256Bytes)
    (toLower : QString → QString)
    (appDataPath : QString)
    (starts : ι → AppData)
    (passwords : ι → List QString)
    (earlier between later : List (SystemEvent ι))
    (client : ι)
    (serverBaseUrl vaultPassword : QString)
    (initializing : InitializeOutcome)
    (restoring : RestoreOutcome)
    (moment : Moment)
    (service : AuthService)
    (session : AuthContext)
    (account : Account)
    (roundTrips : json.RoundTrips)
    (nested : json.RoundTripsNested)
    (correct : sodium.AeadCorrect)
    (committing : ∀ client, Committing sodium (passwords client))
    (noVault : ∀ client, (starts client).files (vaultPath appDataPath) = none)
    (noAccounts : ∀ client, (starts client).accounts = [])
    (device : ∀ client, IsUtf16 (starts client).deviceId)
    (allowed : ∀ event ∈ earlier ++ between ++
      .initialized client serverBaseUrl vaultPassword initializing :: later,
        event.Allowed passwords)
    (others : ∀ event ∈ between ++ later, event.client ≠ some client)
    (active :
      ((systemAfter json sodium sha256 toLower appDataPath starts
        earlier).clients client).locator.m_authService = some service)
    (isContext : service.m_context = some session)
    (saved :
      diskView json sodium service.vaultState
          (refreshTokenName session.userId) =
        some (toUtf8 session.refreshToken))
    (latest :
      AccountsRepository.activeAccount service.m_accountsRepository
        restoring.selected = some account)
    (sameUser : account.userId = session.userId)
    (works :
      (initializeServices json sodium appDataPath serverBaseUrl vaultPassword
        ((systemAfter json sodium sha256 toLower appDataPath starts
          earlier).clients client).locator.data initializing).1 = none) :
    let final :=
      systemAfter json sodium sha256 toLower appDataPath starts
        (earlier ++ between ++
          .initialized client serverBaseUrl vaultPassword initializing ::
            (later ++
              [.call client (.restoreSession restoring)
                ⟨moment, .delivered⟩]))
    ∃ resumed, (final.clients client).locator.context = some resumed ∧
      resumed.userId = session.userId ∧
      resumed.username = session.username ∧
      Recognised final.server resumed := by
  let start := SystemEvent.initialized client serverBaseUrl vaultPassword
    initializing
  let restore := SystemEvent.call client (.restoreSession restoring)
    ⟨moment, .delivered⟩
  let reached := systemAfter json sodium sha256 toLower appDataPath starts
  have sound : ∀ events : List (SystemEvent ι),
      (∀ event ∈ events, event.Allowed passwords) →
        AllSound json sodium appDataPath passwords (reached events) :=
    fun events => allSound_systemAfter roundTrips nested correct committing
      noVault noAccounts device
  have sameName : account.username = session.username := by
    have soundEarlier := sound earlier fun event member =>
      allowed event (List.mem_append_left _ (List.mem_append_left _ member))
    have soundClient := soundEarlier.clients client
    have remembers := soundClient.remembers active
    refine (soundEarlier.server.user_eq_iff_name_eq
      (remembers account (AccountsRepository.activeAccount_mem latest)).1
      (soundClient.context session ?_).account).mp sameUser
    rw [ServiceLocator.context, active]
    exact isContext
  have waiting : (reached (earlier ++ between)).clients client =
      (reached earlier).clients client :=
    systemAfter_clients_of_others fun event member =>
      others event (List.mem_append_left _ member)
  -- The process that comes up.
  have soundBefore := sound (earlier ++ between) fun event member =>
    allowed event (List.mem_append_left _ member)
  have serviceBefore :
      ((reached (earlier ++ between)).clients client).locator.m_authService =
        some service := by
    rw [waiting]
    exact active
  rw [← show (reached (earlier ++ between)).clients client = _ from waiting]
    at works
  have member : vaultPassword ∈ passwords client :=
    (allowed start (by simp [start])).1
  obtain ⟨next, isNext, accounts, tokens⟩ := initialized_finds roundTrips
    correct (committing client) (soundBefore.clients client) serviceBefore
    member works
  -- It waits for its restore.
  let upEvents := earlier ++ between ++ start :: later
  have up : ((reached upEvents).clients client).locator.m_authService =
      some next := by
    have split : upEvents = (earlier ++ between ++ [start]) ++ later := by
      simp [upEvents]
    rw [split]
    unfold reached
    rw [systemAfter_clients_of_others fun event within =>
      others event (List.mem_append_right _ within), systemAfter_append]
    change ((System.ofClient _ client _).2.clients
      client).locator.m_authService = _
    rw [ofClient_clients_self]
    exact isNext
  have soundUp := sound upEvents allowed
  have remembers := (soundUp.clients client).remembers up
  rw [← accounts] at latest
  rw [← tokens, ← sameUser] at saved
  obtain ⟨_, restored⟩ := @callStep_restore json sodium sha256 _ next
    roundTrips _ up remembers restoring account _ latest saved moment
  -- What is reached in the end.
  intro final
  have isFinal : final = reached (upEvents ++ [restore]) := by
    unfold final reached upEvents
    simp [start, restore]
  have soundFinal := sound (upEvents ++ [restore]) (by
    intro event within
    rcases List.mem_append.mp within with within | within
    · exact allowed event within
    · obtain rfl := List.mem_singleton.mp within
      exact IsAsciiText.isUtf16 (by decide : IsAsciiText []))
  have context : (final.clients client).locator.context =
      some (refreshedSession account
        ⟨refreshedAccess account.userId,
          refreshedRefresh account.userId⟩) := by
    rw [isFinal]
    unfold reached
    rw [systemAfter_append]
    change ((System.ofClient _ client _).2.clients client).locator.context = _
    rw [ofClient_clients_self]
    exact restored
  rw [← isFinal] at soundFinal
  have recognised := (soundFinal.clients client).context _ context
  exact ⟨_, context, sameUser, sameName, recognised⟩

section Examples

open ReferenceSystem

/-- Alice is still signed in after a restart, while Bob has signed up. -/
theorem restart_resumes_alice :
    let system := ReferenceSystem.systemAfter
      (signingUp false alice ++ signingUp true bob ++
        [starting false, restoring false])
    ∃ resumed, (system.clients false).locator.context = some resumed ∧
      resumed.username = alice := by
  let before := (ReferenceSystem.systemAfter
    (signingUp false alice)).clients false
  have facts :
      (before.locator.m_authService.bind fun service =>
        service.m_context.bind fun session =>
          (AccountsRepository.activeAccount service.m_accountsRepository
              true).map fun account =>
            (decide (account.userId = session.userId) &&
              decide (diskView ReferenceNestedJson.json
                  ReferenceSodium.sodium service.vaultState
                  (refreshTokenName session.userId) =
                some (toUtf8 session.refreshToken)),
              session.username)) = some (true, alice) := by
    decide +kernel
  have works : (initializeServices ReferenceNestedJson.json
      ReferenceSodium.sodium [] serverUrl ReferenceVault.password
      before.locator.data ReferenceApplication.initializing).1 = none := by
    decide +kernel
  obtain ⟨service, active, facts⟩ := Option.bind_eq_some_iff.mp facts
  obtain ⟨session, isContext, facts⟩ := Option.bind_eq_some_iff.mp facts
  obtain ⟨account, latest, facts⟩ := Option.map_eq_some_iff.mp facts
  rw [Prod.mk.injEq, Bool.and_eq_true, decide_eq_true_eq,
    decide_eq_true_eq] at facts
  obtain ⟨⟨sameUser, saved⟩, named⟩ := facts
  have allowed := @allowed_of_forall
    (signingUp false alice ++ signingUp true bob ++ [starting false])
    (by simp [signingUp, starting, restoring, registering])
  have others : ∀ event ∈ signingUp true bob ++ [],
      event.client ≠ some false := by
    simp [signingUp, starting, registering, SystemEvent.client]
  have resumes := restart_resumes_session
    ReferenceNestedJson.json ReferenceSodium.sodium ReferenceService.sha256
    id [] (fun _ : Bool => ReferenceApplication.emptyData)
    (fun _ => [ReferenceVault.password])
    (signingUp false alice) (signingUp true bob) [] false serverUrl
    ReferenceVault.password ReferenceApplication.initializing
    ReferenceService.restoreOutcome moment service session account
    ReferenceNestedJson.json_roundTrips
    ReferenceNestedJson.json_roundTripsNested
    ReferenceSodium.sodium_aeadCorrect
    (fun _ => @committing_of_forall_eq _ _ ReferenceVault.password
      fun other member => List.mem_singleton.mp member)
    (fun _ => rfl) (fun _ => rfl)
    (fun _ => IsAsciiText.isUtf16 (by decide))
    allowed others active isContext saved latest sameUser works
  rw [List.nil_append] at resumes
  have same : starting false :: [restoring false] =
      [.initialized false serverUrl ReferenceVault.password
          ReferenceApplication.initializing,
        .call false (.restoreSession ReferenceService.restoreOutcome)
          ⟨moment, .delivered⟩] := rfl
  obtain ⟨resumed, context, _, sameName, _⟩ := resumes
  refine ⟨resumed, ?_, sameName.trans named⟩
  rw [ReferenceSystem.systemAfter, same]
  exact context

end Examples

end Integration
end VoxDesktop
