import VoxDesktop.Application.RefreshTokens
import VoxDesktop.Integration.ReferenceSystem
import VoxDesktop.Integration.Sessions
import VoxDesktop.Services.BearerToken

/-!
# Whose sessions the clients have

Over every run of the system: what a client takes for the session of a user is
a session of this user to the server, across restarts of the client and
whatever anyone else does.  The invariant says where the refresh tokens in the
vault come from, since a restore believes the accounts table and the vault
about the user.
-/

namespace VoxDesktop
namespace Integration

open Library Qt Crypto Network Storage Services AuthService Application
  MessageSendService ServiceLocator VaultService FakeVoxServer

/-! ## The invariant of one client -/

structure Sound
    (json : QJsonDocument) (sodium : Sodium) (appDataPath : QString)
    (passwords : List QString) (server : FakeVoxServer)
    (locator : ServiceLocator) : Prop where
  /-- Tokens in the vault are of sessions that the server recognises. -/
  tokens : ∃ offered : List (QString × AuthContext),
    (∀ source ∈ offered, Recognised server source.2) ∧
      LocatorHolds json sodium appDataPath passwords (TokenFrom offered)
        locator
  accounts : ∀ account ∈ locator.data.accounts,
    KnownAs server account.userId account.username
  context : ∀ session, locator.context = some session →
    Recognised server session
  bearer : ∀ service, locator.m_authService = some service →
    BearerMatches service
  vault : VaultOpen json sodium appDataPath passwords locator
  device : IsUtf16 locator.data.deviceId ∧
    ∀ service, locator.m_authService = some service →
      IsUtf16 service.m_deviceId
  devices :
    (∀ account ∈ locator.data.accounts, IsUtf16 account.activeDeviceId) ∧
      ∀ session, locator.context = some session → IsUtf16 session.deviceId

section Client

variable {json : QJsonDocument} {sodium : Sodium}
  {sha256 : QByteArray → List.Vector UInt8 kSha256Bytes}
  {appDataPath : QString} {passwords : List QString}
  {server : FakeVoxServer} {locator : ServiceLocator}

theorem Sound.mono
    {after : FakeVoxServer}
    (sound : Sound json sodium appDataPath passwords server locator)
    (grown : Extends server after) :
    Sound json sodium appDataPath passwords after locator where
  tokens := by
    obtain ⟨offered, recognised, holds⟩ := sound.tokens
    exact ⟨offered, fun source member => (recognised source member).mono grown,
      holds⟩
  accounts account member := (sound.accounts account member).mono grown
  context session isContext := (sound.context session isContext).mono grown
  bearer := sound.bearer
  vault := sound.vault
  device := sound.device
  devices := sound.devices

/-- A client on a data directory without a vault and without accounts. -/
theorem sound_start
    {start : AppData}
    (noVault : start.files (vaultPath appDataPath) = none)
    (noAccounts : start.accounts = [])
    (device : IsUtf16 start.deviceId) :
    Sound json sodium appDataPath passwords server ⟨start, none⟩ where
  tokens := by
    refine ⟨[], by simp, ?_⟩
    intro content onDisk
    exact absurd (noVault.symm.trans onDisk) (by simp)
  accounts account member := by
    change account ∈ start.accounts at member
    rw [noAccounts] at member
    contradiction
  context _ absent := nomatch absent
  bearer _ absent := nomatch absent
  vault _ absent := nomatch absent
  device := ⟨device, fun _ absent => nomatch absent⟩
  devices := by
    change (∀ account ∈ start.accounts, _) ∧ _
    rw [noAccounts]
    refine ⟨by simp, fun session absent => ?_⟩
    contradiction

theorem Sound.remembers
    (sound : Sound json sodium appDataPath passwords server locator)
    {service : AuthService} (active : locator.m_authService = some service) :
    Remembers server service := by
  intro account member
  have listed : account ∈ locator.data.accounts := by
    rw [ServiceLocator.data, active]
    exact member
  refine ⟨sound.accounts account listed, fun stored loaded => ?_⟩
  obtain ⟨offered, recognised, holds⟩ := sound.tokens
  unfold LocatorHolds at holds
  rw [active] at holds
  obtain ⟨source, isSource, sameUser, rfl⟩ :=
    holds.of_loadSecret loaded account.userId rfl
  have known := recognised source isSource
  rw [known.stored, known.refresh, sameUser]

theorem exchanged_grows
    (wellFormed : server.WellFormed)
    (network : NetworkAccess) (request : HttpRequest × QUrlQuery)
    (exchange : Exchange) :
    (exchanged json server network request exchange).2.WellFormed ∧
      Extends server (exchanged json server network request exchange).2 := by
  have handled := (@handle_accounts json server
    (serverRequest network request.1 request.2) exchange.moment).grows
      wellFormed
  obtain ⟨moment, delivered | errorMessage | errorMessage⟩ := exchange
  · exact handled
  · exact ⟨wellFormed, .refl server⟩
  · exact handled

theorem answeredCall_grows
    (wellFormed : server.WellFormed) (service : AuthService)
    (call : AuthCall) (exchange : Exchange) :
    let after :=
      (answeredCall json sodium sha256 server service call exchange).2
    after.WellFormed ∧ Extends server after := by
  intro after
  unfold after answeredCall
  split
  · exact ⟨wellFormed, .refl server⟩
  · exact exchanged_grows wellFormed _ _ exchange

/-- The context after a call is the session it was offered or the one before
the call. -/
theorem context_step
    {service : AuthService} {call : AuthCall} {session : AuthContext}
    (isContext :
      (step json sodium sha256 service call).2.m_context = some session) :
    offeredSession json sodium sha256 service call = some session ∨
      service.m_context = some session := by
  by_cases notLogout : call.isLogout = false
  · rw [step_context notLogout] at isContext
    exact (Option.or_eq_some_iff.mp isContext).imp_right And.right
  · cases call with
    | logout outcome =>
        rw [step, logout_context] at isContext
        contradiction
    | registerUser username passwordDerived outcome => contradiction
    | login username passwordDerived outcome => contradiction
    | restoreSession outcome => contradiction

theorem callStep_sound
    (roundTrips : json.RoundTrips) (nested : json.RoundTripsNested)
    (correct : sodium.AeadCorrect)
    (committing : Committing sodium passwords)
    (wellFormed : server.WellFormed) {client : Client}
    (sound : Sound json sodium appDataPath passwords server client.locator)
    {call : AuthCall} (typed : IsUtf16 (typedUsername call))
    (exchange : Exchange) :
    let result := callStep json sodium sha256 server client call exchange
    result.2.1.WellFormed ∧ Extends server result.2.1 ∧
      Sound json sodium appDataPath passwords result.2.1
        result.2.2.locator := by
  intro result
  unfold result callStep
  cases active : client.locator.m_authService with
  | none => exact ⟨wellFormed, .refl server, sound⟩
  | some service =>
      dsimp only
      obtain ⟨grownWellFormed, grown⟩ :=
        @answeredCall_grows json sodium sha256 server wellFormed service call
          exchange
      have offeredKnown := fun session =>
        @answeredCall_recognised json sodium sha256 server service roundTrips
          nested wellFormed (sound.device.2 service active)
          (sound.remembers active) call typed exchange session
      generalize answeredCall json sodium sha256 server service call
        exchange = answer at grownWellFormed grown offeredKnown ⊢
      obtain ⟨answeredCall, after⟩ := answer
      dsimp only at grownWellFormed grown offeredKnown ⊢
      have contextKnown : ∀ session,
          (step json sodium sha256 service answeredCall).2.m_context =
              some session → Recognised after session := by
        intro session isContext
        rcases context_step isContext with offered | before
        · exact offeredKnown session offered
        · have isBefore : client.locator.context = some session := by
            rw [ServiceLocator.context, active]
            exact before
          exact (sound.context session isBefore).mono grown
      have contextDevice : ∀ session,
          (step json sodium sha256 service answeredCall).2.m_context =
              some session → IsUtf16 session.deviceId := by
        intro session isContext
        rcases context_step isContext with offered | before
        · rcases offeredSession_deviceId offered with
            same | ⟨account, member, same⟩
          · rw [same]
            exact sound.device.2 service active
          · rw [same]
            apply sound.devices.1
            rw [ServiceLocator.data, active]
            exact member
        · apply sound.devices.2 session
          rw [ServiceLocator.context, active]
          exact before
      refine ⟨grownWellFormed, grown, ?_, ?_, ?_, ?_, ?_, ?_, ?_⟩
      · obtain ⟨offered, recognised, holds⟩ := sound.tokens
        refine ⟨_, ?_, @locatorHolds_historyStep json sodium sha256
          appDataPath passwords client.locator offered roundTrips correct
          committing holds (.call answeredCall) (by simp [vaultPasswords])⟩
        intro source member
        rcases List.mem_append.mp member with old | new
        · exact (recognised source old).mono grown
        · rw [offer, active, Option.bind_some, Option.mem_toList,
            Option.map_eq_some_iff] at new
          obtain ⟨session, isOffered, rfl⟩ := new
          exact offeredKnown session isOffered
      · intro row member
        rw [callAuth, active] at member
        rcases step_rowsFromContext answeredCall row member with
          old | ⟨session, isContext, sameUser, sameName, _⟩
        · have listed : row ∈ client.locator.data.accounts := by
            rw [ServiceLocator.data, active]
            exact old
          exact (sound.accounts row listed).mono grown
        · rw [sameUser, sameName]
          exact (contextKnown session isContext).account
      · intro session isContext
        rw [callAuth, active] at isContext
        exact contextKnown session isContext
      · intro next isNext
        rw [callAuth, active] at isNext
        obtain rfl := Option.some.inj isNext
        exact step_bearerMatches (sound.bearer service active) answeredCall
      · exact sound.vault.callAuth roundTrips correct answeredCall
      · rw [callAuth, active]
        refine ⟨?_, ?_⟩
        · have same := sound.device.1
          rw [ServiceLocator.data, active] at same
          exact same
        · intro next isNext
          obtain rfl := Option.some.inj isNext
          rw [step_deviceId]
          exact sound.device.2 service active
      · refine ⟨?_, ?_⟩
        · intro row member
          rw [callAuth, active] at member
          rcases step_rowsFromContext answeredCall row member with
            old | ⟨session, isContext, _, _, sameDevice⟩
          · apply sound.devices.1 row
            rw [ServiceLocator.data, active]
            exact old
          · rw [sameDevice]
            exact contextDevice session isContext
        · intro session isContext
          rw [callAuth, active] at isContext
          exact contextDevice session isContext

/-- Initializing takes over the device identifier or makes one. -/
theorem initializeServices_deviceId
    {serverBaseUrl vaultPassword : QString} {data : AppData}
    {outcome : InitializeOutcome}
    (device : IsUtf16 data.deviceId) (uuid : IsUtf16 outcome.uuid) :
    let locator :=
      (initializeServices json sodium appDataPath serverBaseUrl vaultPassword
        data outcome).2
    IsUtf16 locator.data.deviceId ∧
      ∀ service, locator.m_authService = some service →
        IsUtf16 service.m_deviceId := by
  have noService : ∀ left : AppData, IsUtf16 left.deviceId →
      IsUtf16 (ServiceLocator.data ⟨left, none⟩).deviceId ∧
        ∀ service : AuthService, (none : Option AuthService) = some service →
          IsUtf16 service.m_deviceId :=
    fun left kept => ⟨kept, fun _ absent => nomatch absent⟩
  intro locator
  unfold locator initializeServices
  split
  · exact noService data device
  dsimp only
  split
  · exact noService _ device
  split
  · exact noService _ device
  · exact noService _ device
  split
  · exact noService _ device
  · have chosen : IsUtf16
        (if data.deviceId = [] then outcome.uuid else data.deviceId) := by
      split
      · exact uuid
      · exact device
    refine ⟨chosen, fun service isService => ?_⟩
    obtain rfl := Option.some.inj isService
    exact chosen

theorem sound_initialized
    (roundTrips : json.RoundTrips)
    (correct : sodium.AeadCorrect)
    (committing : Committing sodium passwords)
    (sound : Sound json sodium appDataPath passwords server locator)
    (serverBaseUrl : QString)
    {vaultPassword : QString} (member : vaultPassword ∈ passwords)
    {outcome : InitializeOutcome} (uuid : IsUtf16 outcome.uuid) :
    Sound json sodium appDataPath passwords server
      (initializeServices json sodium appDataPath serverBaseUrl vaultPassword
        locator.data outcome).2 where
  tokens := by
    obtain ⟨offered, recognised, holds⟩ := sound.tokens
    exact ⟨offered, recognised, locatorHolds_initialized roundTrips correct
      committing holds serverBaseUrl member outcome⟩
  accounts := by
    rcases @initializeServices_cases json sodium appDataPath serverBaseUrl
        vaultPassword locator.data outcome with
      ⟨error, left, result, rfl | rfl⟩ |
        ⟨_, service, _, active, _, _, same, _⟩
    · rw [result]
      exact sound.accounts
    · rw [result]
      exact sound.accounts
    · rw [ServiceLocator.data, active]
      dsimp only
      rw [same]
      exact sound.accounts
  context session isContext := by
    rcases @initializeServices_cases json sodium appDataPath serverBaseUrl
        vaultPassword locator.data outcome with
      ⟨error, left, result, _⟩ | ⟨_, service, _, active, _, absent, _, _⟩
    · rw [result] at isContext
      contradiction
    · rw [ServiceLocator.context, active, Option.bind_some, absent]
        at isContext
      contradiction
  bearer service isService := by
    rcases @initializeServices_cases json sodium appDataPath serverBaseUrl
        vaultPassword locator.data outcome with
      ⟨error, left, result, _⟩ | ⟨_, made, _, active, network, absent, _, _⟩
    · rw [result] at isService
      contradiction
    · rw [active] at isService
      obtain rfl := Option.some.inj isService
      rw [BearerMatches, network, absent]
      rfl
  vault :=
    vaultOpen_initialized roundTrips correct member locator.data outcome
  device := initializeServices_deviceId sound.device.1 uuid
  devices := by
    rcases @initializeServices_cases json sodium appDataPath serverBaseUrl
        vaultPassword locator.data outcome with
      ⟨error, left, result, rfl | rfl⟩ |
        ⟨_, service, _, active, _, absent, same, _⟩
    · rw [result]
      exact ⟨sound.devices.1,
        fun _ isContext => (Option.some_ne_none _ isContext.symm).elim⟩
    · rw [result]
      exact ⟨sound.devices.1,
        fun _ isContext => (Option.some_ne_none _ isContext.symm).elim⟩
    · rw [ServiceLocator.data, ServiceLocator.context, active,
        Option.bind_some, absent]
      dsimp only
      rw [same]
      exact ⟨sound.devices.1,
        fun _ isContext => (Option.some_ne_none _ isContext.symm).elim⟩

end Client

/-! ## The invariant of the system -/

section Systems

variable {json : QJsonDocument} {sodium : Sodium}
  {sha256 : QByteArray → List.Vector UInt8 kSha256Bytes}
  {toLower : QString → QString} {appDataPath : QString}
  {ι : Type} {passwords : ι → List QString} {system : System ι}

structure AllSound
    (json : QJsonDocument) (sodium : Sodium) (appDataPath : QString)
    (passwords : ι → List QString) (system : System ι) : Prop where
  server : system.server.WellFormed
  clients : ∀ client, Sound json sodium appDataPath (passwords client)
    system.server (system.clients client).locator

variable [DecidableEq ι]

theorem ofClient_clients_self
    (client : ι) (result : SystemReport × FakeVoxServer × Client) :
    (system.ofClient client result).2.clients client = result.2.2 :=
  Function.update_self _ _ _

/-- One client takes a step under which the server grows. -/
theorem AllSound.ofClient
    (all : AllSound json sodium appDataPath passwords system)
    (client : ι) {result : SystemReport × FakeVoxServer × Client}
    (wellFormed : result.2.1.WellFormed)
    (grown : Extends system.server result.2.1)
    (sound : Sound json sodium appDataPath (passwords client) result.2.1
      result.2.2.locator) :
    AllSound json sodium appDataPath passwords
      (system.ofClient client result).2 where
  server := wellFormed
  clients other := by
    change Sound _ _ _ _ _
      (Function.update system.clients client result.2.2 other).locator
    by_cases same : other = client
    · subst same
      rw [Function.update_self]
      exact sound
    · rw [Function.update_of_ne same]
      exact (all.clients other).mono grown

/-- A step of one client that leaves its services alone. -/
theorem AllSound.of_locator_eq
    (all : AllSound json sodium appDataPath passwords system)
    (client : ι) {result : SystemReport × FakeVoxServer × Client}
    (grows : result.2.1.WellFormed ∧ Extends system.server result.2.1)
    (same : result.2.2.locator = (system.clients client).locator) :
    AllSound json sodium appDataPath passwords
      (system.ofClient client result).2 :=
  all.ofClient client grows.1 grows.2
    (same ▸ (all.clients client).mono grows.2)

theorem systemAfter_append
    (starts : ι → AppData) (first second : List (SystemEvent ι)) :
    systemAfter json sodium sha256 toLower appDataPath starts
        (first ++ second) =
      Machine.run (systemStep json sodium sha256 toLower appDataPath)
        (systemAfter json sodium sha256 toLower appDataPath starts first)
        second :=
  Machine.run_append _ _ _ _

/-- Events of others leave a client alone. -/
theorem systemStep_clients_of_ne
    {client : ι} {event : SystemEvent ι} (other : event.client ≠ some client) :
    (systemStep json sodium sha256 toLower appDataPath system
      event).2.clients client = system.clients client := by
  cases event with
  | server event => rfl
  | initialized actor serverBaseUrl vaultPassword outcome =>
      exact Function.update_of_ne
        (fun same => other (congrArg some same.symm)) _ _
  | call actor call exchange =>
      exact Function.update_of_ne
        (fun same => other (congrArg some same.symm)) _ _
  | submit actor conversationId text rules outcome exchange =>
      exact Function.update_of_ne
        (fun same => other (congrArg some same.symm)) _ _
  | poll actor ui answers exchange =>
      exact Function.update_of_ne
        (fun same => other (congrArg some same.symm)) _ _

theorem systemAfter_clients_of_others
    {starts : ι → AppData} {client : ι}
    {earlier later : List (SystemEvent ι)}
    (others : ∀ event ∈ later, event.client ≠ some client) :
    (systemAfter json sodium sha256 toLower appDataPath starts
        (earlier ++ later)).clients client =
      (systemAfter json sodium sha256 toLower appDataPath starts
        earlier).clients client := by
  rw [systemAfter_append]
  refine Machine.run_invariant_of_eachStep
    (fun reached : System ι => reached.clients client = _)
    (fun _ event => event.client ≠ some client) ?_ rfl
    (Machine.eachStep_of_forall _ (fun event member _ => others event member)
      _)
  intro reached event same other
  rw [systemStep_clients_of_ne other, same]

theorem submitStep_frame
    {server : FakeVoxServer} (wellFormed : server.WellFormed)
    (client : Client) (conversationId text : QString)
    (rules : Option PostingRules)
    (outcome : SendOutcome) (exchange : Exchange) :
    let result :=
      submitStep json toLower server client conversationId text rules outcome
        exchange
    (result.2.1.WellFormed ∧ Extends server result.2.1) ∧
      result.2.2.locator = client.locator := by
  intro result
  unfold result submitStep
  dsimp only
  split
  · exact ⟨exchanged_grows wellFormed _ _ exchange, rfl⟩
  · exact ⟨⟨wellFormed, .refl server⟩, rfl⟩

theorem pollStep_frame
    {server : FakeVoxServer} (wellFormed : server.WellFormed)
    (client : Client) (ui : UiState)
    (answers : EnvelopeDto → EnvelopeAnswers) (exchange : Exchange) :
    let result := pollStep json server client ui answers exchange
    (result.2.1.WellFormed ∧ Extends server result.2.1) ∧
      result.2.2.locator = client.locator := by
  intro result
  unfold result pollStep
  split
  · exact ⟨⟨wellFormed, .refl server⟩, rfl⟩
  dsimp only
  split
  · exact ⟨exchanged_grows wellFormed _ _ exchange, rfl⟩
  · exact ⟨exchanged_grows wellFormed _ _ exchange, rfl⟩

/-- An event keeps the invariant. -/
theorem AllSound.step
    (roundTrips : json.RoundTrips) (nested : json.RoundTripsNested)
    (correct : sodium.AeadCorrect)
    (committing : ∀ client, Committing sodium (passwords client))
    (all : AllSound json sodium appDataPath passwords system)
    {event : SystemEvent ι} (allowed : event.Allowed passwords) :
    AllSound json sodium appDataPath passwords
      (systemStep json sodium sha256 toLower appDataPath system event).2 := by
  cases event with
  | server event =>
      obtain ⟨wellFormed, grown⟩ :=
        @serverStep_grows json system.server all.server event
      exact ⟨wellFormed, fun client => (all.clients client).mono grown⟩
  | initialized client serverBaseUrl vaultPassword outcome =>
      exact all.ofClient client all.server (.refl _)
        (sound_initialized roundTrips correct (committing client)
          (all.clients client) serverBaseUrl allowed.1 allowed.2)
  | call client call exchange =>
      obtain ⟨wellFormed, grown, sound⟩ :=
        @callStep_sound json sodium sha256 appDataPath _ _ roundTrips nested
          correct (committing client) all.server _ (all.clients client) _
          allowed exchange
      exact all.ofClient client wellFormed grown sound
  | submit client conversationId text rules outcome exchange =>
      obtain ⟨grows, same⟩ :=
        @submitStep_frame json toLower system.server all.server
          (system.clients client) conversationId text rules outcome exchange
      exact all.of_locator_eq client grows same
  | poll client ui answers exchange =>
      obtain ⟨grows, same⟩ :=
        @pollStep_frame json system.server all.server
          (system.clients client) ui answers exchange
      exact all.of_locator_eq client grows same

theorem allSound_systemAfter
    (roundTrips : json.RoundTrips) (nested : json.RoundTripsNested)
    (correct : sodium.AeadCorrect)
    (committing : ∀ client, Committing sodium (passwords client))
    {starts : ι → AppData}
    (noVault : ∀ client, (starts client).files (vaultPath appDataPath) = none)
    (noAccounts : ∀ client, (starts client).accounts = [])
    (device : ∀ client, IsUtf16 (starts client).deviceId)
    {events : List (SystemEvent ι)}
    (allowed : ∀ event ∈ events, event.Allowed passwords) :
    AllSound json sodium appDataPath passwords
      (systemAfter json sodium sha256 toLower appDataPath starts events) := by
  refine Machine.run_invariant_of_eachStep
    (AllSound json sodium appDataPath passwords)
    (fun _ event => event.Allowed passwords) ?_ ?_
    (Machine.eachStep_of_forall _ (fun event member _ => allowed event member)
      _)
  · intro reached event all here
    exact all.step roundTrips nested correct committing here
  · exact ⟨wellFormed_initial, fun client =>
      sound_start (noVault client) (noAccounts client) (device client)⟩

end Systems

/-! ## Who the clients are to the server -/

theorem FakeVoxServer.WellFormed.ne_nil_of_issued
    {server : FakeVoxServer} (wellFormed : server.WellFormed)
    {token userId : QString}
    (issued : server.m_userByAccessToken.lookup token = some userId) :
    token ≠ [] := by
  obtain ⟨⟨rest, rfl, _⟩, _⟩ := wellFormed.access token userId issued
  rw [List.append_assoc]
  exact List.cons_ne_nil _ _

/-- A request under a token carries it to the server. -/
theorem headerValue_execute
    {network : NetworkAccess} (signedIn : network.m_bearerToken ≠ [])
    (method path : QString) (body : QByteArray) (contentType : QString) :
    headerValue (network.execute method path body contentType).headers
        (QString.literal "Authorization") =
      bearerPrefix ++ network.m_bearerToken := by
  unfold NetworkAccess.execute headerValue
  dsimp only
  rw [if_neg signedIn, List.singleton_append,
    List.find?_cons_of_pos (by simp)]
  rfl

/-- One name belongs to one user. -/
theorem FakeVoxServer.WellFormed.user_eq_iff_name_eq
    {server : FakeVoxServer} (wellFormed : server.WellFormed)
    {first second firstName secondName : QString}
    (isFirst : KnownAs server first firstName)
    (isSecond : KnownAs server second secondName) :
    first = second ↔ firstName = secondName := by
  obtain ⟨account, there, rfl⟩ := isFirst
  obtain ⟨other, otherThere, rfl⟩ := isSecond
  constructor
  · rintro rfl
    rw [wellFormed.isAccountOf_unique there otherThere]
  · intro sameName
    have found := there.1
    rw [sameName, otherThere.1] at found
    rw [← there.2, ← otherThere.2, Option.some.inj found]

/-- Over every run of clients that start without a vault and accounts, each
of them with its own vault passwords: the requests of a client with a context
are requests of the user of the context to the server, whose account has the
name in the context.  Two contexts, in whichever clients, are of one user
exactly when they show one name. -/
theorem contexts_name_their_users
    {ι : Type} [DecidableEq ι]
    (json : QJsonDocument)
    (sodium : Sodium)
    (sha256 : QByteArray → List.Vector UInt8 kSha256Bytes)
    (toLower : QString → QString)
    (appDataPath : QString)
    (starts : ι → AppData)
    (passwords : ι → List QString)
    (events : List (SystemEvent ι))
    (roundTrips : json.RoundTrips)
    (nested : json.RoundTripsNested)
    (correct : sodium.AeadCorrect)
    (committing : ∀ client, Committing sodium (passwords client))
    (noVault : ∀ client, (starts client).files (vaultPath appDataPath) = none)
    (noAccounts : ∀ client, (starts client).accounts = [])
    (device : ∀ client, IsUtf16 (starts client).deviceId)
    (allowed : ∀ event ∈ events, event.Allowed passwords) :
    let system :=
      systemAfter json sodium sha256 toLower appDataPath starts events
    ∀ client service session,
      (system.clients client).locator.m_authService = some service →
        service.m_context = some session →
          KnownAs system.server session.userId session.username ∧
            (system.server.m_forceUnauthorized = false →
              ∀ method path body contentType,
                system.server.authUserFromHeaders
                    (service.m_network.execute method path body
                      contentType).headers =
                  session.userId) ∧
            ∀ other otherSession,
              (system.clients other).locator.context = some otherSession →
                (session.userId = otherSession.userId ↔
                  session.username = otherSession.username) := by
  intro system client service session active isContext
  have all : AllSound json sodium appDataPath passwords system :=
    allSound_systemAfter roundTrips nested correct committing noVault
      noAccounts device allowed
  have sound := all.clients client
  have recognised : Recognised system.server session := by
    apply sound.context session
    rw [ServiceLocator.context, active]
    exact isContext
  refine ⟨recognised.account, ?_, ?_⟩
  · intro notForced method path body contentType
    have bearer : service.m_network.m_bearerToken = session.accessToken := by
      rw [sound.bearer service active, isContext]
      rfl
    have signedIn : service.m_network.m_bearerToken ≠ [] := by
      rw [bearer]
      exact all.server.ne_nil_of_issued recognised.access
    apply authUserFromHeaders_of_headerValue notForced
      (headerValue_execute signedIn method path body contentType)
    rw [bearer]
    exact recognised.access
  · intro other otherSession isOther
    exact all.server.user_eq_iff_name_eq recognised.account
      ((all.clients other).context otherSession isOther).account

section Examples

open ReferenceSystem

/-- Two users who have registered at two clients. -/
theorem contexts_of_alice_and_bob :
    let system := ReferenceSystem.systemAfter registered
    ∃ first second,
      (system.clients false).locator.context = some first ∧
        (system.clients true).locator.context = some second ∧
        KnownAs system.server first.userId alice ∧
        first.userId ≠ second.userId := by
  intro system
  have firstName : (system.clients false).locator.context.map
      AuthContext.username = some alice := by decide +kernel
  have secondName : (system.clients true).locator.context.map
      AuthContext.username = some bob := by decide +kernel
  obtain ⟨first, isFirst, firstNamed⟩ := Option.map_eq_some_iff.mp firstName
  obtain ⟨second, isSecond, secondNamed⟩ :=
    Option.map_eq_some_iff.mp secondName
  obtain ⟨service, active, isContext⟩ := Option.bind_eq_some_iff.mp isFirst
  obtain ⟨known, _, apart⟩ := contexts_name_their_users
    ReferenceNestedJson.json ReferenceSodium.sodium ReferenceService.sha256
    id [] (fun _ : Bool => ReferenceApplication.emptyData)
    (fun _ => [ReferenceVault.password]) registered
    ReferenceNestedJson.json_roundTrips
    ReferenceNestedJson.json_roundTripsNested
    ReferenceSodium.sodium_aeadCorrect
    (fun _ => @committing_of_forall_eq _ _ ReferenceVault.password
      fun other member => List.mem_singleton.mp member)
    (fun _ => rfl) (fun _ => rfl)
    (fun _ => IsAsciiText.isUtf16 (by decide))
    (allowed_of_forall (by simp [registered, signingUp]))
    false service first active isContext
  refine ⟨first, second, isFirst, isSecond, firstNamed ▸ known, ?_⟩
  rw [ne_eq, apart true second isSecond, firstNamed, secondNamed]
  decide

end Examples

end Integration
end VoxDesktop
