import VoxDesktop.Integration.Submissions

/-!
# Delivery of messages

Over every run of the system, whatever gets lost and whatever anyone else
sends: the log and the tables of messages show what was posted and nothing
else, a message that is marked as sent is in the log, and a poll that is
applied brings the whole log.
-/

namespace VoxDesktop
namespace Integration

open Library Qt Crypto Network Storage Services AuthService Application
  MessageSendService ServiceLocator VaultService FakeVoxServer

/-! ## The invariant -/

section Invariant

variable {json : QJsonDocument} {sodium : Sodium}
  {sha256 : QByteArray → List.Vector UInt8 kSha256Bytes}
  {toLower : QString → QString} {appDataPath : QString}
  {ι : Type} {passwords : ι → List QString} {system : System ι}
  {ledger : List Posting}

/-- What is in the log and in the tables is in the ledger. -/
structure Posted (ledger : List Posting) (system : System ι) : Prop where
  log : ∀ envelope ∈ system.server.m_envelopes,
    envelope.IsWritable ∧ Posting.ofEnvelope envelope ∈ ledger
  rows : ∀ client, Ledger.Replicates Shows ledger
    (system.clients client).tables.messages
  sent : ∀ client, ∀ row ∈ (system.clients client).tables.messages.rows,
    MarkedInLog system.server.m_envelopes row

theorem MarkedInLog.mono
    {log more : List Envelope} {row : MessageRow}
    (marked : MarkedInLog log row)
    (kept : ∀ envelope ∈ log, envelope ∈ more) : MarkedInLog more row := by
  intro isMarked
  obtain ⟨envelope, within, named⟩ := marked isMarked
  exact ⟨envelope, kept envelope within, named⟩

theorem posted_start (starts : ι → AppData) : Posted [] (.start starts) where
  log _ absent := nomatch absent
  rows _ := Ledger.replicates_empty
  sent _ _ absent := nomatch absent

/-- The ledger and the log grow, and the tables stay. -/
theorem Posted.grown
    (posted : Posted ledger system) {more : List Posting}
    (kept : ∀ posting ∈ ledger, posting ∈ more) {server : FakeVoxServer}
    (log : ∀ envelope ∈ server.m_envelopes,
      envelope.IsWritable ∧ Posting.ofEnvelope envelope ∈ more)
    (grown : ∀ envelope ∈ system.server.m_envelopes,
      envelope ∈ server.m_envelopes) :
    Posted more ⟨server, system.clients⟩ where
  log := log
  rows client := (posted.rows client).mono kept
  sent client row within := (posted.sent client row within).mono grown

variable [DecidableEq ι]

/-- One client changes its tables. -/
theorem Posted.ofClient
    (posted : Posted ledger system) {more : List Posting}
    (kept : ∀ posting ∈ ledger, posting ∈ more)
    (client : ι) {result : SystemReport × FakeVoxServer × Client}
    (log : ∀ envelope ∈ result.2.1.m_envelopes,
      envelope.IsWritable ∧ Posting.ofEnvelope envelope ∈ more)
    (grown : ∀ envelope ∈ system.server.m_envelopes,
      envelope ∈ result.2.1.m_envelopes)
    (rows : Ledger.Replicates Shows more result.2.2.tables.messages)
    (sent : ∀ row ∈ result.2.2.tables.messages.rows,
      MarkedInLog result.2.1.m_envelopes row) :
    Posted more (system.ofClient client result).2 where
  log := log
  rows other := by
    change Ledger.Replicates Shows more
      (Function.update system.clients client result.2.2 other).tables.messages
    by_cases same : other = client
    · subst same
      rw [Function.update_self]
      exact rows
    · rw [Function.update_of_ne same]
      exact (posted.rows other).mono kept
  sent other := by
    change ∀ row ∈
      (Function.update system.clients client result.2.2
        other).tables.messages.rows, MarkedInLog result.2.1.m_envelopes row
    by_cases same : other = client
    · subst same
      rw [Function.update_self]
      exact sent
    · rw [Function.update_of_ne same]
      exact fun row within => (posted.sent other row within).mono grown

/-- One client takes a step that appends nothing and posts nothing. -/
theorem Posted.of_frame
    (posted : Posted ledger system) (client : ι)
    {result : SystemReport × FakeVoxServer × Client}
    (sameLog : result.2.1.m_envelopes = system.server.m_envelopes)
    (rows : Ledger.Replicates Shows ledger result.2.2.tables.messages)
    (sent : ∀ row ∈ result.2.2.tables.messages.rows,
      MarkedInLog system.server.m_envelopes row) :
    Posted ledger (system.ofClient client result).2 := by
  refine posted.ofClient (fun _ member => member) client ?_ ?_ rows ?_
  · rw [sameLog]
    exact posted.log
  · rw [sameLog]
    exact fun _ member => member
  · rw [sameLog]
    exact sent

theorem trimQuery_path_ne (call : AuthCall) :
    trimQuery call.path ≠ sendRoute := by
  cases call with
  | registerUser username passwordDerived outcome =>
      exact (by decide : trimQuery ApiPaths.kRegister ≠ sendRoute)
  | login username passwordDerived outcome =>
      exact (by decide : trimQuery ApiPaths.kLogin ≠ sendRoute)
  | restoreSession outcome =>
      exact (by decide : trimQuery ApiPaths.kRefresh ≠ sendRoute)
  | logout outcome =>
      exact (by decide : trimQuery ApiPaths.kLogout ≠ sendRoute)

/-- No request of the authentication service appends anything. -/
theorem callStep_frame
    (server : FakeVoxServer) (client : Client) (call : AuthCall)
    (exchange : Exchange) :
    let result := callStep json sodium sha256 server client call exchange
    result.2.1.m_envelopes = server.m_envelopes ∧
      result.2.2.tables = client.tables := by
  intro result
  unfold result callStep
  cases client.locator.m_authService with
  | none => exact ⟨rfl, rfl⟩
  | some service =>
      refine ⟨?_, rfl⟩
      dsimp only
      unfold answeredCall
      cases posts : (service.step json sodium sha256 call).1.posted with
      | none => rfl
      | some request =>
          obtain ⟨body, rfl⟩ :=
            (@step_posts json sodium sha256 service call).2 request posts
          have other : ¬(trimQuery call.path = sendRoute ∧
              QString.literal "POST" = QString.literal "POST") := by
            exact fun facts => trimQuery_path_ne call facts.1
          have handled : (server.handle json
              (posted service.m_network call.path body)
                exchange.moment).2.m_envelopes = server.m_envelopes :=
            handle_envelopes_of_other other
          dsimp only
          obtain ⟨moment, delivered | errorMessage | errorMessage⟩ := exchange
          · dsimp only [exchanged]
            rw [serverRequest_postJson _ call.path_absolute]
            exact handled
          · rfl
          · dsimp only [exchanged]
            rw [serverRequest_postJson _ call.path_absolute]
            exact handled

/-- A submission posts its text, and the message is marked as sent only when
the server has appended its envelope. -/
theorem Posted.submit
    (roundTrips : json.RoundTrips)
    (all : AllSound json sodium appDataPath passwords system)
    (posted : Posted ledger system)
    {client : ι} {conversationId text : QString}
    {rules : Option PostingRules} {outcome : SendOutcome}
    {exchange : Exchange}
    (readable : SystemEvent.Readable json
      (.submit client conversationId text rules outcome exchange))
    (distinct : ((ledger ++ (system.posting json toLower (.submit client
      conversationId text rules outcome exchange)).toList).map
        Posting.messageId).Nodup) :
    Posted
      (ledger ++ (system.posting json toLower (.submit client conversationId
        text rules outcome exchange)).toList)
      (systemStep json sodium sha256 toLower appDataPath system
        (.submit client conversationId text rules outcome exchange)).2 := by
  obtain ⟨clock, conversation, named, nonemptyId, wellFormed, noMark⟩ :=
    readable
  rcases @submitStep_cases json toLower system.server (system.clients client)
      conversationId text rules outcome exchange with
    ⟨quiet, same⟩ |
      ⟨isMade, service, context, appended, message, active, isContext,
        nonempty, log, accepted, messages, shown, marked⟩
  · have nothing : system.posting json toLower (.submit client conversationId
        text rules outcome exchange) = none := by
      unfold System.posting
      dsimp only
      rw [quiet]
      split
      · contradiction
      · rfl
    rw [nothing, Option.toList_none, List.append_nil, systemStep]
    apply posted.of_frame client
    · rw [same]
    · rw [same]
      exact posted.rows client
    · rw [same]
      exact posted.sent client
  · let posting : Posting :=
      ⟨outcome.envelopeId, conversationId, context.userId, context.deviceId,
        toUtf8 text⟩
    have inLocator : (system.clients client).locator.context =
        some context := by
      rw [ServiceLocator.context, active]
      exact isContext
    have isPosted : system.posting json toLower (.submit client
        conversationId text rules outcome exchange) = some posting := by
      obtain ⟨request, made⟩ := Option.ne_none_iff_exists'.mp isMade
      unfold System.posting
      dsimp only
      rw [inLocator, made]
    rw [isPosted, Option.toList_some] at distinct ⊢
    have kept : ∀ old ∈ ledger, old ∈ ledger ++ [posting] :=
      fun old member => List.mem_append_left _ member
    have member : posting ∈ ledger ++ [posting] := by simp
    have sound := all.clients client
    have recognised := sound.context context inLocator
    -- What the server has appended is what was posted.
    have isAppended : ∀ envelope, appended = some envelope →
        envelope = submittedAs context conversationId text
          outcome.envelopeId exchange.moment := by
      intro envelope same
      refine acceptedEnvelope_submitted roundTrips all.server recognised ?_
        nonemptyId (accepted envelope same)
      rw [sound.bearer service active, isContext]
      rfl
    have user : IsUtf16 context.userId := by
      obtain ⟨account, there, _⟩ := recognised.account
      obtain ⟨number, same⟩ := all.server.userIdOf_of_isAccountOf there
      rw [same]
      exact (isAsciiText_userIdOf number).isUtf16
    rw [systemStep]
    refine posted.ofClient kept client ?_ ?_ ?_ ?_
    · intro envelope within
      rw [log, List.mem_append] at within
      rcases within with old | new
      · exact ⟨(posted.log envelope old).1, kept _ (posted.log envelope old).2⟩
      · rw [isAppended envelope (Option.mem_toList.mp new)]
        refine ⟨isWritable_submittedAs (sound.devices.2 context inLocator)
          user conversation named clock, ?_⟩
        rw [ofEnvelope_submittedAs wellFormed nonempty noMark]
        exact member
    · intro envelope old
      rw [log]
      exact List.mem_append_left _ old
    · rw [messages]
      exact replicates_upsertMessage distinct
        ((posted.rows client).mono kept) member shown _
    · rw [messages]
      refine forall_upsertMessage ?_ ?_ _
      · intro row within
        refine (posted.sent client row within).mono fun envelope old => ?_
        rw [log]
        exact List.mem_append_left _ old
      · intro row sameId sameState isMarked
        have isSent : message.deliveryState = .sentToServer := by
          rw [sameState] at isMarked
          cases state : message.deliveryState with
          | sentToServer => rfl
          | _ =>
              rw [state] at isMarked
              exact absurd isMarked (by decide)
        obtain ⟨envelope, isThere⟩ :=
          Option.ne_none_iff_exists'.mp (marked isSent)
        refine ⟨envelope, ?_, ?_⟩
        · rw [log, isThere]
          simp
        · rw [isAppended envelope isThere, sameId]
          exact shown.messageId.symm

/-- A poll takes up envelopes of the log. -/
theorem Posted.poll
    (nested : json.RoundTripsNested)
    (posted : Posted ledger system)
    (distinct : (ledger.map Posting.messageId).Nodup)
    (client : ι) (ui : UiState) (answers : EnvelopeDto → EnvelopeAnswers)
    (exchange : Exchange) :
    Posted ledger
      (systemStep json sodium sha256 toLower appDataPath system
        (.poll client ui answers exchange)).2 := by
  obtain ⟨sameServer, ⟨_, same⟩ | ⟨_, messages⟩⟩ := @pollStep_cases json
    system.server nested (fun envelope within => (posted.log envelope within).1)
    (system.clients client) ui answers exchange
  · apply posted.of_frame client (by rw [sameServer])
    · rw [same]
      exact posted.rows client
    · rw [same]
      exact posted.sent client
  · apply posted.of_frame client (by rw [sameServer])
    · rw [messages]
      exact replicates_applyEnvelopes distinct (posted.rows client) ui _
        answers fun envelope within => (posted.log envelope within).2
    · rw [messages]
      exact markedInLog_applyEnvelopes (posted.sent client) ui _ _

/-- An event keeps the invariant. -/
theorem Posted.step
    (roundTrips : json.RoundTrips) (nested : json.RoundTripsNested)
    (all : AllSound json sodium appDataPath passwords system)
    (posted : Posted ledger system) {event : SystemEvent ι}
    (readable : event.Readable json)
    (distinct :
      ((ledger ++ (system.posting json toLower event).toList).map
        Posting.messageId).Nodup) :
    Posted (ledger ++ (system.posting json toLower event).toList)
      (systemStep json sodium sha256 toLower appDataPath system
        event).2 := by
  have unposted : Posted (ledger ++ (none : Option Posting).toList) system := by
    rw [Option.toList_none, List.append_nil]
    exact posted
  cases event with
  | server event =>
      cases event with
      | forceUnauthorized value =>
          exact unposted.grown (fun _ member => member) unposted.log
            fun _ member => member
      | failNextSend value =>
          exact unposted.grown (fun _ member => member) unposted.log
            fun _ member => member
      | request request moment =>
          have kept : ∀ old ∈ ledger,
              old ∈ ledger ++ ((acceptedEnvelope json system.server request
                moment).map Posting.ofEnvelope).toList :=
            fun old member => List.mem_append_left _ member
          refine posted.grown kept ?_ ?_
          · intro envelope within
            rw [serverStep, handle_envelopes, List.mem_append] at within
            rcases within with old | new
            · exact ⟨(posted.log envelope old).1,
                kept _ (posted.log envelope old).2⟩
            · have accepted := Option.mem_toList.mp new
              refine ⟨isWritable_accepted all.server readable accepted, ?_⟩
              rw [List.mem_append, accepted]
              simp
          · intro envelope old
            rw [serverStep, handle_envelopes]
            exact List.mem_append_left _ old
  | initialized client serverBaseUrl vaultPassword outcome =>
      exact unposted.of_frame client rfl (unposted.rows client)
        (unposted.sent client)
  | call client call exchange =>
      obtain ⟨sameLog, sameTables⟩ := @callStep_frame json sodium sha256
        system.server (system.clients client) call exchange
      apply unposted.of_frame client sameLog
      · rw [sameTables]
        exact unposted.rows client
      · rw [sameTables]
        exact unposted.sent client
  | submit client conversationId text rules outcome exchange =>
      exact posted.submit roundTrips all readable distinct
  | poll client ui answers exchange =>
      rw [show system.posting json toLower (.poll client ui answers exchange)
        = none from rfl] at distinct
      exact unposted.poll nested distinct client ui answers exchange

end Invariant

/-! ## Runs -/

section Runs

variable {json : QJsonDocument} {sodium : Sodium}
  {sha256 : QByteArray → List.Vector UInt8 kSha256Bytes}
  {toLower : QString → QString} {appDataPath : QString}
  {ι : Type} [DecidableEq ι] {starts : ι → AppData}
  {passwords : ι → List QString}

theorem postings_append (first second : List (SystemEvent ι)) :
    ∃ more, postings json toLower sodium sha256 appDataPath starts
        (first ++ second) =
      postings json toLower sodium sha256 appDataPath starts first ++ more :=
  ⟨_, Machine.observed_append _ _ _⟩

/-- After every run of which the postings have distinct ids. -/
theorem posted_systemAfter
    (roundTrips : json.RoundTrips) (nested : json.RoundTripsNested)
    (correct : sodium.AeadCorrect)
    (committing : ∀ client, Committing sodium (passwords client))
    (noVault : ∀ client, (starts client).files (vaultPath appDataPath) = none)
    (noAccounts : ∀ client, (starts client).accounts = [])
    (device : ∀ client, IsUtf16 (starts client).deviceId)
    {events : List (SystemEvent ι)}
    (allowed : ∀ event ∈ events, event.Allowed passwords)
    (readable : ∀ event ∈ events, event.Readable json)
    (distinct :
      ((postings json toLower sodium sha256 appDataPath starts events).map
        Posting.messageId).Nodup) :
    Posted (postings json toLower sodium sha256 appDataPath starts events)
      (systemAfter json sodium sha256 toLower appDataPath starts events) := by
  induction events using List.reverseRecOn with
  | nil => exact posted_start starts
  | append_singleton earlier event inductionHypothesis =>
      have allowedEarlier : ∀ event ∈ earlier, event.Allowed passwords :=
        fun event member => allowed event (List.mem_append_left _ member)
      have all := @allSound_systemAfter json sodium sha256 toLower appDataPath
        ι passwords _ roundTrips nested correct committing starts noVault
        noAccounts device earlier allowedEarlier
      have ledger : postings json toLower sodium sha256 appDataPath starts
          (earlier ++ [event]) = _ := Machine.observed_concat _ _ _
      rw [ledger] at distinct ⊢
      have before := inductionHypothesis allowedEarlier
        (fun event member => readable event (List.mem_append_left _ member))
        (by
          rw [List.map_append] at distinct
          exact distinct.of_append_left)
      rw [systemAfter_append]
      exact before.step roundTrips nested all
        (readable event (List.mem_append_right _ (List.mem_singleton_self _)))
        distinct

/-! ## The log grows -/

theorem exchanged_log
    (server : FakeVoxServer) (network : NetworkAccess)
    (request : HttpRequest × QUrlQuery) (exchange : Exchange) :
    server.m_envelopes <+:
      (exchanged json server network request exchange).2.m_envelopes := by
  have handled : server.m_envelopes <+:
      (server.handle json (serverRequest network request.1 request.2)
        exchange.moment).2.m_envelopes := by
    rw [handle_envelopes]
    exact List.prefix_append _ _
  obtain ⟨moment, delivered | errorMessage | errorMessage⟩ := exchange
  · exact handled
  · exact List.prefix_rfl
  · exact handled

theorem systemStep_log (system : System ι) (event : SystemEvent ι) :
    system.server.m_envelopes <+:
      (systemStep json sodium sha256 toLower appDataPath system
        event).2.server.m_envelopes := by
  cases event with
  | server event =>
      cases event with
      | request request moment =>
          rw [systemStep, serverStep, handle_envelopes]
          exact List.prefix_append _ _
      | forceUnauthorized value => exact List.prefix_rfl
      | failNextSend value => exact List.prefix_rfl
  | initialized client serverBaseUrl vaultPassword outcome =>
      exact List.prefix_rfl
  | call client call exchange =>
      change _ <+: (callStep json sodium sha256 system.server
        (system.clients client) call exchange).2.1.m_envelopes
      exact ⟨[], by
        rw [(@callStep_frame json sodium sha256 _ _ _ _).1, List.append_nil]⟩
  | submit client conversationId text rules outcome exchange =>
      change _ <+: (submitStep json toLower system.server
        (system.clients client) conversationId text rules outcome
        exchange).2.1.m_envelopes
      rw [submitStep]
      dsimp only
      split
      · exact exchanged_log _ _ _ _
      · exact List.prefix_rfl
  | poll client ui answers exchange =>
      change _ <+: (pollStep json system.server (system.clients client) ui
        answers exchange).2.1.m_envelopes
      rw [pollStep]
      split
      · exact List.prefix_rfl
      dsimp only
      split
      · exact exchanged_log _ _ _ _
      · exact exchanged_log _ _ _ _

/-- Nothing is ever taken out of the log or moved in it. -/
theorem systemAfter_log (earlier later : List (SystemEvent ι)) :
    (systemAfter json sodium sha256 toLower appDataPath starts
        earlier).server.m_envelopes <+:
      (systemAfter json sodium sha256 toLower appDataPath starts
        (earlier ++ later)).server.m_envelopes := by
  rw [systemAfter_append]
  apply Machine.run_invariant (fun reached : System ι =>
    (systemAfter json sodium sha256 toLower appDataPath starts
      earlier).server.m_envelopes <+: reached.server.m_envelopes)
  · exact fun reached event grown => grown.trans (systemStep_log reached event)
  · exact List.prefix_rfl

/-- A table that takes up envelopes has all of them. -/
theorem exists_row_applyEnvelopes
    (ui : UiState) (auth : Option AuthContext)
    {answers : EnvelopeDto → EnvelopeAnswers}
    (stored : ∀ envelope, (answers envelope).upserted = true)
    {envelopes : List Envelope} (table : MessageTable)
    {messageId : QString}
    (present : messageId ∈ table.rows.map MessageRow.messageId ∨
      ∃ envelope ∈ envelopes, envelope.envelopeId = messageId) :
    messageId ∈
      (applyEnvelopes ui auth table
        (envelopes.map fun envelope =>
          arrivalOf answers envelope.listed.toEnvelopeDto)).rows.map
        MessageRow.messageId := by
  induction envelopes generalizing table with
  | nil =>
      rcases present with there | ⟨_, absent, _⟩
      · exact there
      · contradiction
  | cons envelope envelopes inductionHypothesis =>
      let message := appliedMessage ui auth
        (arrivalOf answers envelope.listed.toEnvelopeDto)
      have upserted : applyEnvelope ui auth table
          (arrivalOf answers envelope.listed.toEnvelopeDto) =
            (MessagesRepository.upsertMessage table message true).2 := by
        rw [applyEnvelope, arrivalOf, stored]
        rfl
      have keys : ∀ wanted,
          wanted ∈ (MessagesRepository.upsertMessage table message
              true).2.rows.map MessageRow.messageId ↔
            wanted ∈ table.rows.map MessageRow.messageId ∨
              wanted = envelope.envelopeId :=
        fun wanted => Table.mem_keys_upsertRows
          MessagesRepository.keepsKey_updateRow table.rows
          (MessagesRepository.rowOf message)
      apply inductionHypothesis
      rw [upserted, keys]
      rcases present with there | ⟨found, within, named⟩
      · exact Or.inl (Or.inl there)
      · rcases List.mem_cons.mp within with rfl | within
        · exact Or.inl (Or.inr named.symm)
        · exact Or.inr ⟨found, within, named⟩

/-- A poll that is applied brings the whole log. -/
theorem poll_brings_log
    {ledger : List Posting} {system : System ι}
    (nested : json.RoundTripsNested) (posted : Posted ledger system)
    {client : ι} {ui : UiState} {answers : EnvelopeDto → EnvelopeAnswers}
    {exchange : Exchange}
    (stored : ∀ envelope, (answers envelope).upserted = true)
    (applied :
      (systemStep json sodium sha256 toLower appDataPath system
        (.poll client ui answers exchange)).1.applied = true)
    {envelope : Envelope} (inLog : envelope ∈ system.server.m_envelopes) :
    ∃ row ∈ ((systemStep json sodium sha256 toLower appDataPath system
        (.poll client ui answers exchange)).2.clients
          client).tables.messages.rows,
      row.messageId = envelope.envelopeId := by
  obtain ⟨_, ⟨notApplied, _⟩ | ⟨_, messages⟩⟩ := @pollStep_cases json
    system.server nested (fun envelope within => (posted.log envelope within).1)
    (system.clients client) ui answers exchange
  · exact absurd (applied.symm.trans notApplied) (by simp)
  have present := exists_row_applyEnvelopes ui
    (system.clients client).locator.context stored
    (system.clients client).tables.messages (Or.inr ⟨envelope, inLog, rfl⟩)
  rw [← messages] at present
  obtain ⟨row, within, named⟩ := List.mem_map.mp present
  refine ⟨row, ?_, named⟩
  rw [systemStep, ofClient_clients_self]
  exact within

end Runs

/-! ## Results -/

/-- Over every run whose postings have distinct ids: the log has postings
only, under the users who have posted them, every message of every client is a
posting with its text, and two clients that have a message of one id have the
same conversation, device and text for it. -/
theorem messages_show_what_was_posted
    {ι : Type} [DecidableEq ι]
    (json : QJsonDocument)
    (sodium : Sodium)
    (sha256 : QByteArray → List.Vector UInt8 kSha256Bytes)
    (toLower : QString → QString)
    (appDataPath : QString)
    (starts : ι → AppData)
    (passwords : ι → List QString)
    (events : List (SystemEvent ι))
    (roundTrips : json.RoundTrips)
    (nested : json.RoundTripsNested)
    (correct : sodium.AeadCorrect)
    (committing : ∀ client, Committing sodium (passwords client))
    (noVault : ∀ client, (starts client).files (vaultPath appDataPath) = none)
    (noAccounts : ∀ client, (starts client).accounts = [])
    (device : ∀ client, IsUtf16 (starts client).deviceId)
    (allowed : ∀ event ∈ events, event.Allowed passwords)
    (readable : ∀ event ∈ events, event.Readable json)
    (distinct :
      ((postings json toLower sodium sha256 appDataPath starts events).map
        Posting.messageId).Nodup) :
    let ledger :=
      postings json toLower sodium sha256 appDataPath starts events
    let system :=
      systemAfter json sodium sha256 toLower appDataPath starts events
    (∀ envelope ∈ system.server.m_envelopes,
        Posting.ofEnvelope envelope ∈ ledger) ∧
      (∀ client, ∀ row ∈ (system.clients client).tables.messages.rows,
        ∃ posting ∈ ledger, Shows row posting) ∧
      ∀ client other,
        ∀ row ∈ (system.clients client).tables.messages.rows,
          ∀ otherRow ∈ (system.clients other).tables.messages.rows,
            row.messageId = otherRow.messageId →
              row.conversationId = otherRow.conversationId ∧
                row.senderDeviceId = otherRow.senderDeviceId ∧
                row.plaintextCacheCiphertext =
                  otherRow.plaintextCacheCiphertext := by
  intro ledger system
  have posted : Posted ledger system :=
    posted_systemAfter roundTrips nested correct committing noVault noAccounts
      device allowed readable distinct
  refine ⟨fun envelope within => (posted.log envelope within).2,
    posted.rows, ?_⟩
  intro client other row within otherRow otherWithin sameId
  obtain ⟨posting, _, shown, otherShown⟩ := (posted.rows client).agree
    keyed_shows distinct (posted.rows other) within otherWithin sameId
  exact ⟨shown.conversationId.trans otherShown.conversationId.symm,
    shown.senderDeviceId.trans otherShown.senderDeviceId.symm,
    shown.text.trans otherShown.text.symm⟩

section Examples

open ReferenceSystem

/-- Alice has submitted a text, and Bob has polled. -/
def talking : List (SystemEvent Bool) := registered ++ [submitting, polling]

theorem allowed_talking :
    ∀ event ∈ talking, event.Allowed fun _ => [ReferenceVault.password] :=
  allowed_of_forall (by simp [talking, registered, signingUp])

theorem readable_talking :
    ∀ event ∈ talking, event.Readable ReferenceNestedJson.json := by
  have text : ∀ text : String, IsAsciiText (QString.literal text) →
      IsUtf16 (QString.literal text) := fun _ ascii => ascii.isUtf16
  intro event member
  simp only [talking, registered, signingUp, List.cons_append,
    List.nil_append, List.mem_cons, List.not_mem_nil, or_false] at member
  rcases member with rfl | rfl | rfl | rfl | rfl | rfl
  · trivial
  · trivial
  · trivial
  · trivial
  · exact ⟨by decide, text _ (by decide), text _ (by decide), by decide,
      text _ (by decide), by decide⟩
  · trivial

theorem postings_talking :
    postings ReferenceNestedJson.json id ReferenceSodium.sodium
        ReferenceService.sha256 []
        (fun _ => ReferenceApplication.emptyData) talking =
      [⟨QString.literal "e1", QString.literal "c1", QString.literal "usr_1",
        QString.literal "dev_desktop", toUtf8 (QString.literal "hi")⟩] := by
  decide +kernel

/-- Bob has the message of Alice and nothing else. -/
theorem bob_has_message_of_alice :
    ((ReferenceSystem.systemAfter talking).clients
        true).tables.messages.rows.length = 1 ∧
      ∀ row ∈ ((ReferenceSystem.systemAfter talking).clients
          true).tables.messages.rows,
        row.plaintextCacheCiphertext = toUtf8 (QString.literal "hi") := by
  have one : ((ReferenceSystem.systemAfter talking).clients
      true).tables.messages.rows.length = 1 := by decide +kernel
  have distinct : ((postings ReferenceNestedJson.json id
      ReferenceSodium.sodium ReferenceService.sha256 []
      (fun _ : Bool => ReferenceApplication.emptyData) talking).map
        Posting.messageId).Nodup := by
    rw [postings_talking]
    exact List.nodup_singleton _
  refine ⟨one, ?_⟩
  rw [ReferenceSystem.systemAfter]
  intro row within
  obtain ⟨posting, member, shown⟩ := (messages_show_what_was_posted
    ReferenceNestedJson.json ReferenceSodium.sodium ReferenceService.sha256
    id [] (fun _ : Bool => ReferenceApplication.emptyData)
    (fun _ => [ReferenceVault.password]) talking
    ReferenceNestedJson.json_roundTrips
    ReferenceNestedJson.json_roundTripsNested
    ReferenceSodium.sodium_aeadCorrect
    (fun _ => @committing_of_forall_eq _ _ ReferenceVault.password
      fun other member => List.mem_singleton.mp member)
    (fun _ => rfl) (fun _ => rfl)
    (fun _ => IsAsciiText.isUtf16 (by decide))
    allowed_talking readable_talking distinct).2.1 true row within
  rw [postings_talking, List.mem_singleton] at member
  rw [shown.text, member]

end Examples

/-- Over every run whose postings have distinct ids: when a message is marked
as sent at one client, then every poll of any client that is applied later, and
whose messages can be stored, leaves there a message of the same id with the
same conversation, device and text. -/
theorem sent_message_reaches_polls
    {ι : Type} [DecidableEq ι]
    (json : QJsonDocument)
    (sodium : Sodium)
    (sha256 : QByteArray → List.Vector UInt8 kSha256Bytes)
    (toLower : QString → QString)
    (appDataPath : QString)
    (starts : ι → AppData)
    (passwords : ι → List QString)
    (earlier later : List (SystemEvent ι))
    (sender receiver : ι)
    (row : MessageRow)
    (ui : UiState)
    (answers : EnvelopeDto → EnvelopeAnswers)
    (exchange : Exchange)
    (roundTrips : json.RoundTrips)
    (nested : json.RoundTripsNested)
    (correct : sodium.AeadCorrect)
    (committing : ∀ client, Committing sodium (passwords client))
    (noVault : ∀ client, (starts client).files (vaultPath appDataPath) = none)
    (noAccounts : ∀ client, (starts client).accounts = [])
    (device : ∀ client, IsUtf16 (starts client).deviceId)
    (allowed : ∀ event ∈ earlier ++ later, event.Allowed passwords)
    (readable : ∀ event ∈ earlier ++ later, event.Readable json)
    (distinct :
      ((postings json toLower sodium sha256 appDataPath starts
        (earlier ++ later)).map Posting.messageId).Nodup)
    (within :
      row ∈ ((systemAfter json sodium sha256 toLower appDataPath starts
        earlier).clients sender).tables.messages.rows)
    (marked : row.deliveryState = sentMark)
    (stored : ∀ envelope, (answers envelope).upserted = true) :
    let polled :=
      systemStep json sodium sha256 toLower appDataPath
        (systemAfter json sodium sha256 toLower appDataPath starts
          (earlier ++ later))
        (.poll receiver ui answers exchange)
    polled.1.applied = true →
      ∃ received ∈ (polled.2.clients receiver).tables.messages.rows,
        received.messageId = row.messageId ∧
          received.conversationId = row.conversationId ∧
          received.senderDeviceId = row.senderDeviceId ∧
          received.plaintextCacheCiphertext =
            row.plaintextCacheCiphertext := by
  intro polled applied
  obtain ⟨more, ledger⟩ := @postings_append json sodium sha256 toLower
    appDataPath ι _ starts earlier later
  have distinctEarlier : ((postings json toLower sodium sha256 appDataPath
      starts earlier).map Posting.messageId).Nodup := by
    rw [ledger, List.map_append] at distinct
    exact distinct.of_append_left
  have postedEarlier := @posted_systemAfter json sodium sha256 toLower
    appDataPath ι _ starts passwords roundTrips nested correct committing
    noVault noAccounts device earlier
    (fun event member => allowed event (List.mem_append_left _ member))
    (fun event member => readable event (List.mem_append_left _ member))
    distinctEarlier
  have posted := @posted_systemAfter json sodium sha256 toLower appDataPath ι
    _ starts passwords roundTrips nested correct committing noVault noAccounts
    device (earlier ++ later) allowed readable distinct
  obtain ⟨envelope, inLog, named⟩ :=
    postedEarlier.sent sender row within marked
  have stillInLog := (@systemAfter_log json sodium sha256 toLower appDataPath
    ι _ starts earlier later).subset inLog
  obtain ⟨received, isThere, sameId⟩ :=
    poll_brings_log nested posted stored applied stillInLog
  have postedAfter := @Posted.poll json sodium sha256 toLower appDataPath ι _
    _ _ nested posted distinct receiver ui answers exchange
  -- Both rows show one posting.
  have rowsEarlier := (postedEarlier.rows sender).mono
    fun posting member => ledger ▸ List.mem_append_left more member
  obtain ⟨posting, _, shown, receivedShown⟩ := rowsEarlier.agree keyed_shows
    distinct (postedAfter.rows receiver) within isThere
    (named.symm.trans sameId.symm)
  exact ⟨received, isThere, sameId.trans named,
    receivedShown.conversationId.trans shown.conversationId.symm,
    receivedShown.senderDeviceId.trans shown.senderDeviceId.symm,
    receivedShown.text.trans shown.text.symm⟩

section Examples

open ReferenceSystem

theorem submitting_marks_as_sent :
    ((ReferenceSystem.systemAfter
      (registered ++ [submitting])).clients false).tables.messages.rows.map
        MessageRow.deliveryState = [sentMark] := by
  decide +kernel

theorem polling_is_applied :
    (systemStep ReferenceNestedJson.json ReferenceSodium.sodium
      ReferenceService.sha256 id []
      (ReferenceSystem.systemAfter (registered ++ [submitting]))
      polling).1.applied = true := by
  decide +kernel

theorem postings_submitting :
    (postings ReferenceNestedJson.json id ReferenceSodium.sodium
      ReferenceService.sha256 []
      (fun _ : Bool => ReferenceApplication.emptyData)
      (registered ++ [submitting])).map Posting.messageId =
        [QString.literal "e1"] := by
  decide +kernel

/-- The message of Alice, which is marked as sent, reaches Bob. -/
theorem message_of_alice_reaches_bob :
    ∃ row ∈ ((ReferenceSystem.systemAfter
        (registered ++ [submitting])).clients false).tables.messages.rows,
      ∃ received ∈
          ((systemStep ReferenceNestedJson.json ReferenceSodium.sodium
            ReferenceService.sha256 id []
            (ReferenceSystem.systemAfter (registered ++ [submitting]))
            polling).2.clients true).tables.messages.rows,
        received.plaintextCacheCiphertext =
          row.plaintextCacheCiphertext := by
  have same : polling = .poll true ⟨[], false⟩ answers delivered := rfl
  have sent := submitting_marks_as_sent
  have applied := polling_is_applied
  rw [ReferenceSystem.systemAfter] at sent applied ⊢
  rw [same] at applied ⊢
  obtain ⟨row, within, marked⟩ :=
    List.mem_map.mp (sent.symm ▸ List.mem_singleton_self sentMark)
  have among : ∀ event ∈ registered ++ [submitting], event ∈ talking := by
    intro event member
    rw [talking, List.append_cons]
    exact List.mem_append_left _ member
  have reaches := sent_message_reaches_polls
    ReferenceNestedJson.json ReferenceSodium.sodium ReferenceService.sha256
    id [] (fun _ : Bool => ReferenceApplication.emptyData)
    (fun _ => [ReferenceVault.password]) (registered ++ [submitting]) []
    false true row ⟨[], false⟩ answers delivered
    ReferenceNestedJson.json_roundTrips
    ReferenceNestedJson.json_roundTripsNested
    ReferenceSodium.sodium_aeadCorrect
    (fun _ => @committing_of_forall_eq _ _ ReferenceVault.password
      fun other member => List.mem_singleton.mp member)
    (fun _ => rfl) (fun _ => rfl)
    (fun _ => IsAsciiText.isUtf16 (by decide))
  rw [List.append_nil] at reaches
  obtain ⟨received, isReceived, _, _, _, sameText⟩ := reaches
    (fun event member => allowed_talking event (among event member))
    (fun event member => readable_talking event (among event member))
    (by rw [postings_submitting]; exact List.nodup_singleton _)
    within marked (fun _ => rfl) applied
  exact ⟨row, within, received, isReceived, sameText⟩

end Examples

end Integration
end VoxDesktop
