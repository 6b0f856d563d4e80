import VoxDesktop.Integration.Blobs
import VoxDesktop.Integration.SessionRuns
import VoxDesktop.Qt.ReferenceNestedJson

/-!
# The directory of the server

The routes below `/v1/users/` and what `DirectoryApi` reads of their answers.
Over every run the directory is what has been registered: it lists each
registration once, knows each by its name, and has one device for each.
-/

namespace VoxDesktop
namespace Integration

open Library Qt Network FakeVoxServer

/-! ## Routes -/

theorem trimQuery_append_of_plain
    {start : QString} (plain : (0x3F : UInt16) ∉ start) (rest : QString) :
    trimQuery (start ++ rest) = start ++ trimQuery rest := by
  unfold trimQuery
  induction start with
  | nil => rfl
  | cons unit start inductionHypothesis =>
      rw [List.mem_cons, not_or] at plain
      rw [List.cons_append, upTo, if_neg (by simp [List.isPrefixOf, plain.1]),
        inductionHypothesis plain.2, List.cons_append]

/-- Of two texts, neither the start of the other, one starts with neither when
it starts with the other. -/
theorem isPrefixOf_append_eq_false
    {first second : QString} (rest : QString)
    (different : first.isPrefixOf second = false)
    (otherwise : second.isPrefixOf first = false) :
    first.isPrefixOf (second ++ rest) = false := by
  rw [Bool.eq_false_iff] at different otherwise ⊢
  rw [ne_eq, List.isPrefixOf_iff_prefix] at different otherwise ⊢
  intro starts
  rcases List.prefix_or_prefix_of_prefix starts (List.prefix_append _ _) with
    within | within
  · exact different within
  · exact otherwise within

/-- A text that starts with one text is none that does not. -/
theorem append_ne_of_isPrefixOf
    {start other : QString} (rest : QString)
    (different : start.isPrefixOf other = false) :
    start ++ rest ≠ other := by
  rintro rfl
  rw [List.isPrefixOf_iff_prefix.mpr (List.prefix_append _ _)] at different
  contradiction

section Routes

variable {json : QJsonDocument} {server : FakeVoxServer}
  {network : NetworkAccess} {request : ServerRequest} {moment : Moment}

/-- Below `/v1/users/`, a session is needed and three routes are answered. -/
theorem handle_usersRoute
    {route : QString} (isRoute : trimQuery request.path = route)
    (below : usersPrefix.isPrefixOf route)
    (isGet : request.method = QString.literal "GET") :
    server.handle json request moment =
      if server.authUserFromHeaders request.headers = [] then
        (unauthorized json, server)
      else if byUsernamePrefix.isPrefixOf route then
        (server.handleByUsername json route, server)
      else if route = QString.literal "/v1/users/search" then
        (server.handleSearch json moment, server)
      else if usersPrefix.isPrefixOf route ∧
          devicesSuffix.isSuffixOf route then
        (server.handleDevices json moment route, server)
      else (notFound json, server) := by
  have different : ∀ {other : QString},
      usersPrefix.isPrefixOf other = false → route ≠ other := by
    rintro _ isNone rfl
    rw [isNone] at below
    contradiction
  have notBelow : ∀ {other : QString},
      other.isPrefixOf usersPrefix = false →
        usersPrefix.isPrefixOf other = false →
          ¬other.isPrefixOf route := by
    intro other isNone isOther starts
    obtain ⟨rest, rfl⟩ := List.isPrefixOf_iff_prefix.mp below
    rw [isPrefixOf_append_eq_false rest isNone isOther] at starts
    contradiction
  have noAttachment : ¬attachmentsPrefix.isPrefixOf route :=
    notBelow (by decide) (by decide)
  have noRecord : ¬recordsPrefix.isPrefixOf route :=
    notBelow (by decide) (by decide)
  have notPost : request.method ≠ QString.literal "POST" := by
    rw [isGet]
    decide
  rw [handle_of_notMem_openRoutes (isRoute ▸
    notMem_openRoutes_of_isPrefixOf below (by decide)), isRoute]
  refine if_congr Iff.rfl rfl ?_
  unfold handleSession
  dsimp only
  iterate 4 rw [if_neg fun facts => different (by decide) facts.1]
  rw [if_neg fun facts => notPost facts.2,
    if_neg fun facts => noAttachment facts.1,
    if_neg fun facts => noAttachment facts.1,
    if_neg fun facts => noAttachment facts.1]
  refine if_congr (and_iff_left isGet) rfl ?_
  refine if_congr (and_iff_left isGet) rfl ?_
  refine if_congr (and_congr_right fun _ => and_iff_left isGet) rfl ?_
  iterate 3 rw [if_neg fun facts => different (by decide) facts.1]
  rw [if_neg fun facts => noRecord facts.1]

/-- The account that the server knows by the name in a path: what follows a
question mark is no part of it. -/
def namedAccount (server : FakeVoxServer) (username : QString) :
    Option AccountState :=
  server.m_usersByUsername.lookup (trimQuery username)

/-- The answer to the lookup of a name. -/
def namedResponse
    (json : QJsonDocument) (server : FakeVoxServer) (username : QString) :
    NetworkResponse :=
  match namedAccount server username with
  | some account => okResponse json (userObject account)
  | none => notFound json

/-- A user is looked up by a name. -/
theorem handle_userByUsername (username : QString) :
    let get := DirectoryApi.userByUsernameRequest network username
    server.handle json (serverRequest network get.1 get.2) moment =
      if server.authUserFromHeaders get.1.headers = [] then
        (unauthorized json, server)
      else (namedResponse json server username, server) := by
  intro get
  have isRequest : serverRequest network get.1 get.2 =
      ⟨QString.literal "GET", byUsernamePrefix ++ username, [],
        get.1.headers⟩ :=
    serverRequest_execute network rfl _ _ _
  have isRoute : trimQuery (byUsernamePrefix ++ username) =
      byUsernamePrefix ++ trimQuery username :=
    trimQuery_append_of_plain (by decide) _
  have named : byUsernamePrefix.isPrefixOf
      (byUsernamePrefix ++ trimQuery username) = true :=
    List.isPrefixOf_iff_prefix.mpr (List.prefix_append _ _)
  have below : usersPrefix.isPrefixOf
      (byUsernamePrefix ++ trimQuery username) = true := by
    apply List.isPrefixOf_iff_prefix.mpr
    exact (List.isPrefixOf_iff_prefix.mp (show usersPrefix.isPrefixOf
      byUsernamePrefix by decide)).trans (List.prefix_append _ _)
  rw [isRequest, handle_usersRoute isRoute below rfl]
  refine if_congr Iff.rfl rfl ?_
  rw [if_pos named, handleByUsername, List.drop_left]
  rfl

/-- Users are searched for: all are found. -/
theorem handle_searchUsers (query : QString) (limit : ℤ) :
    let get := DirectoryApi.searchUsersRequest network query limit
    server.handle json (serverRequest network get.1 get.2) moment =
      if server.authUserFromHeaders get.1.headers = [] then
        (unauthorized json, server)
      else (server.handleSearch json moment, server) := by
  intro get
  have isRequest : serverRequest network get.1 get.2 =
      ⟨QString.literal "GET",
        QString.literal "/v1/users/search" ++ 0x3F :: queryString get.2, [],
        get.1.headers⟩ :=
    serverRequest_execute_query network rfl _ _ _ (List.cons_ne_nil _ _)
  have isRoute : trimQuery (QString.literal "/v1/users/search" ++
      0x3F :: queryString get.2) = QString.literal "/v1/users/search" :=
    trimQuery_append (by decide) _
  rw [isRequest, handle_usersRoute isRoute (by decide) rfl]
  refine if_congr Iff.rfl rfl ?_
  rw [if_neg (by decide), if_pos rfl]

theorem slash_notMem_userIdOf (number : ℕ) :
    (0x2F : UInt16) ∉ userIdOf number := by
  rw [userIdOf, List.mem_append, not_or]
  exact ⟨by decide, notMem_number number (Or.inl (by decide))⟩

/-- The devices of a user that the server has numbered. -/
theorem handle_userDevices (number : ℕ) :
    let get := DirectoryApi.userDevicesRequest network (userIdOf number)
    server.handle json (serverRequest network get.1 get.2) moment =
      if server.authUserFromHeaders get.1.headers = [] then
        (unauthorized json, server)
      else
        (okResponse json
          [(QString.literal "devices",
            .array
              (((server.iteratedAccounts moment).filter fun account =>
                account.userId = userIdOf number).map fun account =>
                  .object (deviceObject account)))], server) := by
  intro get
  let route := usersPrefix ++ userIdOf number ++ devicesSuffix
  have isRequest : serverRequest network get.1 get.2 =
      ⟨QString.literal "GET", route, [], get.1.headers⟩ :=
    serverRequest_execute network rfl _ _ _
  have plain : (0x3F : UInt16) ∉ route := by
    simp only [route, userIdOf, List.mem_append, not_or]
    exact ⟨⟨by decide, by decide, notMem_number number (by decide)⟩,
      by decide⟩
  have isRoute : trimQuery route = route := trimQuery_of_not_mem plain
  have rooted : route = usersPrefix ++ (userIdOf number ++ devicesSuffix) :=
    List.append_assoc _ _ _
  have below : usersPrefix.isPrefixOf route = true := by
    rw [rooted]
    exact List.isPrefixOf_iff_prefix.mpr (List.prefix_append _ _)
  have listed : route = QString.literal "/v1/users/usr_" ++
      (QString.number number ++ devicesSuffix) := by
    rw [rooted, userIdOf, List.append_assoc, ← List.append_assoc usersPrefix]
    rfl
  have noName : byUsernamePrefix.isPrefixOf route = false := by
    rw [listed]
    exact isPrefixOf_append_eq_false _ (by decide) (by decide)
  have noSearch : route ≠ QString.literal "/v1/users/search" := by
    rw [listed]
    exact append_ne_of_isPrefixOf _ (by decide)
  have ofDevices : devicesSuffix.isSuffixOf route = true :=
    List.isSuffixOf_iff_suffix.mpr (List.suffix_append _ _)
  have named : upTo devicesSuffix (route.drop usersPrefix.length) =
      userIdOf number := by
    rw [rooted, List.drop_left]
    exact upTo_append (slash_notMem_userIdOf number)
  rw [isRequest, handle_usersRoute isRoute below rfl]
  refine if_congr Iff.rfl rfl ?_
  rw [if_neg (by simp [noName]), if_neg noSearch, if_pos ⟨below, ofDevices⟩,
    handleDevices, named]

end Routes

/-! ## Answers as the client reads them -/

/-- The user of an account, as the directory lists it. -/
def AccountState.listed (account : AccountState) : DirectoryUser :=
  ⟨account.userId, account.username⟩

/-- The device of an account, as the directory lists it. -/
def AccountState.device (account : AccountState) : DeviceDirectoryEntry where
  deviceId := account.deviceId
  deviceLabel := QString.literal "Desktop"
  identityKeyPublic := QString.literal "idpk"
  signedPrekeyPublic := QString.literal "spk"
  signedPrekeySignature := QString.literal "sig"

/-- An account whose texts are written without loss. -/
structure AccountState.IsWritable (account : AccountState) : Prop where
  username : IsUtf16 account.username
  deviceId : IsUtf16 account.deviceId

section Readings

variable {json : QJsonDocument}

/-- An object of texts under distinct names. -/
theorem composed_texts
    {object : QJsonObject} (distinct : object.keys.Nodup)
    (named : ∀ key ∈ object.keys, IsAsciiText key)
    (texts : ∀ member ∈ object, ∃ text, member.2 = .string text ∧
      IsUtf16 text) :
    Composed IsWritable 1 (.object object) := by
  refine .object distinct
    (fun key member => .string (named key member).isUtf16) ?_
  intro member within
  obtain ⟨text, isText, wellFormed⟩ := texts member within
  rw [isText]
  exact .leaf (.string wellFormed)

/-- A listing of objects is read entry by entry. -/
theorem accepted_listing
    (nested : json.RoundTripsNested) {α β : Type} {field : String}
    (ascii : IsAsciiText (QString.literal field))
    {parser : QJsonObject → Option β} {made : α → QJsonObject}
    {read : α → β} {elements : List α} (invalid : String)
    (composed : ∀ element ∈ elements,
      Composed IsWritable 1 (.object (made element)))
    (parsed : ∀ element ∈ elements,
      parser (made element).sorted = some (read element)) :
    (ConversationsApi.parseResult json (fun object =>
        (object.value (QString.literal field)).toArray.mapM fun item =>
          parser item.toObject) invalid
      (okResponse json [(QString.literal field,
        .array (elements.map fun element =>
          .object (made element)))])).accepted =
      some (elements.map read) := by
  let object : QJsonObject := [(QString.literal field,
    .array (elements.map fun element => .object (made element)))]
  have distinct : object.keys.Nodup := List.nodup_singleton _
  have shallow : Composed IsWritable 3 (.object object) := by
    refine .object distinct ?_ ?_
    · intro key member
      rw [List.mem_singleton.mp member]
      exact .string ascii.isUtf16
    · intro member within
      rw [List.mem_singleton.mp within]
      refine .array fun element included => ?_
      obtain ⟨source, present, rfl⟩ := List.mem_map.mp included
      exact composed source present
  have whole : Composed IsWritable kNestingLimit (.object object) :=
    shallow.mono (by decide)
  have entries : (object.sorted.value
      (QString.literal field)).toArray.mapM (fun item =>
        parser item.toObject) = some (elements.map read) := by
    rw [QJsonObject.value_sorted distinct, QJsonValue.toArray_sorted,
      QJsonObject.value_of_mem distinct (List.mem_singleton_self _)]
    dsimp only [QJsonValue.toArray]
    rw [List.map_map]
    apply mapM_map_eq_some
    intro element present
    rw [Function.comp_apply, QJsonValue.toObject_sorted]
    exact parsed element present
  have success : (okResponse json object).ok = true := rfl
  rw [ConversationsApi.parseResult, JsonCodec.parseObject]
  rw [show json.parse (okResponse json object).body = _ from nested _ whole]
  dsimp only
  rw [if_pos success, ApiResult.accepted, entries]
  rfl

/-- An object is read. -/
theorem accepted_object
    (nested : json.RoundTripsNested) {β : Type} {object : QJsonObject}
    {parser : QJsonObject → Option β} {result : β} (invalid : String)
    (composed : Composed IsWritable 1 (.object object))
    (parsed : parser object.sorted = some result) :
    (ConversationsApi.parseResult json parser invalid
      (okResponse json object)).accepted = some result := by
  have success : (okResponse json object).ok = true := rfl
  rw [ConversationsApi.parseResult, JsonCodec.parseObject]
  rw [show json.parse (okResponse json object).body = _ from
    nested _ (composed.mono (by decide))]
  dsimp only
  rw [if_pos success, ApiResult.accepted, parsed]
  rfl

section Objects

variable {account : AccountState}

theorem keys_userObject (account : AccountState) :
    (userObject account).keys =
      [QString.literal "user_id", QString.literal "username"] := rfl

theorem composed_userObject
    (userId : IsUtf16 account.userId) (username : IsUtf16 account.username) :
    Composed IsWritable 1 (.object (userObject account)) := by
  apply composed_texts
  · rw [keys_userObject]
    decide
  · rw [keys_userObject]
    decide
  · simp only [userObject, List.forall_mem_cons, List.not_mem_nil,
      false_implies, implies_true, and_true, stringMember]
    exact ⟨⟨_, rfl, userId⟩, ⟨_, rfl, username⟩⟩

theorem parseDirectoryUser_userObject (account : AccountState) :
    parseDirectoryUser (userObject account).sorted = some account.listed := by
  have distinct : (userObject account).keys.Nodup := by
    rw [keys_userObject]
    decide
  rw [parseDirectoryUser, getString_sorted distinct,
    getString_of_mem distinct (.head _), getString_sorted distinct,
    getString_of_mem distinct (.tail _ (.head _))]
  rfl

theorem keys_deviceObject (account : AccountState) :
    (deviceObject account).keys =
      [QString.literal "device_id", QString.literal "device_label",
        QString.literal "identity_key_public",
        QString.literal "signed_prekey_public",
        QString.literal "signed_prekey_signature"] := rfl

theorem composed_deviceObject (writable : account.IsWritable) :
    Composed IsWritable 1 (.object (deviceObject account)) := by
  apply composed_texts
  · rw [keys_deviceObject]
    decide
  · rw [keys_deviceObject]
    decide
  · simp only [deviceObject, List.forall_mem_cons, List.not_mem_nil,
      false_implies, implies_true, and_true, stringMember]
    exact ⟨⟨_, rfl, writable.deviceId⟩,
      ⟨_, rfl, IsAsciiText.isUtf16 (by decide)⟩,
      ⟨_, rfl, IsAsciiText.isUtf16 (by decide)⟩,
      ⟨_, rfl, IsAsciiText.isUtf16 (by decide)⟩,
      ⟨_, rfl, IsAsciiText.isUtf16 (by decide)⟩⟩

theorem parseDeviceDirectoryEntry_deviceObject (account : AccountState) :
    parseDeviceDirectoryEntry (deviceObject account).sorted =
      some account.device := by
  have distinct : (deviceObject account).keys.Nodup := by
    rw [keys_deviceObject]
    decide
  have text : ∀ (field : String) (text : QString),
      stringMember field text ∈ deviceObject account →
        getString (deviceObject account).sorted field = some text :=
    fun field text within => (getString_sorted distinct field).trans
      (getString_of_mem distinct within)
  have label : ((deviceObject account).sorted.value
      (QString.literal "device_label")).toString =
        QString.literal "Desktop" := by
    rw [QJsonObject.value_sorted distinct, QJsonValue.toString_sorted,
      QJsonObject.value_of_mem distinct (.tail _ (.head _))]
    rfl
  rw [parseDeviceDirectoryEntry, text _ _ (.head _),
    text _ _ (.tail _ (.tail _ (.head _))),
    text _ _ (.tail _ (.tail _ (.tail _ (.head _)))),
    text _ _ (.tail _ (.tail _ (.tail _ (.tail _ (.head _)))))]
  simp only [Option.bind_eq_bind, Option.bind_some, label]
  rfl

end Objects

end Readings

/-! ## The accounts as a list -/

section Tables

variable {hash : QHash AccountState} {name : QString}
  {account found : AccountState}

theorem values_insert_of_free (free : hash.lookup name = none) :
    QHash.values (hash.insert name account) = account :: hash.values := by
  have fresh : name ∉ hash := AList.lookup_eq_none.mp free
  rw [QHash.values, AList.entries_insert_of_notMem fresh]
  rfl

/-- An account that is replaced by one that is listed alike. -/
theorem listed_insert_of_found
    (there : hash.lookup name = some found)
    (alike : account.listed = found.listed) :
    ((QHash.values (hash.insert name account)).map AccountState.listed).Perm
      (hash.values.map AccountState.listed) := by
  have present : name ∈ hash.entries.keys := by
    rw [← List.dlookup_isSome]
    exact Option.isSome_iff_exists.mpr ⟨found, there⟩
  obtain ⟨value, before, after, _, entries, erased⟩ :=
    List.exists_of_kerase present
  have isFound : value = found := by
    have member : (⟨name, value⟩ : Sigma fun _ => AccountState) ∈
        hash.entries := by
      rw [entries]
      exact List.mem_append_right _ List.mem_cons_self
    exact Option.some.inj ((AList.mem_lookup_iff.mpr member).symm.trans there)
  rw [QHash.values, QHash.values, AList.entries_insert, erased, entries,
    isFound]
  simp only [List.map_cons, List.map_append, alike]
  exact List.perm_middle.symm

end Tables

section Accounts

variable {json : QJsonDocument} {server : FakeVoxServer}

/-- The accounts in the table. -/
def accounts (server : FakeVoxServer) : List AccountState :=
  server.m_usersByUsername.values

theorem FakeVoxServer.WellFormed.lookup_of_mem_accounts
    (wellFormed : server.WellFormed) {account : AccountState}
    (member : account ∈ accounts server) :
    server.m_usersByUsername.lookup account.username = some account := by
  obtain ⟨⟨name, value⟩, within, rfl⟩ := List.mem_map.mp member
  have there : server.m_usersByUsername.lookup name = some value :=
    AList.mem_lookup_iff.mpr within
  rw [wellFormed.named name value there]
  exact there

theorem mem_accounts_of_lookup
    {name : QString} {account : AccountState}
    (there : server.m_usersByUsername.lookup name = some account) :
    account ∈ accounts server :=
  List.mem_map_of_mem (AList.mem_lookup_iff.mp there)

theorem FakeVoxServer.WellFormed.isUtf16_userId
    (wellFormed : server.WellFormed) {name : QString} {account : AccountState}
    (there : server.m_usersByUsername.lookup name = some account) :
    IsUtf16 account.userId := by
  obtain ⟨number, _, numbered⟩ := wellFormed.numbered _ _ there
  rw [numbered]
  exact (isAsciiText_userIdOf number).isUtf16

/-- No two accounts in the table have one name. -/
theorem FakeVoxServer.WellFormed.nodup_accounts
    (wellFormed : server.WellFormed) :
    ((accounts server).map AccountState.username).Nodup := by
  have names : (accounts server).map AccountState.username =
      server.m_usersByUsername.entries.keys := by
    rw [accounts, QHash.values, List.map_map]
    apply List.map_congr_left
    intro entry member
    exact wellFormed.named entry.1 entry.2 (AList.mem_lookup_iff.mpr member)
  rw [names]
  exact server.m_usersByUsername.keys_nodup

theorem FakeVoxServer.SameAccounts.accounts
    {before after : FakeVoxServer} (same : SameAccounts before after) :
    accounts after = accounts before :=
  congrArg QHash.values same.users

/-- A request that does not register lists what has been listed. -/
theorem listed_handle_of_other
    {request : ServerRequest} {moment : Moment}
    (other : ¬(trimQuery request.path = QString.literal "/v1/register" ∧
      request.method = QString.literal "POST")) :
    ((accounts (server.handle json request moment).2).map
        AccountState.listed).Perm
      ((accounts server).map AccountState.listed) := by
  unfold handle
  dsimp only
  rw [if_neg other]
  split
  · exact .refl _
  split
  · rcases @handleLogin_cases json server request moment with
      ⟨_, _, _, _, refused⟩ | ⟨object, found, _, there, _, result⟩
    · rw [refused]
    · rw [result]
      exact listed_insert_of_found there rfl
  split
  · rcases @handleRefresh_cases json server request with
      ⟨_, _, _, _, refused⟩ | ⟨object, userId, _, _, result⟩
    · rw [refused]
    · rw [result]
      exact .refl _
  iterate 4
    split
    · exact .refl _
  rw [(handleSession_accounts _ _).accounts]

/-- No two accounts in the table have one user. -/
theorem FakeVoxServer.WellFormed.nodup_userIds
    (wellFormed : server.WellFormed) :
    ((accounts server).map AccountState.userId).Nodup := by
  apply (List.nodup_map_iff_inj_on
    (wellFormed.nodup_accounts.of_map _)).mpr
  intro first isFirst second isSecond same
  exact wellFormed.isAccountOf_unique
    ⟨wellFormed.lookup_of_mem_accounts isFirst, rfl⟩
    ⟨wellFormed.lookup_of_mem_accounts isSecond, same.symm⟩

/-- What an event lists anew is what it registers. -/
theorem listed_serverStep (event : ServerEvent) :
    ((accounts (serverStep json server event).2).map
        AccountState.listed).Perm
      ((acceptedRegistration json server event).toList.map
          AccountState.listed ++
        (accounts server).map AccountState.listed) := by
  cases event with
  | forceUnauthorized value => exact .refl _
  | failNextSend value => exact .refl _
  | request request moment =>
      simp only [acceptedRegistration, serverStep]
      by_cases registers :
          trimQuery request.path = QString.literal "/v1/register" ∧
            request.method = QString.literal "POST"
      · have routed : server.handle json request moment =
            server.handleRegister json request := by
          unfold handle
          dsimp only
          rw [registers.1, registers.2, if_neg (by decide),
            if_pos ⟨rfl, rfl⟩]
        rw [routed]
        rcases @handleRegister_cases json server request with
          ⟨status, code, message, failure, refused⟩ |
            ⟨object, parsed, _, free, result⟩
        · have failed : ¬(request.method = QString.literal "POST" ∧
              trimQuery request.path = QString.literal "/v1/register" ∧
              (server.handleRegister json request).1.statusCode =
                kHttpOk) := by
            rw [refused]
            rintro ⟨_, _, isStatus⟩
            have same : status = 200 := isStatus
            omega
          rw [if_neg failed, refused]
          exact .refl _
        · rw [result, if_pos ⟨registers.2, registers.1, rfl⟩, parsed,
            Option.bind_some]
          change ((QHash.values (server.m_usersByUsername.insert
              (stringField object "username") _)).map _).Perm
            (((server.m_usersByUsername.insert
              (stringField object "username") _).lookup
                (stringField object "username")).toList.map _ ++ _)
          rw [AList.lookup_insert, values_insert_of_free free]
          exact .refl _
      · rw [if_neg fun facts => registers ⟨facts.2.1, facts.1⟩]
        exact listed_handle_of_other registers

/-- Over all events, the table lists what has been registered. -/
theorem listed_serverAfter (events : List ServerEvent) :
    ((accounts (serverAfter json events)).map AccountState.listed).Perm
      ((acceptedRegistrations json events).map AccountState.listed) := by
  induction events using List.reverseRecOn with
  | nil => exact .refl _
  | append_singleton earlier event inductionHypothesis =>
      have after : serverAfter json (earlier ++ [event]) =
          (serverStep json (serverAfter json earlier) event).2 := by
        rw [serverAfter, Machine.run_append]
        rfl
      have registered : acceptedRegistrations json (earlier ++ [event]) =
          acceptedRegistrations json earlier ++
            (acceptedRegistration json (serverAfter json earlier)
              event).toList := Machine.observed_concat _ _ _
      rw [after, registered, List.map_append]
      refine (listed_serverStep event).trans ?_
      exact List.perm_append_comm.trans (inductionHypothesis.append_right _)

theorem find?_eq_some_of_unique
    {α : Type*} {holds : α → Bool} {elements : List α} {element : α}
    (member : element ∈ elements) (found : holds element)
    (unique : ∀ other ∈ elements, holds other → other = element) :
    elements.find? holds = some element := by
  cases search : elements.find? holds with
  | none => exact absurd found (List.find?_eq_none.mp search element member)
  | some other =>
      rw [unique other (List.mem_of_find?_eq_some search)
        (List.find?_some search)]

theorem filter_eq_singleton_of_unique
    {α : Type*} {holds : α → Bool} {elements : List α} {element : α}
    (distinct : elements.Nodup) (member : element ∈ elements)
    (found : holds element)
    (unique : ∀ other ∈ elements, holds other → other = element) :
    elements.filter holds = [element] := by
  apply List.perm_singleton.mp
  apply (List.perm_ext_iff_of_nodup (distinct.filter _)
    (List.nodup_singleton _)).mpr
  intro other
  rw [List.mem_filter, List.mem_singleton]
  constructor
  · exact fun facts => unique other facts.1 facts.2
  · rintro rfl
    exact ⟨member, found⟩

/-- However the accounts are iterated, the search for a name ends where the
table has it. -/
theorem FakeVoxServer.WellFormed.find_named
    (wellFormed : server.WellFormed) (username : QString) (moment : Moment) :
    (server.iteratedAccounts moment).find? (fun account =>
      account.username = trimQuery username) =
        namedAccount server username := by
  have iterated := moment.iterated_perm (accounts server)
  cases named : namedAccount server username with
  | none =>
      apply List.find?_eq_none.mpr
      intro account member same
      have there := wellFormed.lookup_of_mem_accounts
        (iterated.mem_iff.mp member)
      rw [of_decide_eq_true same] at there
      exact Option.some_ne_none _ (there.symm.trans named)
  | some account =>
      have isName := wellFormed.named _ _ named
      refine find?_eq_some_of_unique
        (iterated.mem_iff.mpr (mem_accounts_of_lookup named))
        (decide_eq_true isName) fun other member same => ?_
      have there := wellFormed.lookup_of_mem_accounts
        (iterated.mem_iff.mp member)
      rw [of_decide_eq_true same] at there
      exact Option.some.inj (there.symm.trans named)

/-! ## What the calls of a client return -/

/-- The server recognises a client that gets something. -/
theorem authUserFromHeaders_get
    (wellFormed : server.WellFormed)
    (notForced : server.m_forceUnauthorized = false)
    {network : NetworkAccess} {userId : QString}
    (issued : server.m_userByAccessToken.lookup network.m_bearerToken =
      some userId)
    (get : HttpRequest × QUrlQuery) {path : QString} {query : QUrlQuery}
    (isGet : get = network.get path query) :
    server.authUserFromHeaders get.1.headers ≠ [] := by
  have carried := headerValue_execute (wellFormed.ne_nil_of_issued issued)
    (QString.literal "GET") path [] []
  rw [isGet, NetworkAccess.get,
    authUserFromHeaders_of_headerValue notForced carried issued]
  obtain ⟨_, account, there⟩ := wellFormed.access _ _ issued
  obtain ⟨number, rfl⟩ := wellFormed.userIdOf_of_isAccountOf there
  exact List.cons_ne_nil _ _

section Calls

variable {network : NetworkAccess} {userId : QString} {moment : Moment}

/-- What the handling of a request of a client answers. -/
def answerTo
    (json : QJsonDocument) (server : FakeVoxServer) (network : NetworkAccess)
    (moment : Moment) (get : HttpRequest × QUrlQuery) : NetworkResponse :=
  (server.handle json (serverRequest network get.1 get.2) moment).1

theorem accepted_searchUsers
    (nested : json.RoundTripsNested)
    (wellFormed : server.WellFormed)
    (notForced : server.m_forceUnauthorized = false)
    (issued : server.m_userByAccessToken.lookup network.m_bearerToken =
      some userId)
    (writable : ∀ account ∈ accounts server, account.IsWritable)
    (query : QString) (limit : ℤ) :
    (DirectoryApi.searchUsers json (answerTo json server network moment
      (DirectoryApi.searchUsersRequest network query limit))).accepted =
        some ((server.iteratedAccounts moment).map AccountState.listed) := by
  rw [answerTo, handle_searchUsers, if_neg (authUserFromHeaders_get wellFormed
    notForced issued (DirectoryApi.searchUsersRequest network query limit)
      rfl)]
  refine accepted_listing nested (by decide) _ (fun account within => ?_)
    fun account _ => parseDirectoryUser_userObject account
  have member := (moment.iterated_perm (accounts server)).mem_iff.mp within
  exact composed_userObject
    (wellFormed.isUtf16_userId (wellFormed.lookup_of_mem_accounts member))
    (writable account member).username

theorem accepted_namedResponse
    (nested : json.RoundTripsNested)
    (wellFormed : server.WellFormed) {username : QString}
    (isText : ∀ account, namedAccount server username = some account →
      IsUtf16 account.username) :
    (DirectoryApi.userByUsername json
      (namedResponse json server username)).accepted =
        (namedAccount server username).map AccountState.listed := by
  unfold namedResponse
  cases named : namedAccount server username with
  | none =>
      exact accepted_parseResult_of_not_ok
        (errorResponse_not_ok _ _ (Or.inr (by decide))) _ _
  | some account =>
      exact accepted_object nested _
        (composed_userObject (wellFormed.isUtf16_userId named)
          (isText account named))
        (parseDirectoryUser_userObject account)

theorem accepted_userByUsername
    (nested : json.RoundTripsNested)
    (wellFormed : server.WellFormed)
    (notForced : server.m_forceUnauthorized = false)
    (issued : server.m_userByAccessToken.lookup network.m_bearerToken =
      some userId)
    {username : QString}
    (isText : ∀ account, namedAccount server username = some account →
      IsUtf16 account.username) :
    (DirectoryApi.userByUsername json (answerTo json server network moment
      (DirectoryApi.userByUsernameRequest network username))).accepted =
        (namedAccount server username).map AccountState.listed := by
  rw [answerTo, handle_userByUsername, if_neg (authUserFromHeaders_get
    wellFormed notForced issued
      (DirectoryApi.userByUsernameRequest network username) rfl)]
  exact accepted_namedResponse nested wellFormed isText

theorem accepted_userDevices
    (nested : json.RoundTripsNested)
    (wellFormed : server.WellFormed)
    (notForced : server.m_forceUnauthorized = false)
    (issued : server.m_userByAccessToken.lookup network.m_bearerToken =
      some userId)
    (writable : ∀ account ∈ accounts server, account.IsWritable)
    {account : AccountState} (member : account ∈ accounts server) :
    (DirectoryApi.userDevices json (answerTo json server network moment
      (DirectoryApi.userDevicesRequest network account.userId))).accepted =
        some [account.device] := by
  have there := wellFormed.lookup_of_mem_accounts member
  obtain ⟨number, _, numbered⟩ := wellFormed.numbered _ _ there
  have iterated := moment.iterated_perm (accounts server)
  have distinct : (server.iteratedAccounts moment).Nodup :=
    iterated.nodup_iff.mpr (wellFormed.nodup_accounts.of_map _)
  have only : (server.iteratedAccounts moment).filter (fun other =>
      other.userId = account.userId) = [account] := by
    refine filter_eq_singleton_of_unique distinct
      (iterated.mem_iff.mpr member) (by simp) fun other within same => ?_
    exact wellFormed.isAccountOf_unique
      ⟨wellFormed.lookup_of_mem_accounts (iterated.mem_iff.mp within),
        of_decide_eq_true same⟩ ⟨there, rfl⟩
  rw [numbered] at only ⊢
  rw [answerTo, handle_userDevices, if_neg (authUserFromHeaders_get wellFormed
    notForced issued
      (DirectoryApi.userDevicesRequest network (userIdOf number)) rfl), only]
  refine accepted_listing nested (by decide) _ (fun listed within => ?_)
    fun listed _ => parseDeviceDirectoryEntry_deviceObject listed
  rw [List.mem_singleton.mp within]
  exact composed_deviceObject (writable account member)

end Calls

/-- After any requests of anyone, what a signed-in client reads of the
directory is what has been registered: a search lists every registration once,
a name is looked up as in that list, and a user of it has one device. -/
theorem directory_lists_registrations
    (nested : json.RoundTripsNested) (events : List ServerEvent)
    (notForced : (serverAfter json events).m_forceUnauthorized = false)
    {network : NetworkAccess} {userId : QString}
    (issued : (serverAfter json events).m_userByAccessToken.lookup
      network.m_bearerToken = some userId)
    (writable : ∀ account ∈ accounts (serverAfter json events),
      account.IsWritable)
    (moment : Moment) :
    let answer := answerTo json (serverAfter json events) network moment
    ∃ users : List DirectoryUser,
      users.Perm
          ((acceptedRegistrations json events).map AccountState.listed) ∧
        (users.map DirectoryUser.userId).Nodup ∧
        (∀ query limit,
          (DirectoryApi.searchUsers json (answer
            (DirectoryApi.searchUsersRequest network query limit))).accepted =
              some users) ∧
        (∀ username,
          (DirectoryApi.userByUsername json (answer
            (DirectoryApi.userByUsernameRequest network username))).accepted =
              users.find? fun user => user.username = trimQuery username) ∧
        ∀ user ∈ users, ∃ device,
          (DirectoryApi.userDevices json (answer
            (DirectoryApi.userDevicesRequest network user.userId))).accepted =
              some [device] := by
  intro answer
  have wellFormed : (serverAfter json events).WellFormed :=
    serverAfter_wellFormed events
  let found := (serverAfter json events).iteratedAccounts moment
  have iterated : found.Perm (accounts (serverAfter json events)) :=
    moment.iterated_perm _
  refine ⟨found.map AccountState.listed, ?_, ?_, ?_, ?_, ?_⟩
  · exact (iterated.map _).trans (listed_serverAfter events)
  · rw [List.map_map]
    have users := wellFormed.nodup_userIds
    exact ((iterated.map AccountState.userId).nodup_iff).mpr users
  · exact accepted_searchUsers nested wellFormed notForced issued writable
  · intro username
    refine (accepted_userByUsername nested wellFormed notForced issued
      fun account named =>
        (writable account (mem_accounts_of_lookup named)).username).trans ?_
    rw [List.find?_map]
    congr 1
    exact (wellFormed.find_named username moment).symm
  · intro user member
    obtain ⟨account, within, rfl⟩ := List.mem_map.mp member
    exact ⟨account.device, accepted_userDevices nested wellFormed notForced
      issued writable (iterated.mem_iff.mp within)⟩

end Accounts

namespace ReferenceDirectory

def moment : Moment := ⟨1, 2, 3, id, List.Perm.refl⟩

def network : NetworkAccess :=
  ⟨QString.literal "http://s", QString.literal "acc_usr_1"⟩

def json : QJsonDocument := ReferenceNestedJson.json

theorem nested : json.RoundTripsNested :=
  ReferenceNestedJson.json_roundTripsNested

/-- A user registers. -/
def registering (username : String) : ServerEvent :=
  .request
    ⟨QString.literal "POST", QString.literal "/v1/register",
      json.toJson
        [stringMember "username" (QString.literal username),
          stringMember "password_derived_value" (QString.literal "p"),
          stringMember "device_id" (QString.literal "d")], []⟩
    moment

/-- Alice and Bob register, and again Alice in vain. -/
def events : List ServerEvent :=
  [registering "alice", registering "bob", registering "alice"]

theorem writable_accounts :
    ∀ account ∈ accounts (serverAfter json events), account.IsWritable := by
  have ascii : ∀ account ∈ accounts (serverAfter json events),
      IsAsciiText account.username ∧ IsAsciiText account.deviceId := by
    decide +kernel
  intro account member
  obtain ⟨username, deviceId⟩ := ascii account member
  exact ⟨username.isUtf16, deviceId.isUtf16⟩

end ReferenceDirectory

deriving instance DecidableEq for DirectoryUser

open ReferenceDirectory in
/-- Alice finds herself and Bob, and Bob under his name. -/
theorem directory_of_alice_and_bob :
    let answer := answerTo json (serverAfter json events) network moment
    ∃ users : List DirectoryUser,
      users.Perm
          [⟨QString.literal "usr_1", QString.literal "alice"⟩,
            ⟨QString.literal "usr_2", QString.literal "bob"⟩] ∧
        (DirectoryApi.searchUsers json (answer
          (DirectoryApi.searchUsersRequest network [] 20))).accepted =
            some users ∧
        (DirectoryApi.userByUsername json (answer
          (DirectoryApi.userByUsernameRequest network
            (QString.literal "bob")))).accepted =
              some ⟨QString.literal "usr_2", QString.literal "bob"⟩ := by
  intro answer
  have issued : (serverAfter json events).m_userByAccessToken.lookup
      network.m_bearerToken = some (QString.literal "usr_1") := by
    decide +kernel
  have notForced :
      (serverAfter json events).m_forceUnauthorized = false := by
    decide +kernel
  obtain ⟨users, listed, _, searched, named, _⟩ :=
    directory_lists_registrations nested events notForced issued
      writable_accounts moment
  have registered :
      (acceptedRegistrations json events).map AccountState.listed =
        [⟨QString.literal "usr_1", QString.literal "alice"⟩,
          ⟨QString.literal "usr_2", QString.literal "bob"⟩] := by
    decide +kernel
  rw [registered] at listed
  refine ⟨users, listed, searched [] 20, (named _).trans ?_⟩
  apply find?_eq_some_of_unique (listed.mem_iff.mpr (.tail _ (.head _)))
  · decide
  · intro other member isBob
    rcases List.mem_cons.mp (listed.mem_iff.mp member) with rfl | member
    · exact absurd isBob (by decide)
    · exact List.mem_singleton.mp member

end Integration
end VoxDesktop
