import VoxDesktop.Services.VaultWrites

/-!
# The signed prekey that the server knows

A sign-in makes a new signed prekey, stores it in the vault and then sends its
public half.  Whether the server takes the request over is only known
afterwards, and nothing brings the former prekey back.  Once a request has
been accepted, vault and server agree exactly as long as every new prekey is
sent and accepted.
-/

namespace VoxDesktop
namespace Services
namespace AuthService

open Library Qt Crypto Network CryptoHelpers VaultService PrekeyManager

/-- The signed prekey of a request, if it carries one. -/
def carriedPrekey (report : AuthReport) : Option QString :=
  let carried (signedPrekeyPublic : QString) : Option QString :=
    if signedPrekeyPublic = [] then none else some signedPrekeyPublic
  match report.request with
  | some (.registerUser request) => carried request.signedPrekeyPublic
  | some (.login request) => carried request.signedPrekeyPublic
  | _ => none

/-- The key pair that is drawn for the prekey of a call. -/
def prekeyPair : AuthCall → KxKeypair
  | .registerUser _ _ outcome => outcome.keys.prekey.keypair
  | .login _ _ outcome => outcome.keys.prekey.keypair
  | _ => none

/-- A prekey as an accepted request has carried it, with the key pair that was
drawn for this request. -/
structure KnownPrekey where
  carried : QString
  publicKey : QByteArray
  privateKey : QByteArray

/-- A call, and whether the server accepts the request it makes.  The reply is
part of the call; it can be lost on its way. -/
structure ServedCall where
  call : AuthCall
  accepted : Bool

/-- A service and the prekey of the last request that the server accepted. -/
structure Served where
  service : AuthService
  known : Option KnownPrekey

/-- What the server knows after a request, or without one. -/
def knownAfter (known : Option KnownPrekey) (accepted : Bool) :
    (carried : Option QString) → (pair : KxKeypair) → Option KnownPrekey
  | some carried, some (publicKey, privateKey) =>
      if accepted then some ⟨carried, publicKey.toList, privateKey.toList⟩
      else known
  | _, _ => known

def servedStep
    (json : QJsonDocument) (sodium : Sodium)
    (sha256 : QByteArray → List.Vector UInt8 kSha256Bytes)
    (state : Served) (served : ServedCall) : AuthReport × Served :=
  let result := step json sodium sha256 state.service served.call
  (result.1,
    { service := result.2
      known :=
        knownAfter state.known served.accepted (carriedPrekey result.1)
          (prekeyPair served.call) })

/-- The vault has a key pair as its signed prekey. -/
def HasPrekey
    (vault : VaultService) (publicKey privateKey : QByteArray) : Prop :=
  vault.loadSecret kSignedPrekeyPubName = some publicKey ∧
    vault.loadSecret kSignedPrekeyPrivName = some privateKey

/-- The vault has the key pair whose public half the server was sent last. -/
def PrekeyAgrees (state : Served) : Prop :=
  ∀ known, state.known = some known →
    known.carried = toB64 known.publicKey ∧
      HasPrekey state.service.m_vault known.publicKey known.privateKey

/-- The saves of the new prekey work. -/
def PrekeySavesWork : AuthCall → Prop
  | .registerUser _ _ outcome =>
      ∀ index, (outcome.keys.prekey.saves index).works = true
  | .login _ _ outcome =>
      ∀ index, (outcome.keys.prekey.saves index).works = true
  | _ => True

/-! ## When vault and server part -/

section Condition

variable (json : QJsonDocument) (sodium : Sodium)
  (sha256 : QByteArray → List.Vector UInt8 kSha256Bytes)

/-- The key pair that a call makes the signed prekey of the vault, before it
makes a request. -/
def newPrekey (service : AuthService) : AuthCall → KxKeypair
  | .registerUser username passwordDerived outcome =>
      if username = [] ∨ passwordDerived = [] then none
      else
        (publishedKeys json sodium service outcome.keys).1.bind fun _ =>
          outcome.keys.prekey.keypair
  | .login username passwordDerived outcome =>
      if username = [] ∨ passwordDerived = [] then none
      else
        (publishedKeys json sodium service outcome.keys).1.bind fun _ =>
          outcome.keys.prekey.keypair
  | _ => none

/-- With keys published, a login makes its request; a registration first wraps
a sync master key. -/
def reachesRequest : AuthCall → Bool
  | .registerUser _ passwordDerived outcome =>
      (SyncCrypto.wrapSyncMasterKey sodium
        (toUtf8 (sha256HexLower sha256 passwordDerived))
        (randomBytes sodium outcome.syncMasterKey) {} outcome.wrap).isSome
  | _ => true

/-- If the server knows a prekey and the call makes a new one, the new one
reaches the server and is accepted, or is the same key pair. -/
def PrekeyFollowed (state : Served) (served : ServedCall) : Prop :=
  ∀ known, state.known = some known →
    ∀ publicKey privateKey,
      newPrekey json sodium state.service served.call =
          some (publicKey, privateKey) →
        (reachesRequest sodium sha256 served.call = true ∧
            served.accepted = true) ∨
          publicKey.toList = known.publicKey ∧
            privateKey.toList = known.privateKey

end Condition

/-! ## One call -/

section Calls

variable {json : QJsonDocument} {sodium : Sodium}
  {sha256 : QByteArray → List.Vector UInt8 kSha256Bytes}
  {vaultPath password : QString}

/-- With working saves, rotating the prekey gives nothing and changes nothing,
or gives the pair that was drawn and puts it in the vault. -/
theorem rotateSignedPrekey_of_works
    (roundTrips : json.RoundTrips)
    (correct : sodium.AeadCorrect)
    {state : VaultService × Files}
    (reopenable : Reopenable json sodium vaultPath password state)
    (nextSignedPrekeyId : Int32)
    {outcome : PrekeyOutcome}
    (works : ∀ index, (outcome.saves index).works = true) :
    let result :=
      rotateSignedPrekey json sodium nextSignedPrekeyId state outcome
    (result.1 = none ∧ result.2.2 = state) ∨
      ∃ identity publicKey privateKey prekey,
        IdentityKeyStore.identityKeys state.1 = some identity ∧
          outcome.keypair = some (publicKey, privateKey) ∧
          result.1 = some prekey ∧
          prekey.publicKey = publicKey.toList ∧
          HasPrekey result.2.2.1 publicKey.toList privateKey.toList := by
  intro result
  unfold result rotateSignedPrekey
  split
  · exact Or.inl ⟨rfl, rfl⟩
  split
  · rename_i identity publicKey privateKey found drawn
    extract_lets signature prekey stored
    split
    · exact Or.inl ⟨rfl, rfl⟩
    rename_i signed
    obtain ⟨returned, loaded⟩ :=
      writeAll_of_works roundTrips correct reopenable
        (prekeySecrets_nonempty nextSignedPrekeyId publicKey privateKey
          signed)
        (prekeySecrets_distinct prekey) works
    exact Or.inr ⟨identity, publicKey, privateKey, prekey, found, drawn,
      if_pos returned, rfl, loaded _ (.tail _ (.head _)),
      loaded _ (.tail _ (.tail _ (.head _)))⟩
  · exact Or.inl ⟨rfl, rfl⟩

/-- Both halves of the prekey are as before. -/
def SamePrekey (before after : VaultService) : Prop :=
  after.loadSecret kSignedPrekeyPubName =
      before.loadSecret kSignedPrekeyPubName ∧
    after.loadSecret kSignedPrekeyPrivName =
      before.loadSecret kSignedPrekeyPrivName

theorem SamePrekey.trans
    {first second third : VaultService}
    (before : SamePrekey first second) (after : SamePrekey second third) :
    SamePrekey first third :=
  ⟨after.1.trans before.1, after.2.trans before.2⟩

theorem SamePrekey.hasPrekey
    {before after : VaultService} {publicKey privateKey : QByteArray}
    (same : SamePrekey before after)
    (has : HasPrekey before publicKey privateKey) :
    HasPrekey after publicKey privateKey :=
  ⟨same.1.trans has.1, same.2.trans has.2⟩

/-- A refresh token is written under another name. -/
theorem samePrekey_write_refreshToken
    (state : VaultService × Files) {call : WriteCall} {userId : QString}
    (named : call.name = refreshTokenName userId) :
    SamePrekey state.1 (write json sodium state call).2.1 := by
  have others : refreshTokenName userId ∉
      [kSignedPrekeyPubName, kSignedPrekeyPrivName] :=
    refreshTokenName_notMem (by decide) userId
  rw [← named, List.mem_cons, List.mem_singleton, not_or] at others
  exact ⟨loadSecret_write state others.1, loadSecret_write state others.2⟩

/-- With working saves, publishing keys gives nothing and leaves the prekey,
or puts the pair that was drawn in the vault and gives its public half. -/
theorem publishedKeys_of_works
    (roundTrips : json.RoundTrips)
    (correct : sodium.AeadCorrect)
    {service : AuthService}
    (reopenable : Reopenable json sodium vaultPath password
      service.vaultState)
    {outcome : KeyOutcome}
    (works : ∀ index, (outcome.prekey.saves index).works = true) :
    let keys := publishedKeys json sodium service outcome
    (keys.1 = none ∧ SamePrekey service.m_vault keys.2.m_vault) ∨
      ∃ publicKey privateKey identity prekey,
        outcome.prekey.keypair = some (publicKey, privateKey) ∧
          keys.1 = some (identity, prekey) ∧
          prekey.publicKey = publicKey.toList ∧
          HasPrekey keys.2.m_vault publicKey.toList privateKey.toList := by
  intro keys
  unfold keys publishedKeys
  extract_lets ensured rotated next
  have ensuredReopenable :
      Reopenable json sodium vaultPath password ensured.2 :=
    (reopenable_keptByWrites roundTrips correct).ensureIdentityKeys
      reopenable outcome.identity
  have ensuredSame : SamePrekey service.m_vault ensured.2.1 :=
    ⟨IdentityKeyStore.loadSecret_ensureIdentityKeys json sodium _ _
        (by decide),
      IdentityKeyStore.loadSecret_ensureIdentityKeys json sodium _ _
        (by decide)⟩
  have rotation := rotateSignedPrekey_of_works roundTrips correct
    ensuredReopenable service.m_nextSignedPrekeyId works
  split
  · exact Or.inl ⟨rfl, ensuredSame⟩
  rcases rotation with
    ⟨nothing, unchanged⟩ |
      ⟨identity, publicKey, privateKey, prekey, found, drawn, given, carried,
        has⟩
  · have nextSame : SamePrekey service.m_vault next.m_vault := by
      rw [show next.m_vault = ensured.2.1 from congrArg Prod.fst unchanged]
      exact ensuredSame
    left
    rw [show rotated.1 = none from nothing]
    split
    · contradiction
    · exact ⟨rfl, nextSame⟩
  · right
    rw [found, show rotated.1 = some prekey from given]
    exact ⟨publicKey, privateKey, identity, prekey, drawn, rfl, carried, has⟩

theorem samePrekey_signIn
    (service : AuthService) (username : QString) (request : AuthRequest)
    (exchange : HttpRequest × ApiResult AuthSessionResponse)
    (outcome : PersistOutcome) :
    SamePrekey service.m_vault
      (signIn json sodium service username request exchange
        outcome).2.m_vault := by
  unfold signIn
  split
  · rename_i response _ _
    have written :=
      @vaultState_persistSession json sodium service username response
        outcome
    have sameVault := congrArg Prod.fst written
    dsimp only
    rw [show (persistSession json sodium service username response
      outcome).2.m_vault = _ from sameVault]
    exact samePrekey_write_refreshToken service.vaultState rfl
  · exact ⟨rfl, rfl⟩

/-- The public half of a prekey is sent as a text that is not empty. -/
theorem toB64_ne_nil {bytes : QByteArray} (nonempty : bytes ≠ []) :
    toB64 bytes ≠ [] := by
  intro empty
  have decoded := fromBase64_text ⟨true, true⟩ bytes
  rw [show fromUtf8 (toBase64 ⟨true, true⟩ bytes) = [] from empty] at decoded
  exact nonempty decoded.symm

/-- What a call does to the prekey, with the pair it makes the new one. -/
def PrekeyEffect
    (sodium : Sodium)
    (sha256 : QByteArray → List.Vector UInt8 kSha256Bytes)
    (before : AuthService) (call : AuthCall)
    (result : AuthReport × AuthService) : KxKeypair → Prop
  | none =>
      carriedPrekey result.1 = none ∧
        SamePrekey before.m_vault result.2.m_vault
  | some (publicKey, privateKey) =>
      prekeyPair call = some (publicKey, privateKey) ∧
        carriedPrekey result.1 =
          (if reachesRequest sodium sha256 call
            then some (toB64 publicKey.toList) else none) ∧
        HasPrekey result.2.m_vault publicKey.toList privateKey.toList

theorem registerUser_prekey
    (roundTrips : json.RoundTrips)
    (correct : sodium.AeadCorrect)
    {service : AuthService}
    (reopenable : Reopenable json sodium vaultPath password
      service.vaultState)
    (username passwordDerived : QString)
    {outcome : RegisterOutcome}
    (works : ∀ index, (outcome.keys.prekey.saves index).works = true) :
    let call : AuthCall := .registerUser username passwordDerived outcome
    PrekeyEffect sodium sha256 service call
      (registerUser json sodium sha256 service username passwordDerived
        outcome) (newPrekey json sodium service call) := by
  intro call
  have published := publishedKeys_of_works roundTrips correct reopenable works
  rw [registerUser, newPrekey]
  split
  · exact ⟨rfl, rfl, rfl⟩
  dsimp only
  rcases published with
    ⟨nothing, same⟩ |
      ⟨publicKey, privateKey, identity, prekey, drawn, given, carried, has⟩
  · rw [nothing]
    exact ⟨rfl, same⟩
  · rw [given, Option.bind_some, drawn]
    dsimp only
    cases wrapped : SyncCrypto.wrapSyncMasterKey sodium
        (toUtf8 (sha256HexLower sha256 passwordDerived))
        (randomBytes sodium outcome.syncMasterKey) {} outcome.wrap with
    | none =>
        refine ⟨drawn, ?_, has⟩
        rw [reachesRequest, wrapped]
        rfl
    | some wrappedSync =>
        dsimp only
        refine ⟨drawn, ?_, (samePrekey_signIn ..).hasPrekey has⟩
        rw [reachesRequest, wrapped, carriedPrekey, signIn_request]
        dsimp only [registerRequest]
        rw [carried,
          if_neg (toB64_ne_nil (toList_ne_nil publicKey (by decide)))]
        rfl

theorem login_prekey
    (roundTrips : json.RoundTrips)
    (correct : sodium.AeadCorrect)
    {service : AuthService}
    (reopenable : Reopenable json sodium vaultPath password
      service.vaultState)
    (username passwordDerived : QString)
    {outcome : LoginOutcome}
    (works : ∀ index, (outcome.keys.prekey.saves index).works = true) :
    let call : AuthCall := .login username passwordDerived outcome
    PrekeyEffect sodium sha256 service call
      (login json sodium sha256 service username passwordDerived outcome)
      (newPrekey json sodium service call) := by
  intro call
  have published := publishedKeys_of_works roundTrips correct reopenable works
  rw [login, newPrekey]
  split
  · exact ⟨rfl, rfl, rfl⟩
  dsimp only
  rcases published with
    ⟨nothing, same⟩ |
      ⟨publicKey, privateKey, identity, prekey, drawn, given, carried, has⟩
  · rw [nothing]
    refine ⟨?_, same.trans (samePrekey_signIn ..)⟩
    rw [carriedPrekey, signIn_request]
    rfl
  · rw [given, Option.bind_some, drawn]
    refine ⟨drawn, ?_, (samePrekey_signIn ..).hasPrekey has⟩
    rw [carriedPrekey, signIn_request]
    dsimp only [loginRequest]
    rw [carried,
      if_neg (toB64_ne_nil (toList_ne_nil publicKey (by decide)))]
    rfl

/-- A restore or a logout leaves the prekey. -/
theorem samePrekey_restoreSession
    (service : AuthService) (outcome : RestoreOutcome) :
    carriedPrekey (restoreSession json sodium service outcome).1 = none ∧
      SamePrekey service.m_vault
        (restoreSession json sodium service outcome).2.m_vault := by
  rw [restoreSession]
  split
  · exact ⟨rfl, rfl, rfl⟩
  split
  · exact ⟨rfl, rfl, rfl⟩
  dsimp only
  split
  · exact ⟨rfl,
      @samePrekey_write_refreshToken json sodium service.vaultState
        (.store _ _ outcome.save) _ rfl⟩
  · exact ⟨rfl, rfl, rfl⟩

theorem samePrekey_logout (service : AuthService) (outcome : LogoutOutcome) :
    carriedPrekey (logout json sodium service outcome).1 = none ∧
      SamePrekey service.m_vault
        (logout json sodium service outcome).2.m_vault := by
  rw [logout]
  split
  · exact ⟨rfl, rfl, rfl⟩
  dsimp only
  refine ⟨rfl, ?_⟩
  unfold forgetActive
  split
  · exact ⟨rfl, rfl⟩
  · exact @samePrekey_write_refreshToken json sodium service.vaultState
      (.remove _ outcome.save) _ rfl

/-- Every call leaves the prekey and sends none, or makes the pair it has
drawn the new one and sends it if it gets to the request. -/
theorem step_prekey
    (roundTrips : json.RoundTrips)
    (correct : sodium.AeadCorrect)
    {service : AuthService}
    (reopenable : Reopenable json sodium vaultPath password
      service.vaultState)
    {call : AuthCall}
    (works : PrekeySavesWork call) :
    PrekeyEffect sodium sha256 service call
      (step json sodium sha256 service call)
      (newPrekey json sodium service call) := by
  cases call with
  | registerUser username passwordDerived outcome =>
      exact registerUser_prekey roundTrips correct reopenable username
        passwordDerived works
  | login username passwordDerived outcome =>
      exact login_prekey roundTrips correct reopenable username
        passwordDerived works
  | restoreSession outcome => exact samePrekey_restoreSession service outcome
  | logout outcome => exact samePrekey_logout service outcome

/-- A request that is not made or not accepted tells the server nothing. -/
theorem knownAfter_of_not_accepted
    {known : Option KnownPrekey} {accepted reaches : Bool}
    {carried : QString} {pair : KxKeypair}
    (unaccepted : ¬ (reaches = true ∧ accepted = true)) :
    knownAfter known accepted (if reaches then some carried else none) pair =
      known := by
  cases reaches with
  | false => rfl
  | true =>
      have rejected : ¬ accepted = true :=
        fun accepts => unaccepted ⟨rfl, accepts⟩
      cases pair with
      | none => rfl
      | some pair => exact if_neg rejected

/-- From an agreement, one call keeps it exactly if the server follows. -/
theorem servedStep_agrees_iff
    (roundTrips : json.RoundTrips)
    (correct : sodium.AeadCorrect)
    {state : Served}
    (reopenable : Reopenable json sodium vaultPath password
      state.service.vaultState)
    {served : ServedCall}
    (works : PrekeySavesWork served.call)
    (agrees : PrekeyAgrees state) :
    PrekeyAgrees (servedStep json sodium sha256 state served).2 ↔
      PrekeyFollowed json sodium sha256 state served := by
  have effect := @step_prekey json sodium sha256 vaultPath password
    roundTrips correct state.service reopenable served.call works
  rw [PrekeyFollowed, servedStep]
  dsimp only
  cases drawn : newPrekey json sodium state.service served.call with
  | none =>
      rw [drawn] at effect
      obtain ⟨nothing, same⟩ := effect
      rw [nothing]
      constructor
      · intro _ known _ publicKey privateKey impossible
        contradiction
      · intro _ known isKnown
        obtain ⟨carried, has⟩ := agrees known isKnown
        exact ⟨carried, same.hasPrekey has⟩
  | some pair =>
      obtain ⟨publicKey, privateKey⟩ := pair
      rw [drawn] at effect
      obtain ⟨pairDrawn, carries, has⟩ := effect
      rw [pairDrawn, carries]
      by_cases follows :
          reachesRequest sodium sha256 served.call = true ∧
            served.accepted = true
      · obtain ⟨reaches, accepted⟩ := follows
        rw [if_pos reaches, accepted]
        constructor
        · intro _ known _ _ _ _
          exact Or.inl ⟨reaches, rfl⟩
        · intro _ known isKnown
          obtain rfl := Option.some.inj isKnown
          exact ⟨rfl, has⟩
      · -- The server keeps what it knows while the vault has the new pair.
        rw [show knownAfter state.known served.accepted _ _ = state.known from
          knownAfter_of_not_accepted follows]
        constructor
        · intro agreesAfter known isKnown _ _ same
          obtain ⟨rfl, rfl⟩ := Prod.mk.inj (Option.some.inj same)
          obtain ⟨_, hasKnown⟩ := agreesAfter known isKnown
          exact Or.inr ⟨Option.some.inj (has.1.symm.trans hasKnown.1),
            Option.some.inj (has.2.symm.trans hasKnown.2)⟩
        · intro followed known isKnown
          rcases followed known isKnown publicKey privateKey rfl with
            accepted | ⟨samePublic, samePrivate⟩
          · exact absurd accepted follows
          · rw [← samePublic, ← samePrivate]
            refine ⟨?_, has⟩
            rw [samePublic]
            exact (agrees known isKnown).1

end Calls

/-! ## Runs -/

/-- In every run from an unlocked vault whose prekeys are saved, vault and
server agree at every moment exactly if the server follows at every step. -/
theorem signed_prekey_agrees_iff
    (json : QJsonDocument)
    (sodium : Sodium)
    (sha256 : QByteArray → List.Vector UInt8 kSha256Bytes)
    (vaultPath password : QString)
    (files : Files)
    (opened : UnlockOutcome)
    (start : AuthService)
    (calls : List ServedCall)
    (roundTrips : json.RoundTrips)
    (correct : sodium.AeadCorrect)
    (unlocked :
      (unlockWithPassword json sodium (onPath vaultPath) files password
        opened).1 = true)
    (unlockedVault :
      start.vaultState =
        (unlockWithPassword json sodium (onPath vaultPath) files password
          opened).2)
    (works : ∀ served ∈ calls, PrekeySavesWork served.call) :
    let machine := servedStep json sodium sha256
    (∀ earlier later, calls = earlier ++ later →
        PrekeyAgrees (Machine.run machine ⟨start, none⟩ earlier)) ↔
      Machine.EachStep (PrekeyFollowed json sodium sha256) machine
        ⟨start, none⟩ calls := by
  intro machine
  apply Machine.forall_prefix_iff_eachStep
    (fun state : Served =>
      Reopenable json sodium vaultPath password state.service.vaultState)
    PrekeyAgrees (PrekeyFollowed json sodium sha256)
    (fun served => PrekeySavesWork served.call)
  · intro state served _ reopenable
    exact (reopenable_keptByWrites roundTrips correct).step reopenable
      served.call
  · intro state served saved reopenable agrees
    exact servedStep_agrees_iff roundTrips correct reopenable saved agrees
  · rw [unlockedVault]
    exact (unlockWithPassword_reopenable roundTrips correct unlocked).1
  · intro known impossible
    contradiction
  · exact works

section Examples

/-- A login that draws another prekey than the reference one. -/
def otherLogin (response : NetworkResponse) : AuthCall :=
  .login (QString.literal "alice") (QString.literal "p")
    { ReferenceService.loginOutcome [] [] [] 2 with
      keys :=
        { ReferenceService.keys with
          prekey :=
            { ReferenceService.keys.prekey with
              keypair :=
                some (List.Vector.replicate _ 7,
                  List.Vector.replicate _ 8) } }
      response := response }

/-- A login that the server accepts. -/
def acceptedLogin : ServedCall where
  call :=
    .login (QString.literal "alice") (QString.literal "p")
      (ReferenceService.loginOutcome (QString.literal "u1")
        (QString.literal "r1") (QString.literal "a1") 1)
  accepted := true

/-- A second login, whose request is accepted and whose reply is lost. -/
def lostLogin : ServedCall :=
  ⟨otherLogin ⟨0, [], QString.literal "timeout"⟩, true⟩

/-- A second login that the server rejects. -/
def refusedLogin : ServedCall :=
  ⟨otherLogin ReferenceService.rejecting, false⟩

/-- The server accepts both logins; that the second reply is lost does no
harm. -/
theorem signed_prekey_agrees_lost_reply :
    PrekeyAgrees
      (Machine.run
        (servedStep ReferenceJson.json ReferenceSodium.sodium
          ReferenceService.sha256)
        ⟨ReferenceService.service, none⟩ [acceptedLogin, lostLogin]) := by
  have works : ∀ served ∈ [acceptedLogin, lostLogin],
      PrekeySavesWork served.call := by
    intro served within
    rcases List.mem_pair.mp within with rfl | rfl
    · exact fun _ => rfl
    · exact fun _ => rfl
  refine (signed_prekey_agrees_iff ReferenceJson.json ReferenceSodium.sodium
    ReferenceService.sha256 ReferenceVault.vaultPath ReferenceVault.password
    (fun _ => none) ReferenceVault.outcome ReferenceService.service
    [acceptedLogin, lostLogin] ReferenceJson.json_roundTrips
    ReferenceSodium.sodium_aeadCorrect ReferenceVault.unlocking_returns
    service_vaultState works).mpr ?_ [acceptedLogin, lostLogin] [] rfl
  refine ⟨fun _ _ _ _ _ => Or.inl ⟨rfl, rfl⟩,
    fun _ _ _ _ _ => Or.inl ⟨rfl, rfl⟩, trivial⟩

/-- After an accepted login a second one is rejected: the server knows the
first prekey, the vault has the second. -/
theorem signed_prekey_lost_after_rejection :
    let after :=
      Machine.run
        (servedStep ReferenceJson.json ReferenceSodium.sodium
          ReferenceService.sha256)
        ⟨ReferenceService.service, none⟩ [acceptedLogin, refusedLogin]
    after.known.map KnownPrekey.publicKey = some (List.replicate 32 5) ∧
      after.service.m_vault.loadSecret kSignedPrekeyPubName =
        some (List.replicate 32 7) ∧
      ¬ PrekeyAgrees after := by
  intro after
  have serverKnows :
      after.known.map KnownPrekey.publicKey =
        some (List.replicate 32 5) := by
    decide +kernel
  have vaultHas :
      after.service.m_vault.loadSecret kSignedPrekeyPubName =
        some (List.replicate 32 7) := by
    decide +kernel
  refine ⟨serverKnows, vaultHas, ?_⟩
  intro agrees
  obtain ⟨known, isKnown, publicKey⟩ :=
    Option.map_eq_some_iff.mp serverKnows
  have loaded := (agrees known isKnown).2.1
  rw [publicKey, vaultHas] at loaded
  exact absurd loaded (by decide)

end Examples

end AuthService
end Services
end VoxDesktop
