import VoxDesktop.Services.ReferenceService

/-!
# Who can open the sync key bundle

A registration request carries the sync master key, wrapped under a password
value, together with everything needed to unwrap it but that value.  The value
is a member of the same request, so whoever receives the request opens the
bundle.
-/

namespace VoxDesktop
namespace Services

open Qt Crypto Network CryptoHelpers SyncCrypto

/-- The bundle that a reader of a registration request decodes. -/
def decodedBundle (request : RegisterRequest) : WrappedSyncKeyBundle where
  wrappedSyncKey := fromBase64 true (toUtf8 request.wrappedSyncKey)
  salt := fromBase64 true (toUtf8 request.syncWrapSalt)
  params := SyncWrapParams.fromJson request.syncWrapParams

/-- A bundle after transport: the key and the salt have been through unpadded
base64url text, and the parameters through JSON. -/
def travelledBundle (bundle : WrappedSyncKeyBundle) :
    WrappedSyncKeyBundle where
  wrappedSyncKey :=
    fromBase64 true (toUtf8 (AuthService.toB64 bundle.wrappedSyncKey))
  salt := fromBase64 true (toUtf8 (AuthService.toB64 bundle.salt))
  params := SyncWrapParams.fromJson bundle.params.toJson

/-- Transport changes nothing. -/
theorem travelledBundle_eq
    {bundle : WrappedSyncKeyBundle}
    (inRange : bundle.params.InRange) :
    travelledBundle bundle = bundle := by
  have wrappedSyncKey := fromBase64_text ⟨true, true⟩ bundle.wrappedSyncKey
  have salt := fromBase64_text ⟨true, true⟩ bundle.salt
  simp only [travelledBundle, AuthService.toB64, wrappedSyncKey, salt,
    SyncWrapParams.fromJson_toJson inRange]

/-- A wrapped key that has travelled opens under the password value it was
wrapped with, whatever integers the parameters are. -/
theorem unwrapSyncMasterKey_travelledBundle
    {sodium : Sodium}
    {passwordDerived syncMasterKey : QByteArray}
    {params : SyncWrapParams} {draws : WrapDraws}
    {bundle : WrappedSyncKeyBundle}
    (correct : sodium.AeadCorrect)
    (inRange : params.InRange)
    (wrapped :
      wrapSyncMasterKey sodium passwordDerived syncMasterKey params draws =
        some bundle) :
    unwrapSyncMasterKey sodium passwordDerived (travelledBundle bundle) =
      some syncMasterKey := by
  have sameParams : bundle.params = params :=
    (wrapSyncMasterKey_eq_some wrapped).2.2.1
  rw [travelledBundle_eq (sameParams ▸ inRange)]
  exact unwrapSyncMasterKey_of_wrap correct wrapped

/-- A key wrapped under other than the default parameters comes back. -/
theorem unwrapSyncMasterKey_travelledBundle_ofParams :
    (wrapSyncMasterKey ReferenceSodium.sodium (QByteArray.literal "secret")
        (List.replicate 32 8) ⟨8192, 2, -1⟩
        ⟨⟨List.replicate 16 3, rfl⟩, ⟨List.replicate 24 5, rfl⟩⟩).bind
      (fun bundle =>
        unwrapSyncMasterKey ReferenceSodium.sodium
          (QByteArray.literal "secret") (travelledBundle bundle)) =
        some (List.replicate 32 8) := by
  obtain ⟨bundle, wrapped⟩ := Option.isSome_iff_exists.mp
    (show (wrapSyncMasterKey ReferenceSodium.sodium
        (QByteArray.literal "secret") (List.replicate 32 8) ⟨8192, 2, -1⟩
        ⟨⟨List.replicate 16 3, rfl⟩, ⟨List.replicate 24 5, rfl⟩⟩).isSome =
          true by decide +kernel)
  rw [wrapped]
  exact unwrapSyncMasterKey_travelledBundle
    ReferenceSodium.sodium_aeadCorrect
    ⟨by decide, by decide, by decide⟩ wrapped

/-- No text that the request shows unwraps its bundle to the key. -/
def ServerCannotOpen
    (sodium : Sodium) (request : RegisterRequest)
    (syncMasterKey : QByteArray) : Prop :=
  ∀ text, QJsonValue.Shows text (.object request.toJson) →
    unwrapSyncMasterKey sodium (toUtf8 text) (decodedBundle request) ≠
      some syncMasterKey

theorem shows_passwordDerivedValue (request : RegisterRequest) :
    QJsonValue.Shows request.passwordDerivedValue
      (.object request.toJson) := by
  have within :
      stringMember "password_derived_value" request.passwordDerivedValue ∈
        request.toJson := by
    rw [RegisterRequest.toJson,
      QJsonObject.ofMembers_of_nodup
        (by simp only [List.map, stringMember]; decide)]
    exact .tail _ (.head _)
  exact .member within .string

namespace AuthService

variable {json : QJsonDocument} {sodium : Sodium}
  {sha256 : QByteArray → List.Vector UInt8 kSha256Bytes}
  {service : AuthService}

/-- A request carries its bundle through the transport encoders, so the bundle
in a request is the bundle that was wrapped. -/
theorem decodedBundle_registerRequest
    {username derived : QString} {identity : IdentityKeys}
    {signedPrekey : SignedPrekey} {wrappedSync : WrappedSyncKeyBundle}
    (inRange : wrappedSync.params.InRange) :
    decodedBundle
        (service.registerRequest username derived identity signedPrekey
          wrappedSync) = wrappedSync := by
  have travels :
      decodedBundle
          (service.registerRequest username derived identity signedPrekey
            wrappedSync) = travelledBundle wrappedSync := rfl
  rw [travels, travelledBundle_eq inRange]

/-- A registration that makes a request has wrapped the sync master key under
the password value it sends. -/
theorem registration_eq_some
    {username passwordDerived : QString} {outcome : RegisterOutcome}
    {request : RegisterRequest}
    (sent :
      (registerUser json sodium sha256 service username passwordDerived
        outcome).1.registration = some request) :
    wrapSyncMasterKey sodium (toUtf8 request.passwordDerivedValue)
      (randomBytes sodium outcome.syncMasterKey) {} outcome.wrap =
        some (decodedBundle request) := by
  rcases registerUser_cases json sodium sha256 service username
      passwordDerived outcome with
    stopped | stopped |
      ⟨identity, signedPrekey, wrappedSync, _, wrapped, signedIn⟩
  · rw [stopped] at sent
    contradiction
  · rw [stopped] at sent
    contradiction
  · rw [signedIn, AuthReport.registration, signIn_request] at sent
    obtain rfl := Option.some.inj sent
    have inRange : wrappedSync.params.InRange := by
      rw [(wrapSyncMasterKey_eq_some wrapped).2.2.1]
      exact ⟨by decide, by decide, by decide⟩
    rw [decodedBundle_registerRequest inRange]
    exact wrapped

/-- The request opens itself: its password value unwraps its bundle. -/
theorem unwrap_registration
    {username passwordDerived : QString} {outcome : RegisterOutcome}
    {request : RegisterRequest}
    (correct : sodium.AeadCorrect)
    (sent :
      (registerUser json sodium sha256 service username passwordDerived
        outcome).1.registration = some request) :
    unwrapSyncMasterKey sodium (toUtf8 request.passwordDerivedValue)
      (decodedBundle request) =
        some (randomBytes sodium outcome.syncMasterKey) :=
  unwrapSyncMasterKey_of_wrap correct (registration_eq_some sent)

/-- Whatever a registration is called with, the server can open the sync key
bundle of every request it sends. -/
theorem registerUser_server_opens
    (json : QJsonDocument)
    (sodium : Sodium)
    (sha256 : QByteArray → List.Vector UInt8 kSha256Bytes)
    (service : AuthService)
    (username passwordDerived : QString)
    (outcome : RegisterOutcome)
    (request : RegisterRequest)
    (correct : sodium.AeadCorrect)
    (sent :
      (registerUser json sodium sha256 service username passwordDerived
        outcome).1.registration = some request) :
    ¬ ServerCannotOpen sodium request
      (randomBytes sodium outcome.syncMasterKey) := by
  intro cannotOpen
  exact cannotOpen request.passwordDerivedValue
    (shows_passwordDerivedValue request) (unwrap_registration correct sent)

/-- A registration of the user `bob`. -/
theorem registerUser_server_opens_bob :
    let outcome :=
      ReferenceService.registerOutcome (QString.literal "u2")
        (QString.literal "r2") (QString.literal "a2") 5
    ∃ request,
      (registerUser ReferenceJson.json ReferenceSodium.sodium
        ReferenceService.sha256 ReferenceService.service
        (QString.literal "bob") (QString.literal "secret")
        outcome).1.registration = some request ∧
      ¬ ServerCannotOpen ReferenceSodium.sodium request
        (randomBytes ReferenceSodium.sodium outcome.syncMasterKey) := by
  intro outcome
  obtain ⟨request, sent⟩ := Option.isSome_iff_exists.mp
    (show (registerUser ReferenceJson.json ReferenceSodium.sodium
        ReferenceService.sha256 ReferenceService.service
        (QString.literal "bob") (QString.literal "secret")
        outcome).1.registration.isSome = true by decide +kernel)
  exact ⟨request, sent, registerUser_server_opens _ _ _ _ _ _ _ request
    ReferenceSodium.sodium_aeadCorrect sent⟩

/-- The registration of `alice` sends the value that unwraps the key it has
drawn. -/
theorem registerUser_sends_unwrapping_value :
    let outcome :=
      ReferenceService.registerOutcome (QString.literal "u1")
        (QString.literal "r1") (QString.literal "a1") 1
    ∃ request,
      (registerUser ReferenceJson.json ReferenceSodium.sodium
        ReferenceService.sha256 ReferenceService.service
        (QString.literal "alice") (QString.literal "derived_secret")
        outcome).1.registration = some request ∧
      unwrapSyncMasterKey ReferenceSodium.sodium
        (toUtf8 request.passwordDerivedValue) (decodedBundle request) =
          some (List.replicate 32 8) ∧
      ¬ ServerCannotOpen ReferenceSodium.sodium request
        (List.replicate 32 8) := by
  intro outcome
  obtain ⟨request, sent⟩ := Option.isSome_iff_exists.mp
    (show (registerUser ReferenceJson.json ReferenceSodium.sodium
        ReferenceService.sha256 ReferenceService.service
        (QString.literal "alice") (QString.literal "derived_secret")
        outcome).1.registration.isSome = true by decide +kernel)
  have opens :
      unwrapSyncMasterKey ReferenceSodium.sodium
        (toUtf8 request.passwordDerivedValue) (decodedBundle request) =
          some (List.replicate 32 8) :=
    unwrap_registration ReferenceSodium.sodium_aeadCorrect sent
  exact ⟨request, sent, opens, fun cannotOpen =>
    cannotOpen request.passwordDerivedValue
      (shows_passwordDerivedValue request) opens⟩

end AuthService
end Services
end VoxDesktop
