import VoxDesktop.Integration.Answers

/-!
# What the server reads in a request

The fields that the routes of the server look up, in the bodies that the
authentication service writes.
-/

namespace VoxDesktop
namespace Integration

open Qt Crypto Network Services AuthService FakeVoxServer

/-- The server reads this text in a body. -/
def ReadsAs
    (json : QJsonDocument) (body : QByteArray) (field : String)
    (text : QString) : Prop :=
  ∃ object, parseJson json body = some object ∧
    stringField object field = text

section Readings

variable {json : QJsonDocument}

theorem readsAs_of_flat
    (roundTrips : json.RoundTrips)
    {object : QJsonObject} (flat : object.Flat)
    (distinct : object.keys.Nodup) {field : String} {text : QString}
    (within : stringMember field text ∈ object) :
    ReadsAs json (json.toJson object) field text := by
  obtain ⟨members, parsed, read⟩ := roundTrips object flat distinct
  refine ⟨members, by rw [parseJson, parsed], ?_⟩
  have distinctRead : members.keys.Nodup :=
    ((read.map Prod.fst).nodup_iff).mpr distinct
  rw [stringField, QJsonObject.value_of_mem distinctRead
    (read.mem_iff.mpr within)]
  rfl

theorem readsAs_of_composed
    (nested : json.RoundTripsNested)
    {object : QJsonObject} (distinct : object.keys.Nodup)
    (named : ∀ key ∈ object.keys, IsAsciiText key)
    (composed : ∀ member ∈ object, Composed IsWritable 1 member.2)
    {field : String} {text : QString}
    (within : stringMember field text ∈ object) :
    ReadsAs json (json.toJson object) field text := by
  have whole : Composed IsWritable kNestingLimit (.object object) := by
    have shallow := Composed.object distinct
      (fun key member => IsWritable.string (named key member).isUtf16)
      composed
    exact shallow.mono (by decide)
  refine ⟨object.sorted, by rw [parseJson, nested object whole], ?_⟩
  rw [stringField, QJsonObject.value_sorted distinct,
    QJsonObject.value_of_mem distinct within]
  rfl

theorem isAsciiText_toB64 (bytes : QByteArray) : IsAsciiText (toB64 bytes) :=
  isAsciiText_fromUtf8 (toBase64_ascii _ bytes)

theorem isAsciiText_sha256HexLower
    (sha256 : QByteArray → List.Vector UInt8 kSha256Bytes)
    (input : QString) :
    IsAsciiText (sha256HexLower sha256 input) :=
  isAsciiText_fromLatin1 (isAscii_toHex _)

theorem composed_defaultParams :
    Composed IsWritable 1
      (.object (SyncWrapParams.toJson {})) := by
  apply Composed.object
  · decide
  · intro key member
    have ascii : ∀ key ∈ (SyncWrapParams.toJson {}).keys,
        IsAsciiText key := by decide
    exact .string (ascii key member).isUtf16
  · intro member within
    apply Composed.leaf
    change member ∈
      [(QString.literal "algorithm", .string (QString.literal "argon2id")),
        (QString.literal "memory_kib", .double ((65536 : ℕ) : ℚ)),
        (QString.literal "iterations", .double ((3 : ℕ) : ℚ)),
        (QString.literal "parallelism", .double ((1 : ℕ) : ℚ))] at within
    simp only [List.mem_cons, List.not_mem_nil, or_false] at within
    rcases within with rfl | rfl | rfl | rfl
    · exact .string (IsAsciiText.isUtf16 (by decide))
    · exact .double (by decide)
    · exact .double (by decide)
    · exact .double (by decide)

section Requests

variable {service : AuthService}

/-- The keys of a registration. -/
def registerFields : List QString :=
  [QString.literal "username", QString.literal "password_derived_value",
    QString.literal "device_id", QString.literal "device_label",
    QString.literal "identity_key_public",
    QString.literal "signed_prekey_public",
    QString.literal "signed_prekey_signature",
    QString.literal "wrapped_sync_key", QString.literal "sync_wrap_salt",
    QString.literal "sync_wrap_params"]

theorem registerFields_distinct : registerFields.Nodup := by decide

theorem registerFields_ascii : ∀ key ∈ registerFields, IsAsciiText key := by
  decide

theorem registerRequest_reads
    (nested : json.RoundTripsNested)
    {username derived : QString} {identity : IdentityKeys}
    {signedPrekey : SignedPrekey} {wrappedSync : WrappedSyncKeyBundle}
    (typed : IsUtf16 username) (hashed : IsAsciiText derived)
    (device : IsUtf16 service.m_deviceId)
    (params : wrappedSync.params = {}) :
    ReadsAs json
      (json.toJson
        (service.registerRequest username derived identity signedPrekey
          wrappedSync).toJson) "username" username := by
  have members :
      (service.registerRequest username derived identity signedPrekey
        wrappedSync).toJson =
          [stringMember "username" username,
            stringMember "password_derived_value" derived,
            stringMember "device_id" service.m_deviceId,
            stringMember "device_label" deviceLabel,
            stringMember "identity_key_public" (toB64 identity.dhPublic),
            stringMember "signed_prekey_public"
              (toB64 signedPrekey.publicKey),
            stringMember "signed_prekey_signature"
              (toB64 signedPrekey.signature),
            stringMember "wrapped_sync_key"
              (toB64 wrappedSync.wrappedSyncKey),
            stringMember "sync_wrap_salt" (toB64 wrappedSync.salt),
            (QString.literal "sync_wrap_params",
              .object (SyncWrapParams.toJson {}))] := by
    rw [RegisterRequest.toJson, registerRequest, params]
    exact QJsonObject.ofMembers_of_nodup registerFields_distinct
  rw [members]
  refine readsAs_of_composed nested ?_ ?_ ?_ (.head _)
  · exact registerFields_distinct
  · exact registerFields_ascii
  have leaf : ∀ text : QString, IsUtf16 text →
      Composed IsWritable 1 (.string text) :=
    fun text wellFormed => .leaf (.string wellFormed)
  simp only [List.forall_mem_cons, List.not_mem_nil, false_implies,
    implies_true, and_true, stringMember]
  exact ⟨leaf _ typed, leaf _ hashed.isUtf16, leaf _ device,
    leaf _ (IsAsciiText.isUtf16 (by decide)),
    leaf _ (isAsciiText_toB64 _).isUtf16, leaf _ (isAsciiText_toB64 _).isUtf16,
    leaf _ (isAsciiText_toB64 _).isUtf16, leaf _ (isAsciiText_toB64 _).isUtf16,
    leaf _ (isAsciiText_toB64 _).isUtf16, composed_defaultParams⟩

theorem loginRequest_reads
    (roundTrips : json.RoundTrips) (request : LoginRequest) :
    ReadsAs json (json.toJson request.toJson) "username"
      request.username := by
  have members : ∃ others : QJsonObject,
      (QJsonObject.keys
          (stringMember "username" request.username :: others)).Nodup ∧
        (∀ member ∈ others, ∃ text, member.2 = .string text) ∧
        request.toJson =
          stringMember "username" request.username :: others := by
    rw [LoginRequest.toJson]
    by_cases unlabelled : request.deviceLabel = [] <;>
      by_cases keyless : request.identityKeyPublic = [] <;>
      simp only [unlabelled, keyless, if_true, if_false, List.append_nil,
        List.cons_append, List.nil_append]
    all_goals
      refine ⟨_, ?_, ?_, QJsonObject.ofMembers_of_nodup ?_⟩
    all_goals simp only [stringMember, QJsonObject.keys, List.map_cons,
      List.map_nil]
    all_goals first | decide | simp
  obtain ⟨others, distinct, texts, same⟩ := members
  rw [same]
  refine readsAs_of_flat roundTrips ?_ distinct (.head _)
  intro member within
  rcases List.mem_cons.mp within with rfl | within
  · exact Or.inl ⟨_, rfl⟩
  · exact Or.inl (texts member within)

theorem refreshRequest_reads
    (roundTrips : json.RoundTrips) (request : RefreshRequest) :
    ReadsAs json (json.toJson request.toJson) "refresh_token"
      request.refreshToken := by
  have distinct :
      [QString.literal "refresh_token", QString.literal "device_id"].Nodup := by
    decide
  have members : request.toJson =
      [stringMember "refresh_token" request.refreshToken,
        stringMember "device_id" request.deviceId] :=
    QJsonObject.ofMembers_of_nodup distinct
  rw [members]
  refine @readsAs_of_flat json roundTrips
    [stringMember "refresh_token" request.refreshToken,
      stringMember "device_id" request.deviceId] ?_ distinct _ _ (.head _)
  intro member within
  simp only [List.mem_cons, List.not_mem_nil, or_false] at within
  rcases within with rfl | rfl
  · exact Or.inl ⟨_, rfl⟩
  · exact Or.inl ⟨_, rfl⟩

end Requests

end Readings

end Integration
end VoxDesktop
