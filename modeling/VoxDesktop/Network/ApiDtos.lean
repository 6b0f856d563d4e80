import VoxDesktop.Qt.Json

/-!
# Requests and responses of the authentication interface

`network/JsonCodec` and the part of `network/ApiDtos` that belongs to
registration, login and session refresh: requests as JSON objects, and parsers
that accept an object only when every required field has its type.
-/

namespace VoxDesktop
namespace Network

open Qt

namespace JsonCodec

/-- The object, or the text that `parseObject` leaves in its error
argument. -/
def parseObject
    (json : QJsonDocument) (bytes : QByteArray) :
    Except QString QJsonObject :=
  json.parse bytes

def toBytes (json : QJsonDocument) (object : QJsonObject) : QByteArray :=
  json.toJson object

end JsonCodec

/-- `GetString`: a member that is a string. -/
def getString (object : QJsonObject) (field : String) : Option QString :=
  let value := object.value (QString.literal field)
  if value.isString then some value.toString else none

structure ApiError where
  code : ℤ
  message : QString

def parseApiError (object : QJsonObject) : Option ApiError :=
  let errorObject := (object.value (QString.literal "error")).toObject
  if errorObject.isEmpty then none
  else
    let codeValue := errorObject.value (QString.literal "code")
    let messageValue := errorObject.value (QString.literal "message")
    if codeValue.isDouble = false ∨ messageValue.isString = false then none
    else some ⟨codeValue.toInt 0, messageValue.toString⟩

/-! ## Requests -/

structure RegisterRequest where
  username : QString
  passwordDerivedValue : QString
  deviceId : QString
  deviceLabel : QString
  identityKeyPublic : QString
  signedPrekeyPublic : QString
  signedPrekeySignature : QString
  wrappedSyncKey : QString
  syncWrapSalt : QString
  syncWrapParams : QJsonObject

def stringMember (field : String) (text : QString) : QString × QJsonValue :=
  (QString.literal field, .string text)

def RegisterRequest.toJson (request : RegisterRequest) : QJsonObject :=
  .ofMembers
    [stringMember "username" request.username,
      stringMember "password_derived_value" request.passwordDerivedValue,
      stringMember "device_id" request.deviceId,
      stringMember "device_label" request.deviceLabel,
      stringMember "identity_key_public" request.identityKeyPublic,
      stringMember "signed_prekey_public" request.signedPrekeyPublic,
      stringMember "signed_prekey_signature" request.signedPrekeySignature,
      stringMember "wrapped_sync_key" request.wrappedSyncKey,
      stringMember "sync_wrap_salt" request.syncWrapSalt,
      (QString.literal "sync_wrap_params", .object request.syncWrapParams)]

structure LoginRequest where
  username : QString
  passwordDerivedValue : QString
  deviceId : QString
  deviceLabel : QString
  identityKeyPublic : QString
  signedPrekeyPublic : QString
  signedPrekeySignature : QString

def LoginRequest.toJson (request : LoginRequest) : QJsonObject :=
  .ofMembers <|
    [stringMember "username" request.username,
      stringMember "password_derived_value" request.passwordDerivedValue,
      stringMember "device_id" request.deviceId] ++
    (if request.deviceLabel = [] then []
    else [stringMember "device_label" request.deviceLabel]) ++
    if request.identityKeyPublic = [] then []
    else
      [stringMember "identity_key_public" request.identityKeyPublic,
        stringMember "signed_prekey_public" request.signedPrekeyPublic,
        stringMember "signed_prekey_signature" request.signedPrekeySignature]

structure RefreshRequest where
  refreshToken : QString
  deviceId : QString

def RefreshRequest.toJson (request : RefreshRequest) : QJsonObject :=
  .ofMembers
    [stringMember "refresh_token" request.refreshToken,
      stringMember "device_id" request.deviceId]

/-! ## Responses -/

structure AuthSessionResponse where
  userId : QString
  accessToken : QString
  refreshToken : QString
  deviceStatus : QString
  syncKeyVersion : ℤ

def parseAuthSessionResponse
    (object : QJsonObject) : Option AuthSessionResponse := do
  let userId ← getString object "user_id"
  let accessToken ← getString object "access_token"
  let refreshToken ← getString object "refresh_token"
  let deviceStatus ← getString object "device_status"
  return {
    userId := userId
    accessToken := accessToken
    refreshToken := refreshToken
    deviceStatus := deviceStatus
    syncKeyVersion :=
      (object.value (QString.literal "sync_key_version")).toInt 0 }

structure RefreshResponse where
  accessToken : QString
  refreshToken : QString

def parseRefreshResponse (object : QJsonObject) : Option RefreshResponse := do
  let accessToken ← getString object "access_token"
  let refreshToken ← getString object "refresh_token"
  return ⟨accessToken, refreshToken⟩

structure MeResponse where
  userId : QString
  username : QString
  currentDeviceId : QString
  syncKeyVersion : ℤ

def parseMeResponse (object : QJsonObject) : Option MeResponse := do
  let userId ← getString object "user_id"
  let username ← getString object "username"
  let currentDeviceId ← getString object "current_device_id"
  return {
    userId := userId
    username := username
    currentDeviceId := currentDeviceId
    syncKeyVersion :=
      (object.value (QString.literal "sync_key_version")).toInt 0 }

/-- The object of a refresh response, as a server writes it. -/
def RefreshResponse.toJson (response : RefreshResponse) : QJsonObject :=
  [stringMember "access_token" response.accessToken,
    stringMember "refresh_token" response.refreshToken]

theorem RefreshResponse.toJson_flat (response : RefreshResponse) :
    response.toJson.Flat := by
  intro member within
  simp only [toJson, List.mem_cons, List.not_mem_nil, or_false] at within
  rcases within with rfl | rfl
  · exact Or.inl ⟨_, rfl⟩
  · exact Or.inl ⟨_, rfl⟩

theorem RefreshResponse.toJson_distinct (response : RefreshResponse) :
    response.toJson.keys.Nodup := by
  change [QString.literal "access_token",
    QString.literal "refresh_token"].Nodup
  decide

/-- A string member is found in an object with distinct keys. -/
theorem getString_of_mem
    {object : QJsonObject} {field : String} {text : QString}
    (distinct : object.keys.Nodup)
    (within : stringMember field text ∈ object) :
    getString object field = some text := by
  rw [stringMember] at within
  rw [getString, QJsonObject.value_of_mem distinct within]
  rfl

/-- A refresh response parses in any order of members. -/
theorem parseRefreshResponse_perm
    {object : QJsonObject} {response : RefreshResponse}
    (readBack : object.Perm response.toJson) :
    parseRefreshResponse object = some response := by
  have distinct : object.keys.Nodup :=
    (readBack.map Prod.fst).nodup_iff.mpr response.toJson_distinct
  have accessToken :
      getString object "access_token" = some response.accessToken :=
    getString_of_mem distinct (readBack.mem_iff.mpr (.head _))
  have refreshToken :
      getString object "refresh_token" = some response.refreshToken :=
    getString_of_mem distinct (readBack.mem_iff.mpr (.tail _ (.head _)))
  rw [parseRefreshResponse, accessToken, refreshToken]
  rfl

end Network
end VoxDesktop
