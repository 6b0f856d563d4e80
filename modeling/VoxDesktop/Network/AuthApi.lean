import VoxDesktop.Network.ApiDtos
import VoxDesktop.Network.NetworkAccess

/-!
# The authentication interface

`network/AuthApi`: each call puts one request on the wire and turns the
response, which is an argument here, into a result.
-/

namespace VoxDesktop
namespace Network

open Qt

namespace ApiPaths

def kRegister : QString := QString.literal "/v1/register"
def kLogin : QString := QString.literal "/v1/login"
def kRefresh : QString := QString.literal "/v1/refresh"
def kMe : QString := QString.literal "/v1/me"
def kLogout : QString := QString.literal "/v1/logout"
def kChangePassword : QString := QString.literal "/v1/account/change-password"

end ApiPaths

structure VoidResult where
  ok : Bool
  statusCode : ℤ
  error : QString

structure ApiResult (α : Type) where
  ok : Bool
  statusCode : ℤ
  error : QString
  data : Option α

/-- What a result carries when it is `ok`. -/
def ApiResult.accepted {α : Type} (result : ApiResult α) : Option α :=
  if result.ok then result.data else none

namespace AuthApi

section Responses

variable (json : QJsonDocument) (response : NetworkResponse)

def parseTypedResponse
    {α : Type} (parser : QJsonObject → Option α) : ApiResult α :=
  match JsonCodec.parseObject json response.body with
  | .error parseError =>
      { ok := false
        statusCode := response.statusCode
        error :=
          if response.errorMessage = [] then parseError
          else response.errorMessage
        data := none }
  | .ok object =>
      if response.ok then
        let data := parser object
        { ok := data.isSome
          statusCode := response.statusCode
          error :=
            if data.isSome then []
            else QString.literal "Unexpected response shape"
          data := data }
      else
        { ok := false
          statusCode := response.statusCode
          error :=
            match parseApiError object with
            | some apiError => apiError.message
            | none => response.errorMessage
          data := none }

def parseVoidResponse : VoidResult :=
  if response.ok then ⟨true, response.statusCode, []⟩
  else
    let error :=
      match JsonCodec.parseObject json response.body with
      | .error parseError => parseError
      | .ok object =>
          match parseApiError object with
          | some apiError => apiError.message
          | none => []
    ⟨false, response.statusCode,
      if error = [] then response.errorMessage else error⟩

end Responses

section Calls

variable (json : QJsonDocument) (network : NetworkAccess)

def registerUser (request : RegisterRequest) (response : NetworkResponse) :
    HttpRequest × ApiResult AuthSessionResponse :=
  (network.postJson ApiPaths.kRegister
      (JsonCodec.toBytes json request.toJson),
    parseTypedResponse json response parseAuthSessionResponse)

def login (request : LoginRequest) (response : NetworkResponse) :
    HttpRequest × ApiResult AuthSessionResponse :=
  (network.postJson ApiPaths.kLogin (JsonCodec.toBytes json request.toJson),
    parseTypedResponse json response parseAuthSessionResponse)

def refresh (request : RefreshRequest) (response : NetworkResponse) :
    HttpRequest × ApiResult RefreshResponse :=
  (network.postJson ApiPaths.kRefresh (JsonCodec.toBytes json request.toJson),
    parseTypedResponse json response parseRefreshResponse)

def me (response : NetworkResponse) :
    (HttpRequest × QUrlQuery) × ApiResult MeResponse :=
  (network.get ApiPaths.kMe [],
    parseTypedResponse json response parseMeResponse)

def logout (response : NetworkResponse) : HttpRequest × VoidResult :=
  (network.postJson ApiPaths.kLogout (JsonCodec.toBytes json []),
    parseVoidResponse json response)

/-- `changePassword`.  Unlike the other calls it keeps the parse error where
the response has an error of its own. -/
def changePassword
    (currentPasswordDerived newPasswordDerived wrappedSyncKey
      syncWrapSalt : QString)
    (syncWrapParams : QJsonObject) (response : NetworkResponse) :
    HttpRequest × ApiResult ℤ :=
  let body : QJsonObject :=
    .ofMembers
      [stringMember "current_password_derived_value" currentPasswordDerived,
        stringMember "new_password_derived_value" newPasswordDerived,
        stringMember "wrapped_sync_key" wrappedSyncKey,
        stringMember "sync_wrap_salt" syncWrapSalt,
        (QString.literal "sync_wrap_params", .object syncWrapParams)]
  (network.postJson ApiPaths.kChangePassword (JsonCodec.toBytes json body),
    match JsonCodec.parseObject json response.body with
    | .error parseError => ⟨false, response.statusCode, parseError, none⟩
    | .ok object =>
        if response.ok then
          let version := object.value (QString.literal "sync_key_version")
          if version.isDouble then
            ⟨true, response.statusCode, [], some (version.toInt 0)⟩
          else
            ⟨false, response.statusCode,
              QString.literal "Missing sync_key_version", none⟩
        else
          { ok := false
            statusCode := response.statusCode
            error :=
              match parseApiError object with
              | some apiError => apiError.message
              | none => response.errorMessage
            data := none })

end Calls

/-- A response of a server that accepts a refresh. -/
def refreshed (json : QJsonDocument) (tokens : RefreshResponse) :
    NetworkResponse :=
  ⟨200, json.toJson tokens.toJson, []⟩

/-- A server can accept every refresh. -/
theorem refresh_refreshed
    {json : QJsonDocument}
    (roundTrips : json.RoundTrips)
    (network : NetworkAccess)
    (request : RefreshRequest)
    (tokens : RefreshResponse) :
    (refresh json network request (refreshed json tokens)).2 =
      ⟨true, 200, [], some tokens⟩ := by
  obtain ⟨members, parsed, readBack⟩ :=
    roundTrips tokens.toJson tokens.toJson_flat tokens.toJson_distinct
  have accepted : (refreshed json tokens).ok = true := rfl
  have tokensParsed := parseRefreshResponse_perm readBack
  simp only [refresh, parseTypedResponse, JsonCodec.parseObject]
  rw [show json.parse (refreshed json tokens).body = _ from parsed]
  simp only [accepted, if_true, tokensParsed, Option.isSome_some]
  rfl

end AuthApi
end Network
end VoxDesktop
