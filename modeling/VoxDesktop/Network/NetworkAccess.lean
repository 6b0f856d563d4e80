import VoxDesktop.Qt.PercentEncoding
import Mathlib.Data.Int.Notation

/-!
# HTTP access

`network/NetworkAccess` as the interfaces use it: the request that a call puts
on the wire, with the headers it carries, and the test for a successful
response.  The response itself comes from outside.
-/

namespace VoxDesktop
namespace Network

open Qt

def kHttpStatusOkMin : ℤ := 200
def kHttpStatusOkMaxExclusive : ℤ := 300

structure NetworkResponse where
  statusCode : ℤ
  body : QByteArray
  errorMessage : QString

def NetworkResponse.ok (response : NetworkResponse) : Bool :=
  decide (kHttpStatusOkMin ≤ response.statusCode) &&
    decide (response.statusCode < kHttpStatusOkMaxExclusive) &&
      response.errorMessage.isEmpty

/-- A request on the wire. -/
structure HttpRequest where
  method : QString
  url : QString
  body : QByteArray
  headers : List (QString × QString)

/-- The items of a query, in the order in which they were added. -/
abbrev QUrlQuery : Type := List (QString × QString)

namespace QUrlQuery

/-- The items as they are meant. -/
def meant (query : QUrlQuery) : List (QByteArray × QByteArray) :=
  query.map fun item => (toUtf8 item.1, toUtf8 item.2)

/-- The items as the server reads them: `addQueryItem` takes text that is
percent-encoded already, and corrects each text for itself. -/
def received (query : QUrlQuery) : List (QByteArray × QByteArray) :=
  query.map fun item => (readInUrl item.1 item.1, readInUrl item.2 item.2)

end QUrlQuery

structure NetworkAccess where
  m_baseUrl : QString
  m_bearerToken : QString

namespace NetworkAccess

variable (network : NetworkAccess)

def setBearerToken (token : QString) : NetworkAccess :=
  { network with m_bearerToken := token }

def execute
    (method path : QString) (body : QByteArray) (contentType : QString) :
    HttpRequest :=
  let normalizedPath := if path.head? = some 0x2F then path else 0x2F :: path
  let authorization :=
    if network.m_bearerToken = [] then []
    else
      [(QString.literal "Authorization",
        QString.literal "Bearer " ++ network.m_bearerToken)]
  let content :=
    if contentType = [] then []
    else [(QString.literal "Content-Type", contentType)]
  { method := method
    url := network.m_baseUrl ++ normalizedPath
    body := body
    headers := authorization ++ content }

def postJson (path : QString) (jsonBody : QByteArray) : HttpRequest :=
  network.execute (QString.literal "POST") path jsonBody
    (QString.literal "application/json")

def putJson (path : QString) (jsonBody : QByteArray) : HttpRequest :=
  network.execute (QString.literal "PUT") path jsonBody
    (QString.literal "application/json")

/-- The request and its query; the server reads the query as
`QUrlQuery.received`. -/
def get (path : QString) (query : QUrlQuery) : HttpRequest × QUrlQuery :=
  (network.execute (QString.literal "GET") path [] [], query)

/-- The request and its query, as for `get`. -/
def putBytes (path : QString) (payload : QByteArray) (query : QUrlQuery) :
    HttpRequest × QUrlQuery :=
  (network.execute (QString.literal "PUT") path payload
    (QString.literal "application/octet-stream"), query)

def deleteRequest (path : QString) : HttpRequest :=
  network.execute (QString.literal "DELETE") path [] []

end NetworkAccess

/-! ## The token on the wire -/

/-- Values of the `Authorization` headers of a request. -/
def HttpRequest.authorization (request : HttpRequest) : List QString :=
  (request.headers.filter fun header =>
    header.1 = QString.literal "Authorization").map Prod.snd

/-- What a request carries under a token: nothing for the empty one. -/
def authorizationOf (token : QString) : List QString :=
  if token = [] then [] else [QString.literal "Bearer " ++ token]

/-- Every request carries the token that is set, and no other. -/
theorem NetworkAccess.authorization_execute
    (network : NetworkAccess)
    (method path : QString)
    (body : QByteArray)
    (contentType : QString) :
    (network.execute method path body contentType).authorization =
      authorizationOf network.m_bearerToken := by
  have noAuthorization :
      QString.literal "Content-Type" ≠ QString.literal "Authorization" := by
    decide
  unfold HttpRequest.authorization NetworkAccess.execute authorizationOf
  by_cases unset : network.m_bearerToken = [] <;>
    by_cases plain : contentType = [] <;>
    simp [unset, plain, noAuthorization]

end Network
end VoxDesktop
