import Mathlib.Data.List.DropRight
import VoxDesktop.Network.AuthApi

/-!
# The welcome page

`ui/auth/WelcomePage`: the user enters the URL of a server, a health check
runs in the background, and when it succeeds the page enables signing in,
remembers the URL and announces it.
-/

namespace VoxDesktop
namespace Network
namespace ApiPaths

open Qt

def kHealth : QString := QString.literal "/v1/health"

end ApiPaths
end Network

namespace Ui

open Qt Network

structure WelcomePage where
  /-- The text of `m_baseUrlEdit`. -/
  baseUrlEdit : QString
  m_selectedBaseUrl : QString := []
  /-- The text of `m_statusLabel`. -/
  status : QString := QString.literal "Not connected"
  /-- Whether the buttons to log in and to register are enabled. -/
  signInEnabled : Bool := false
  /-- `m_healthWatcher.isRunning()`. -/
  checking : Bool := false
  /-- The setting `vox/server_base_url`. -/
  remembered : QString

namespace WelcomePage

/-- The page as it is constructed. -/
def constructed (remembered defaultUrl : QString) : WelcomePage where
  baseUrlEdit := if remembered = [] then defaultUrl else remembered
  remembered := remembered

def normalizeBaseUrl (url : QString) : QString :=
  (trimmed url).rdropWhile fun unit => unit = 0x2F

/-- The request of a health check. -/
def healthRequest (baseUrl : QString) : HttpRequest × QUrlQuery :=
  NetworkAccess.get ⟨baseUrl, []⟩ ApiPaths.kHealth []

/-- `CheckHealthSync` on the response to its request. -/
def checkHealthSync (json : QJsonDocument) (response : NetworkResponse) :
    Bool :=
  if response.ok = false then false
  else
    match JsonCodec.parseObject json response.body with
    | .error _ => false
    | .ok object =>
        (object.value (QString.literal "status")).toString =
          QString.literal "ok"

variable (page : WelcomePage)

def setStatusOk (message : QString) : WelcomePage :=
  { page with status := message }

def setStatusError (message : QString) : WelcomePage :=
  { page with
    status := message
    signInEnabled := false
    m_selectedBaseUrl := [] }

/-- `onConnectClicked` with a text in the edit: the request of the health check
that it starts, and the page. -/
def onConnectClicked (edited : QString) :
    Option (HttpRequest × QUrlQuery) × WelcomePage :=
  if page.checking then (none, page)
  else
    let baseUrl := normalizeBaseUrl edited
    let normalized := { page with baseUrlEdit := baseUrl }
    if (QString.literal "http://").isPrefixOf baseUrl ||
        (QString.literal "https://").isPrefixOf baseUrl then
      (some (healthRequest baseUrl),
        { normalized with
          checking := true
          status := QString.literal "Checking server health…" })
    else
      (none,
        normalized.setStatusError
          (QString.literal "URL must start with http:// or https://"))

/-- `onHealthFinished` on the result of a health check: the URL that
`serverBaseUrlReady` announces, and the page. -/
def onHealthFinished (ok : Bool) : Option QString × WelcomePage :=
  let ready := { page with checking := false }
  let baseUrl := normalizeBaseUrl page.baseUrlEdit
  if ok = false then
    (none,
      ready.setStatusError
        (QString.literal
          "Health check failed. Verify URL and server status."))
  else
    (some baseUrl,
      { ready.setStatusOk (QString.literal "Connected") with
        m_selectedBaseUrl := baseUrl
        remembered := baseUrl
        signInEnabled := true })

end WelcomePage
end Ui
end VoxDesktop
