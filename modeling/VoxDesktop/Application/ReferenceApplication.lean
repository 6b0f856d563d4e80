import VoxDesktop.Application.Handlers
import VoxDesktop.Crypto.ReferenceVault
import VoxDesktop.Services.ReferenceService

/-!
# A reference instance of the application

The reference surroundings around whole processes: initializing works, servers
are healthy and accept a user, and the handlers meet answers in which nothing
fails.  Concrete runs of the application are evaluated in them.
-/

namespace VoxDesktop
namespace Application
namespace ReferenceApplication

open Qt Crypto Network Services Ui

def environment : Environment where
  json := ReferenceJson.json
  sodium := ReferenceSodium.sodium
  sha256 := ReferenceService.sha256
  appDataPath := []
  vaultPassword := ReferenceVault.password

/-- What the first process finds. -/
def emptyData : AppData := ⟨fun _ => none, [], []⟩

def initializing : InitializeOutcome where
  directory := true
  unlock := ReferenceVault.outcome
  databaseError := none
  migrationError := none
  fileStore := true
  uuid := QString.literal "dev_desktop"
  seed := List.Vector.replicate _ 12
  save := ReferenceVault.save

def firstServer : QString := QString.literal "https://one.example"

def secondServer : QString := QString.literal "https://two.example"

def page : WelcomePage :=
  .constructed [] (QString.literal "http://127.0.0.1:8080")

def healthy : NetworkResponse where
  statusCode := 200
  body := ReferenceJson.json.toJson
    [stringMember "status" (QString.literal "ok")]
  errorMessage := []

/-- The user connects to a healthy server. -/
def connecting (serverBaseUrl : QString) : List AppEvent :=
  [.connectClicked serverBaseUrl,
    .healthFinished healthy initializing ReferenceService.restoreOutcome none]

/-- The user `u1` logs in. -/
def loggingIn : AppEvent :=
  .loginSubmitted (QString.literal "alice") (QString.literal "p")
    (ReferenceService.loginOutcome (QString.literal "u1")
      (QString.literal "r1") (QString.literal "a1") 1) none

end ReferenceApplication
end Application
end VoxDesktop
