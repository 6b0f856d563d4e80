import VoxDesktop.Application.ReferenceApplication
import VoxDesktop.Integration.System
import VoxDesktop.Qt.ReferenceNestedJson

/-!
# A reference instance of the system

Two clients on empty data directories and their server, in the reference
surroundings of the application.  Every request is delivered.
-/

namespace VoxDesktop
namespace Integration
namespace ReferenceSystem

open Library Qt Crypto Network Services Application FakeVoxServer

def moment : Moment := ⟨1, 2, 3, id, List.Perm.refl⟩

def delivered : Exchange := ⟨moment, .delivered⟩

def serverUrl : QString := ReferenceApplication.firstServer

/-- The client gets a new process. -/
def starting (client : Bool) : SystemEvent Bool :=
  .initialized client serverUrl ReferenceVault.password
    ReferenceApplication.initializing

/-- The user of the client registers; the answer is the one of the server. -/
def registering (client : Bool) (username : QString) : SystemEvent Bool :=
  .call client
    (.registerUser username (QString.literal "p")
      (ReferenceService.registerOutcome [] [] (QString.literal "row") 1))
    delivered

def alice : QString := QString.literal "alice"

def bob : QString := QString.literal "bob"

def systemAfter (events : List (SystemEvent Bool)) : System Bool :=
  Integration.systemAfter ReferenceNestedJson.json ReferenceSodium.sodium
    ReferenceService.sha256 id [] (fun _ => ReferenceApplication.emptyData)
    events

/-- The client restores its session. -/
def restoring (client : Bool) : SystemEvent Bool :=
  .call client (.restoreSession ReferenceService.restoreOutcome) delivered

/-- A process of the client in which the user registers. -/
def signingUp (client : Bool) (username : QString) :
    List (SystemEvent Bool) :=
  [starting client, registering client username]

/-- Both users register, each at an own client. -/
def registered : List (SystemEvent Bool) :=
  signingUp false alice ++ signingUp true bob

/-- Alice submits a text. -/
def submitting : SystemEvent Bool :=
  .submit false (QString.literal "c1") (QString.literal "hi") none
    ⟨QString.literal "e1", ⟨0, [], []⟩, 5, true, 6, true⟩ delivered

/-- The server answers nothing about an envelope. -/
def answers (_ : EnvelopeDto) : EnvelopeAnswers :=
  ⟨⟨false, 404, [], none⟩, ⟨false, 404, [], none⟩, true⟩

/-- The client of Bob polls. -/
def polling : SystemEvent Bool := .poll true ⟨[], false⟩ answers delivered

/-- The events above are allowed under the password of the vaults. -/
theorem allowed_of_forall
    {events : List (SystemEvent Bool)}
    (each : ∀ event ∈ events, ∃ client,
      event = starting client ∨ event = restoring client ∨
        event = registering client alice ∨ event = registering client bob ∨
        event = submitting ∨ event = polling) :
    ∀ event ∈ events,
      event.Allowed fun _ => [ReferenceVault.password] := by
  intro event member
  obtain ⟨client, rfl | rfl | rfl | rfl | rfl | rfl⟩ := each event member
  · exact ⟨List.mem_singleton_self _, IsAsciiText.isUtf16
      (by decide : IsAsciiText ReferenceApplication.initializing.uuid)⟩
  · exact IsAsciiText.isUtf16 (by decide : IsAsciiText [])
  · exact IsAsciiText.isUtf16 (by decide : IsAsciiText alice)
  · exact IsAsciiText.isUtf16 (by decide : IsAsciiText bob)
  · trivial
  · trivial

end ReferenceSystem
end Integration
end VoxDesktop
