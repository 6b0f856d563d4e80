import VoxDesktop.Crypto.ReferenceSodium
import VoxDesktop.Qt.ReferenceJson
import VoxDesktop.Services.AuthService

/-!
# A reference instance of the surroundings

Executable surroundings in which every operation succeeds: a vault unlocked on
an empty disk, key pairs, draws and saves that work, and a server that answers
with given identifiers and tokens.  Concrete histories of the authentication
service are evaluated in them.
-/

namespace VoxDesktop
namespace Services
namespace ReferenceService

open Qt Crypto Network

def sha256 (octets : QByteArray) : List.Vector UInt8 kSha256Bytes :=
  ReferenceSodium.squeeze kSha256Bytes (ReferenceSodium.absorb 5 octets)

def save : SaveOutcome := ⟨List.replicate 24 7, true, true, true⟩

def keys : KeyOutcome where
  identity :=
    { signKeypair :=
        some (List.Vector.replicate _ 1, List.Vector.replicate _ 2)
      dhKeypair := some (List.Vector.replicate _ 3, List.Vector.replicate _ 4)
      saves := fun _ => save }
  prekey :=
    { keypair := some (List.Vector.replicate _ 5, List.Vector.replicate _ 6)
      saves := fun _ => save }

/-- A service whose vault was just created. -/
def service : AuthService :=
  let unlocked :=
    VaultService.unlockWithPassword ReferenceJson.json ReferenceSodium.sodium
      (.onPath (QString.literal "vault.json")) (fun _ => none)
      (QString.literal "vault-password")
      ⟨true, true, List.replicate kPwhashSaltBytes 9, save⟩
  .constructed ⟨QString.literal "http://fake", []⟩ unlocked.2
    (QString.literal "default") (QString.literal "dev_desktop")

/-- A session response of a server. -/
def accepting (userId refreshToken : QString) : NetworkResponse where
  statusCode := 200
  body := ReferenceJson.json.toJson
    [stringMember "user_id" userId,
      stringMember "access_token" (QString.literal "access"),
      stringMember "refresh_token" refreshToken,
      stringMember "device_status" (QString.literal "active")]
  errorMessage := []

/-- A response of a server that accepts nothing. -/
def rejecting : NetworkResponse :=
  ⟨401, [], QString.literal "unauthorized"⟩

def persist (accountId : QString) (now : ℤ) : PersistOutcome :=
  ⟨save, accountId, now, true⟩

def registerOutcome
    (userId refreshToken accountId : QString) (now : ℤ) : RegisterOutcome where
  keys := keys
  syncMasterKey := List.Vector.replicate _ 8
  wrap := ⟨List.Vector.replicate _ 10, List.Vector.replicate _ 11⟩
  response := accepting userId refreshToken
  persist := persist accountId now

def loginOutcome
    (userId refreshToken accountId : QString) (now : ℤ) : LoginOutcome where
  keys := keys
  response := accepting userId refreshToken
  persist := persist accountId now

def restoreOutcome : RestoreOutcome where
  selected := true
  response :=
    AuthApi.refreshed ReferenceJson.json
      ⟨QString.literal "access", QString.literal "refreshed"⟩
  save := save
  now := 9
  upserted := true

def logoutOutcome : LogoutOutcome where
  response := ⟨204, [], []⟩
  selected := true
  save := save
  deleted := true

end ReferenceService
end Services
end VoxDesktop
