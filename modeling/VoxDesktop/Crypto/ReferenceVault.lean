import VoxDesktop.Crypto.ReferenceSodium
import VoxDesktop.Crypto.VaultService
import VoxDesktop.Qt.ReferenceJson

/-!
# A reference vault

A vault just created on an empty disk with the reference codec and library,
from which concrete runs of the key stores are evaluated.
-/

namespace VoxDesktop
namespace Crypto
namespace ReferenceVault

open Qt VaultService

def vaultPath : QString := QString.literal "vault.json"

def password : QString := QString.literal "vault-password"

/-- A save that works. -/
def save : SaveOutcome := ⟨List.replicate 24 7, true, true, true⟩

/-- A save whose commit fails. -/
def failedSave : SaveOutcome := ⟨List.replicate 24 7, true, true, false⟩

def outcome : UnlockOutcome :=
  ⟨true, true, List.replicate kPwhashSaltBytes 9, save⟩

/-- What unlocking returns and leaves. -/
def unlocking : Bool × VaultService × Files :=
  unlockWithPassword ReferenceJson.json ReferenceSodium.sodium
    (onPath vaultPath) (fun _ => none) password outcome

def start : VaultService × Files := unlocking.2

theorem unlocking_returns : unlocking.1 = true := by decide +kernel

end ReferenceVault
end Crypto
end VoxDesktop
