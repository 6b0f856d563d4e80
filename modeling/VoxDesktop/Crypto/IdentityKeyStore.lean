import VoxDesktop.Crypto.VaultService

/-!
# Identity keys

`crypto/IdentityKeyStore` over a vault service and its files.  Freshly drawn
key pairs are arguments; a store of several secrets is the chain of
`storeSecret` calls that the source joins by `&&`.
-/

namespace VoxDesktop
namespace Crypto

open Qt

abbrev kSignPublicKeyBytes : ℕ := 32
abbrev kKxPublicKeyBytes : ℕ := 32
abbrev kKxSecretKeyBytes : ℕ := 32

/-- Result of `crypto_kx_keypair`; nothing for a nonzero return code. -/
abbrev KxKeypair : Type :=
  Option (List.Vector UInt8 kKxPublicKeyBytes ×
    List.Vector UInt8 kKxSecretKeyBytes)

namespace VaultService

section Chains

variable (json : QJsonDocument) (sodium : Sodium)

/-- Calls joined by `&&`: the first one that fails ends the chain. -/
def writeAll :
    VaultService × Files → List WriteCall → Bool × VaultService × Files
  | state, [] => (true, state)
  | state, call :: calls =>
      let written := write json sodium state call
      if written.1 then writeAll written.2 calls else written

/-- The calls that store named values, each with what happens around its
save. -/
def storeCalls
    (secrets : List (QString × QByteArray)) (saves : ℕ → SaveOutcome) :
    List WriteCall :=
  secrets.mapIdx fun index secret => .store secret.1 secret.2 (saves index)

variable {json sodium}

/-- A call changes no other name of the view. -/
theorem loadSecret_write
    (state : VaultService × Files) {call : WriteCall} {name : QString}
    (other : call.name ≠ name) :
    (write json sodium state call).2.1.loadSecret name =
      state.1.loadSecret name := by
  cases call with
  | store changed value outcome =>
      rw [write, storeSecret]
      split
      · rfl
      · exact loadSecret_congr rfl (AList.lookup_insert_ne (Ne.symm other))
  | remove changed outcome =>
      rw [write, removeSecret]
      split
      · rfl
      split
      · rfl
      · exact loadSecret_congr rfl (AList.lookup_erase_ne (Ne.symm other))

theorem loadSecret_writeAll
    {state : VaultService × Files} {calls : List WriteCall} {name : QString}
    (others : ∀ call ∈ calls, call.name ≠ name) :
    (writeAll json sodium state calls).2.1.loadSecret name =
      state.1.loadSecret name := by
  induction calls generalizing state with
  | nil => rfl
  | cons call calls inductionHypothesis =>
      have unchanged :
          (write json sodium state call).2.1.loadSecret name =
            state.1.loadSecret name :=
        loadSecret_write state (others call List.mem_cons_self)
      rw [writeAll]
      split
      · rw [inductionHypothesis fun later member =>
          others later (List.mem_cons_of_mem _ member), unchanged]
      · exact unchanged

theorem name_of_mem_storeCalls
    {secrets : List (QString × QByteArray)} {saves : ℕ → SaveOutcome}
    {call : WriteCall}
    (member : call ∈ storeCalls secrets saves) :
    call.name ∈ secrets.map Prod.fst := by
  obtain ⟨index, bound, rfl⟩ := List.mem_mapIdx.mp member
  exact List.mem_map.mpr ⟨secrets[index], List.getElem_mem bound, rfl⟩

end Chains

end VaultService

structure IdentityKeys where
  signingPublic : QByteArray
  signingPrivate : QByteArray
  dhPublic : QByteArray
  dhPrivate : QByteArray

/-- What happens around one call of `ensureIdentityKeys`. -/
structure IdentityOutcome where
  /-- Result of `crypto_sign_keypair`. -/
  signKeypair :
    Option (List.Vector UInt8 kSignPublicKeyBytes ×
      List.Vector UInt8 kSignSecretKeyBytes)
  dhKeypair : KxKeypair
  saves : ℕ → SaveOutcome

namespace IdentityKeyStore

open VaultService

def kSignPub : QString := QString.literal "identity_sign_pub"
def kSignPriv : QString := QString.literal "identity_sign_priv"
def kDhPub : QString := QString.literal "identity_dh_pub"
def kDhPriv : QString := QString.literal "identity_dh_priv"

def identityKeys (vault : VaultService) : Option IdentityKeys := do
  let signPub ← vault.loadSecret kSignPub
  let signPriv ← vault.loadSecret kSignPriv
  let dhPub ← vault.loadSecret kDhPub
  let dhPriv ← vault.loadSecret kDhPriv
  return ⟨signPub, signPriv, dhPub, dhPriv⟩

/-- The secrets `ensureIdentityKeys` stores, in its order. -/
def identitySecrets (keys : IdentityKeys) : List (QString × QByteArray) :=
  [(kSignPub, keys.signingPublic), (kSignPriv, keys.signingPrivate),
    (kDhPub, keys.dhPublic), (kDhPriv, keys.dhPrivate)]

def ensureIdentityKeys
    (json : QJsonDocument) (sodium : Sodium)
    (state : VaultService × Files) (outcome : IdentityOutcome) :
    Bool × VaultService × Files :=
  if state.1.m_unlocked = false ∨ sodium.initialized = false then
    (false, state)
  else if (identityKeys state.1).isSome then (true, state)
  else
    match outcome.signKeypair, outcome.dhKeypair with
    | some (signPk, signSk), some (dhPk, dhSk) =>
        writeAll json sodium state
          (storeCalls
            (identitySecrets
              ⟨signPk.toList, signSk.toList, dhPk.toList, dhSk.toList⟩)
            outcome.saves)
    | _, _ => (false, state)

/-- Making identity keys changes no other name of the vault. -/
theorem loadSecret_ensureIdentityKeys
    (json : QJsonDocument) (sodium : Sodium)
    (state : VaultService × Files) (outcome : IdentityOutcome)
    {name : QString}
    (other : name ∉ [kSignPub, kSignPriv, kDhPub, kDhPriv]) :
    (ensureIdentityKeys json sodium state outcome).2.1.loadSecret name =
      state.1.loadSecret name := by
  unfold ensureIdentityKeys
  split
  · rfl
  split
  · rfl
  split
  · refine loadSecret_writeAll fun call member => ?_
    rintro rfl
    exact other (name_of_mem_storeCalls member)
  · rfl

end IdentityKeyStore
end Crypto
end VoxDesktop
