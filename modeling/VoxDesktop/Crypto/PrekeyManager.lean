import VoxDesktop.Crypto.IdentityKeyStore

/-!
# Prekeys

`PrekeyManager` over a vault service, its files and the counter of the
manager.  The one-time prekeys are a queue in one secret: a JSON array of
base-64 texts, each of them a JSON object with the two halves of a pair.
-/

namespace VoxDesktop
namespace Crypto

open Qt CryptoHelpers VaultService

structure SignedPrekey where
  keyId : Int32
  publicKey : QByteArray
  privateKey : QByteArray
  signature : QByteArray

/-- What happens around one call of `rotateSignedPrekey`. -/
structure PrekeyOutcome where
  keypair : KxKeypair
  saves : ℕ → SaveOutcome

namespace PrekeyManager

def kSignedPrekeyIdName : QString := QString.literal "signed_prekey_id"
def kSignedPrekeyPubName : QString := QString.literal "signed_prekey_pub"
def kSignedPrekeyPrivName : QString := QString.literal "signed_prekey_priv"
def kSignedPrekeySigName : QString := QString.literal "signed_prekey_sig"

/-- The secrets `rotateSignedPrekey` stores, in its order. -/
def prekeySecrets (prekey : SignedPrekey) : List (QString × QByteArray) :=
  [(kSignedPrekeyIdName, number prekey.keyId.toInt),
    (kSignedPrekeyPubName, prekey.publicKey),
    (kSignedPrekeyPrivName, prekey.privateKey),
    (kSignedPrekeySigName, prekey.signature)]

/-- The result, the counter after the call, and the vault after it. -/
def rotateSignedPrekey
    (json : QJsonDocument) (sodium : Sodium)
    (nextSignedPrekeyId : Int32) (state : VaultService × Files)
    (outcome : PrekeyOutcome) :
    Option SignedPrekey × Int32 × VaultService × Files :=
  if state.1.m_unlocked = false ∨ sodium.initialized = false then
    (none, nextSignedPrekeyId, state)
  else
    match IdentityKeyStore.identityKeys state.1, outcome.keypair with
    | some identity, some (prekeyPub, prekeyPriv) =>
        let signature :=
          ed25519Sign sodium identity.signingPrivate prekeyPub.toList
        if signature = [] then (none, nextSignedPrekeyId, state)
        else
          let prekey : SignedPrekey :=
            ⟨nextSignedPrekeyId, prekeyPub.toList, prekeyPriv.toList,
              signature⟩
          let stored :=
            writeAll json sodium state
              (storeCalls (prekeySecrets prekey) outcome.saves)
          -- The counter has moved on even when a store fails.
          (if stored.1 then some prekey else none,
            nextSignedPrekeyId + 1, stored.2)
    | _, _ => (none, nextSignedPrekeyId, state)

/-- The prekey a call makes; nothing if the call returns before. -/
def drawnPrekey
    (sodium : Sodium) (nextSignedPrekeyId : Int32) (vault : VaultService)
    (outcome : PrekeyOutcome) : Option SignedPrekey :=
  if vault.m_unlocked = false ∨ sodium.initialized = false then none
  else
    match IdentityKeyStore.identityKeys vault, outcome.keypair with
    | some identity, some (prekeyPub, prekeyPriv) =>
        let signature :=
          ed25519Sign sodium identity.signingPrivate prekeyPub.toList
        if signature = [] then none
        else
          some ⟨nextSignedPrekeyId, prekeyPub.toList, prekeyPriv.toList,
            signature⟩
    | _, _ => none

section Rotation

variable {sodium : Sodium} {nextSignedPrekeyId : Int32}
  {state : VaultService × Files} {outcome : PrekeyOutcome}
  {prekey : SignedPrekey}

/-- A call that makes no prekey changes nothing. -/
theorem rotateSignedPrekey_of_none
    (json : QJsonDocument)
    (drawn :
      drawnPrekey sodium nextSignedPrekeyId state.1 outcome = none) :
    rotateSignedPrekey json sodium nextSignedPrekeyId state outcome =
      (none, nextSignedPrekeyId, state) := by
  unfold drawnPrekey at drawn
  unfold rotateSignedPrekey
  split at drawn
  · rename_i refused
    exact if_pos refused
  rename_i accepted
  rw [if_neg accepted]
  split at drawn
  · extract_lets signature at drawn ⊢
    split at drawn
    · rename_i unsigned
      exact if_pos unsigned
    · contradiction
  · rfl

/-- A call that makes a prekey stores its secrets and moves the counter on,
and gives the prekey if all of them are stored. -/
theorem rotateSignedPrekey_of_some
    (json : QJsonDocument)
    (drawn :
      drawnPrekey sodium nextSignedPrekeyId state.1 outcome = some prekey) :
    rotateSignedPrekey json sodium nextSignedPrekeyId state outcome =
      let stored :=
        writeAll json sodium state
          (storeCalls (prekeySecrets prekey) outcome.saves)
      (if stored.1 then some prekey else none, nextSignedPrekeyId + 1,
        stored.2) := by
  unfold drawnPrekey at drawn
  unfold rotateSignedPrekey
  split at drawn
  · contradiction
  rename_i accepted
  rw [if_neg accepted]
  split at drawn
  · extract_lets signature at drawn ⊢
    split at drawn
    · contradiction
    · rename_i signed
      obtain rfl := Option.some.inj drawn
      exact if_neg signed
  · contradiction

/-- A prekey is a drawn pair, signed, under the counter. -/
theorem drawnPrekey_eq_some
    (drawn :
      drawnPrekey sodium nextSignedPrekeyId state.1 outcome = some prekey) :
    ∃ publicKey privateKey signature,
      outcome.keypair = some (publicKey, privateKey) ∧ signature ≠ [] ∧
        prekey =
          ⟨nextSignedPrekeyId, publicKey.toList, privateKey.toList,
            signature⟩ := by
  unfold drawnPrekey at drawn
  split at drawn
  · contradiction
  split at drawn
  · extract_lets signature at drawn
    split at drawn
    · contradiction
    · rename_i signed
      obtain rfl := Option.some.inj drawn
      exact ⟨_, _, _, ‹_›, signed, rfl⟩
  · contradiction

/-- The names of the four secrets. -/
def prekeyNames : List QString :=
  [kSignedPrekeyIdName, kSignedPrekeyPubName, kSignedPrekeyPrivName,
    kSignedPrekeySigName]

theorem prekeySecrets_names (prekey : SignedPrekey) :
    (prekeySecrets prekey).map Prod.fst = prekeyNames := rfl

theorem prekeyNames_nodup : prekeyNames.Nodup := by decide

theorem prekeyNames_nonempty : ∀ name ∈ prekeyNames, name ≠ [] := by
  decide

theorem prekeySecrets_distinct (prekey : SignedPrekey) :
    ((prekeySecrets prekey).map Prod.fst).Nodup :=
  prekeyNames_nodup

theorem prekeySecrets_nonempty
    (keyId : Int32)
    (publicKey : List.Vector UInt8 kKxPublicKeyBytes)
    (privateKey : List.Vector UInt8 kKxSecretKeyBytes)
    {signature : QByteArray}
    (signed : signature ≠ []) :
    ∀ secret ∈ prekeySecrets
        ⟨keyId, publicKey.toList, privateKey.toList, signature⟩,
      secret.1 ≠ [] ∧ secret.2 ≠ [] := by
  intro secret within
  refine ⟨prekeyNames_nonempty _ (List.mem_map_of_mem within), ?_⟩
  simp only [prekeySecrets, List.mem_cons, List.not_mem_nil, or_false]
    at within
  rcases within with rfl | rfl | rfl | rfl
  · exact number_ne_nil _
  · exact toList_ne_nil _ (by decide)
  · exact toList_ne_nil _ (by decide)
  · exact signed

end Rotation

/-- Rotating the prekey changes no other name of the vault. -/
theorem loadSecret_rotateSignedPrekey
    (json : QJsonDocument) (sodium : Sodium) (nextSignedPrekeyId : Int32)
    (state : VaultService × Files) (outcome : PrekeyOutcome)
    {name : QString}
    (other : name ∉
      [kSignedPrekeyIdName, kSignedPrekeyPubName, kSignedPrekeyPrivName,
        kSignedPrekeySigName]) :
    (rotateSignedPrekey json sodium nextSignedPrekeyId state
        outcome).2.2.1.loadSecret name =
      state.1.loadSecret name := by
  unfold rotateSignedPrekey
  split
  · rfl
  split
  · dsimp only
    split
    · rfl
    · refine loadSecret_writeAll fun call member => ?_
      rintro rfl
      exact other (name_of_mem_storeCalls member)
  · rfl

/-! ## One-time prekeys -/

/-- What happens around one call of `publishOneTimePrekeys`. -/
structure PublishOutcome where
  keypairs : ℕ → KxKeypair
  save : SaveOutcome

def kOneTimeQueueName : QString := QString.literal "one_time_prekeys"

section OneTime

variable (json : QJsonArrayDocument) (sodium : Sodium)

def encodeOneTimeQueue (keys : List QByteArray) : QByteArray :=
  json.arrayToJson (keys.map toMember)

def decodeOneTimeQueue (encoded : QByteArray) : List QByteArray :=
  if encoded = [] then []
  else (json.fromJsonArray encoded).map fromMember

/-- The queue as the vault has it. -/
def storedQueue (view : SecretView) : List QByteArray :=
  decodeOneTimeQueue json ((view kOneTimeQueueName).getD [])

/-- The entry of a pair. -/
def queueEntry (prekeyPub prekeyPriv : QByteArray) : QByteArray :=
  json.toJson
    (.ofMembers
      [(QString.literal "pub", toMember prekeyPub),
        (QString.literal "priv", toMember prekeyPriv)])

/-- The private key of an entry. -/
def entryPrivate (entry : QByteArray) : QByteArray :=
  fromMember ((json.fromJson entry).value (QString.literal "priv"))

/-- The loop of `publishOneTimePrekeys`, which ends early when a pair cannot
be made. -/
def publishLoop (keypairs : ℕ → KxKeypair) :
    (index remaining : ℕ) → (queue created : List QByteArray) →
      List QByteArray × List QByteArray
  | _, 0, queue, created => (queue, created)
  | index, remaining + 1, queue, created =>
      match keypairs index with
      | none => (queue, created)
      | some (prekeyPub, prekeyPriv) =>
          publishLoop keypairs (index + 1) remaining
            (queue ++ [queueEntry json prekeyPub.toList prekeyPriv.toList])
            (created ++ [prekeyPub.toList])

/-- The result of saving does not matter to the caller. -/
def storeQueue
    (state : VaultService × Files) (queue : List QByteArray)
    (save : SaveOutcome) : VaultService × Files :=
  (write json.toQJsonDocument sodium state
    (.store kOneTimeQueueName (encodeOneTimeQueue json queue) save)).2

def publishOneTimePrekeys
    (state : VaultService × Files) (count : ℤ) (outcome : PublishOutcome) :
    List QByteArray × VaultService × Files :=
  if count ≤ 0 ∨ state.1.m_unlocked = false ∨ sodium.initialized = false then
    ([], state)
  else
    let published :=
      publishLoop json outcome.keypairs 0 count.toNat
        (storedQueue json state.1.loadSecret) []
    (published.2, storeQueue json sodium state published.1 outcome.save)

def consumeOneTimePrekey
    (state : VaultService × Files) (save : SaveOutcome) :
    Option QByteArray × VaultService × Files :=
  match storedQueue json state.1.loadSecret with
  | [] => (none, state)
  | entry :: queue =>
      (some (entryPrivate json entry), storeQueue json sodium state queue save)

end OneTime

end PrekeyManager
end Crypto
end VoxDesktop
