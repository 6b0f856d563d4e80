import VoxDesktop.Crypto.ReferenceSodium
import VoxDesktop.Crypto.VaultService
import VoxDesktop.Library.Machine
import VoxDesktop.Qt.ReferenceJson

/-!
# Reopening a vault

As long as every call returns true, the vault file holds what the service has
in memory, and the service answers as the abstract store does.  A second
service on the same path therefore comes up with the same secrets under the
same password, and with none under a password whose key the AEAD rejects.
-/

namespace VoxDesktop
namespace Crypto
namespace VaultService

open Qt CryptoHelpers Library

/-- An unlocked service on a path, under the key of a password, whose secrets
are the ones in its file. -/
structure KeptOnDisk
    (json : QJsonDocument)
    (sodium : Sodium)
    (vaultPath password : QString)
    (state : VaultService × Files) : Prop where
  unlocked : state.1.m_unlocked = true
  path : state.1.m_vaultPath = vaultPath
  key : vaultKeyOf sodium password state.1.m_salt = state.1.m_vaultKey
  onDisk : ∃ content,
    state.2 vaultPath = some content ∧
      SealedIn json sodium content state.1.m_salt state.1.m_vaultKey
        state.1.m_secrets

/-- The abstract store after a sequence of successful calls. -/
def lastStored (calls : List WriteCall) : SecretView :=
  calls.foldl WriteCall.apply fun _ => none

variable {json : QJsonDocument} {sodium : Sodium}
  {vaultPath password : QString} {files : Files}

/-- A service that has created its vault file starts out empty and in step
with it. -/
theorem unlockWithPassword_new
    {outcome : UnlockOutcome}
    (roundTrips : json.RoundTrips)
    (noFile : files vaultPath = none)
    (returned :
      (unlockWithPassword json sodium (onPath vaultPath) files password
        outcome).1 = true) :
    KeptOnDisk json sodium vaultPath password
        (unlockWithPassword json sodium (onPath vaultPath) files password
          outcome).2 ∧
      loadSecret
          (unlockWithPassword json sodium (onPath vaultPath) files password
            outcome).2.1 = fun _ => none := by
  rcases unlockWithPassword_returned roundTrips returned with
    ⟨_, content, result, sealedIn⟩ | ⟨content, _, onDisk, _⟩
  · rw [result]
    refine ⟨⟨rfl, rfl, rfl, content, Function.update_self .., sealedIn⟩, ?_⟩
    funext name
    simp [loadSecret, onPath]
  · rw [show files (onPath vaultPath).m_vaultPath = none from noFile]
      at onDisk
    contradiction

/-- A call that returns true keeps the file in step and acts as the abstract
store does. -/
theorem write_refines
    (vaultPath password : QString)
    (roundTrips : json.RoundTrips)
    (state : VaultService × Files) (call : WriteCall)
    (kept : KeptOnDisk json sodium vaultPath password state)
    (returned : (write json sodium state call).1 = true) :
    KeptOnDisk json sodium vaultPath password
        (write json sodium state call).2 ∧
      loadSecret (write json sodium state call).2.1 =
        WriteCall.apply (loadSecret state.1) call := by
  obtain ⟨vault, files⟩ := state
  rcases write_cases sodium files roundTrips kept.unlocked call with
    ⟨_, result⟩ | ⟨accepted, ⟨idle, result⟩ | ⟨_, result |
      ⟨content, result, holds⟩⟩⟩
  · rw [result] at returned
    contradiction
  · rw [result]
    exact ⟨kept, loadSecret_idle idle⟩
  · rw [result] at returned
    contradiction
  · rw [result]
    refine ⟨⟨kept.unlocked, kept.path, kept.key, content, ?_, holds⟩,
      loadSecret_change kept.unlocked (WriteCall.name_ne_nil accepted)⟩
    rw [← kept.path]
    exact Function.update_self ..

/-- A service on the path comes up with the secrets of the file. -/
theorem unlockWithPassword_kept
    {state : VaultService × Files} (vault : VaultService)
    {outcome : UnlockOutcome}
    (correct : sodium.AeadCorrect)
    (kept : KeptOnDisk json sodium vaultPath password state)
    (samePath : vault.m_vaultPath = vaultPath)
    (passwordNonempty : password ≠ [])
    (readable : outcome.readable = true)
    (derived : outcome.derived = true) :
    (unlockWithPassword json sodium vault state.2 password outcome).1 =
        true ∧
      ∀ name,
        loadSecret
            (unlockWithPassword json sodium vault state.2 password
              outcome).2.1 name =
          loadSecret state.1 name := by
  obtain ⟨content, onDisk, holds⟩ := kept.onDisk
  rw [← samePath] at onDisk
  obtain ⟨loaded, opened, lookups⟩ := openContent_of_sealedIn correct holds
  have keySize := holds.length_vaultKey
  have present : (state.2 vault.m_vaultPath).isSome = true := by
    simp [onDisk]
  have loading :
      loadExistingVault json sodium vault state.2 password outcome =
        (true,
          { vault with
            m_vaultKey := state.1.m_vaultKey
            m_salt := state.1.m_salt
            m_secrets := loaded
            m_unlocked := true }) := by
    rw [loadExistingVault_readable onDisk readable]
    dsimp only
    rw [derivedKey, if_pos derived, holds.saltOf_eq, kept.key,
      if_neg (not_not.mpr keySize), opened]
  rw [unlockWithPassword, if_neg passwordNonempty, if_pos present]
  dsimp only
  rw [loading]
  exact ⟨rfl, fun name => loadSecret_congr kept.unlocked.symm (lookups name)⟩

/-- A locked service on the path stays locked under a password whose key does
not open the file. -/
theorem unlockWithPassword_wrong
    {state : VaultService × Files} (vault : VaultService)
    {other : QString} (outcome : UnlockOutcome)
    (kept : KeptOnDisk json sodium vaultPath password state)
    (samePath : vault.m_vaultPath = vaultPath)
    (locked : vault.m_unlocked = false)
    (rejects : sodium.xchacha20poly1305.RejectsUnder state.1.m_vaultKey
      (vaultKeyOf sodium other state.1.m_salt)) :
    (unlockWithPassword json sodium vault state.2 other outcome).1 = false ∧
      (unlockWithPassword json sodium vault state.2 other
        outcome).2.1.m_unlocked = false := by
  obtain ⟨content, onDisk, holds⟩ := kept.onDisk
  rw [← samePath] at onDisk
  rcases unlockWithPassword_cases json sodium vault state.2 other
      outcome with
    ⟨_, _, result⟩ | ⟨absent, _⟩ |
      ⟨found, foundEq, _, ⟨_, result⟩ | ⟨loaded, opened, _⟩⟩
  · rw [result]
    exact ⟨rfl, locked⟩
  · rw [onDisk] at absent
    contradiction
  · rw [result]
    exact ⟨rfl, rfl⟩
  · obtain rfl : content = found :=
      Option.some.inj (onDisk.symm.trans foundEq)
    rw [holds.saltOf_eq, openContent_of_rejectsUnder holds rejects] at opened
    contradiction

/-- After any calls that all return true, a second service on the path agrees
with the first under the same password, and shows nothing under a password
whose key the AEAD rejects. -/
theorem reopen_agrees
    (json : QJsonDocument)
    (sodium : Sodium)
    (files : Files)
    (vaultPath password : QString)
    (created reopened : UnlockOutcome)
    (calls : List WriteCall)
    (roundTrips : json.RoundTrips)
    (correct : sodium.AeadCorrect)
    (noFile : files vaultPath = none)
    (passwordNonempty : password ≠ [])
    (unlocked :
      (unlockWithPassword json sodium (onPath vaultPath) files password
        created).1 = true)
    (allTrue :
      ∀ returned ∈ Machine.trace (write json sodium)
          (unlockWithPassword json sodium (onPath vaultPath) files password
            created).2 calls,
        returned = true)
    (readable : reopened.readable = true)
    (derived : reopened.derived = true) :
    let final := Machine.run (write json sodium)
      (unlockWithPassword json sodium (onPath vaultPath) files password
        created).2 calls
    let second := unlockWithPassword json sodium (onPath vaultPath) final.2
      password reopened
    second.1 = true ∧
      (∀ name,
        loadSecret second.2.1 name = loadSecret final.1 name ∧
          loadSecret final.1 name = lastStored calls name) ∧
      ∀ other outcome,
        sodium.xchacha20poly1305.RejectsUnder final.1.m_vaultKey
            (vaultKeyOf sodium other final.1.m_salt) →
          let wrong := unlockWithPassword json sodium (onPath vaultPath)
            final.2 other outcome
          wrong.1 = false ∧ wrong.2.1.m_unlocked = false ∧
            ∀ name, loadSecret wrong.2.1 name = none := by
  intro final second
  obtain ⟨keptFirst, emptyFirst⟩ :=
    unlockWithPassword_new roundTrips noFile unlocked
  obtain ⟨kept, view⟩ := Machine.run_refines
    (fun state : VaultService × Files => loadSecret state.1)
    WriteCall.apply (KeptOnDisk json sodium vaultPath password)
    (fun returned => returned = true)
    (write_refines vaultPath password roundTrips) keptFirst calls allTrue
  obtain ⟨opens, agrees⟩ := unlockWithPassword_kept (onPath vaultPath)
    correct kept rfl passwordNonempty readable derived
  refine ⟨opens, ?_, ?_⟩
  · intro name
    refine ⟨agrees name, ?_⟩
    rw [emptyFirst] at view
    exact congrFun view name
  · intro other outcome rejects wrong
    obtain ⟨returned, locked⟩ := unlockWithPassword_wrong
      (onPath vaultPath) outcome kept rfl rfl rejects
    exact ⟨returned, locked, fun name => loadSecret_of_locked locked⟩

/-- Surroundings in which every step works. -/
def SaveOutcome.working (nonce : QByteArray) : SaveOutcome :=
  ⟨nonce, true, true, true⟩

/-- A secret stored twice, another stored and removed, then reopened with the
right and with a wrong password. -/
theorem reopen_agrees_two_secrets :
    let json := ReferenceJson.json
    let sodium := ReferenceSodium.sodium
    let working := SaveOutcome.working (List.replicate 24 7)
    let outcome : UnlockOutcome := ⟨true, true, List.replicate 16 9, working⟩
    let first := unlockWithPassword json sodium (onPath [118]) (fun _ => none)
      [112] outcome
    let final := Machine.run (write json sodium) first.2
      [.store [97] [1] working, .store [98] [2] working,
        .store [97] [3] working, .remove [98] working]
    let second := unlockWithPassword json sodium (onPath [118]) final.2 [112]
      outcome
    let wrong := unlockWithPassword json sodium (onPath [118]) final.2 [113]
      outcome
    second.1 = true ∧
      loadSecret second.2.1 [97] = some [3] ∧
      loadSecret second.2.1 [98] = none ∧
      wrong.1 = false := by
  intro json sodium working outcome first final second wrong
  have unlocked : first.1 = true := by decide +kernel
  have allTrue :
      ∀ returned ∈ Machine.trace (write json sodium) first.2
          [.store [97] [1] working, .store [98] [2] working,
            .store [97] [3] working, .remove [98] working],
        returned = true := by
    decide +kernel
  have agreed := reopen_agrees json sodium
    (fun _ => none) [118] [112] outcome outcome _
    ReferenceJson.json_roundTrips ReferenceSodium.sodium_aeadCorrect rfl
    (by simp) unlocked allTrue rfl rfl
  obtain ⟨opens, agrees, rejected⟩ := agreed
  refine ⟨opens, ?_, ?_, ?_⟩
  · rw [(agrees [97]).1, (agrees [97]).2]
    decide
  · rw [(agrees [98]).1, (agrees [98]).2]
    decide
  · refine (rejected [113] outcome ?_).1
    exact ReferenceSodium.aead_rejectsUnder (by decide +kernel)
      (by decide +kernel)

end VaultService
end Crypto
end VoxDesktop
