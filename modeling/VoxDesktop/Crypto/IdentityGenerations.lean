import VoxDesktop.Crypto.IdentityDurability
import VoxDesktop.Crypto.VaultInvariants

/-!
# Generations of the identity keys

A call of `ensureIdentityKeys` whose save fails leaves some of its keys in
memory and fewer on disk, and the next call draws new ones.  Keys of different
generations never make one identity: the private DH key is stored last and
only where there was none, so whoever holds it, memory or file, holds the
other three keys of its generation.
-/

namespace VoxDesktop
namespace Crypto
namespace IdentityKeyStore

open Qt CryptoHelpers Library VaultService

/-- What happens to the identity keys over the life of a vault file. -/
inductive LifeEvent
  | ensure (outcome : IdentityOutcome)
  | lock
  | unlock (password : QString) (outcome : UnlockOutcome)
  /-- The application starts again on the same vault path. -/
  | restart

def lifeStep
    (json : QJsonDocument) (sodium : Sodium)
    (state : VaultService × Files) :
    LifeEvent → Bool × VaultService × Files
  | .ensure outcome => ensureIdentityKeys json sodium state outcome
  | .lock => (true, state.1.lock, state.2)
  | .unlock password outcome =>
      unlockWithPassword json sodium state.1 state.2 password outcome
  | .restart => (true, onPath state.1.m_vaultPath, state.2)

/-- The password of an event that unlocks. -/
def LifeEvent.password? : LifeEvent → Option QString
  | .unlock password _ => some password
  | _ => none

/-- The keys are drawn in one call among the events. -/
def DrawnIn (events : List LifeEvent) (keys : IdentityKeys) : Prop :=
  ∃ outcome, .ensure outcome ∈ events ∧ drawnKeys outcome = some keys

/-- Where there is a private DH key, the four keys are those of one
generation. -/
def OneGeneration
    (generation : IdentityKeys → Prop) (view : SecretView) : Prop :=
  view kDhPriv ≠ none →
    ∃ keys, generation keys ∧
      ∀ secret ∈ identitySecrets keys, view secret.1 = some secret.2

section Generations

variable {generation : IdentityKeys → Prop} {vault : VaultService}

theorem oneGeneration_empty : OneGeneration generation (viewOf ∅) :=
  fun found => absurd (AList.lookup_empty kDhPriv) found

/-- An identity that can be loaded is of one generation. -/
theorem OneGeneration.of_identityKeys
    (one : OneGeneration generation (viewOf vault.m_secrets))
    {keys : IdentityKeys} (found : identityKeys vault = some keys) :
    generation keys := by
  have load : ∀ {name : QString} {value : QByteArray},
      vault.loadSecret name = some value →
        viewOf vault.m_secrets name = some value := by
    intro name value loaded
    rw [loadSecret] at loaded
    split at loaded
    · contradiction
    · exact loaded
  simp only [identityKeys, Option.bind_eq_bind, Option.bind_eq_some_iff,
    Option.pure_def, Option.some.injEq] at found
  obtain ⟨signPub, signPubLoaded, signPriv, signPrivLoaded, dhPub,
    dhPubLoaded, dhPriv, dhPrivLoaded, rfl⟩ := found
  obtain ⟨⟨first, second, third, fourth⟩, drawn, stored⟩ :=
    one (by rw [load dhPrivLoaded]; exact Option.some_ne_none _)
  have signPubStored : viewOf vault.m_secrets kSignPub = some first :=
    stored _ (.head _)
  have signPrivStored : viewOf vault.m_secrets kSignPriv = some second :=
    stored _ (.tail _ (.head _))
  have dhPubStored : viewOf vault.m_secrets kDhPub = some third :=
    stored _ (.tail _ (.tail _ (.head _)))
  have dhPrivStored : viewOf vault.m_secrets kDhPriv = some fourth :=
    stored _ (.tail _ (.tail _ (.tail _ (.head _))))
  rw [load signPubLoaded, Option.some.injEq] at signPubStored
  rw [load signPrivLoaded, Option.some.injEq] at signPrivStored
  rw [load dhPubLoaded, Option.some.injEq] at dhPubStored
  rw [load dhPrivLoaded, Option.some.injEq] at dhPrivStored
  subst signPubStored signPrivStored dhPubStored dhPrivStored
  exact drawn

/-- An unlocked vault without an identity has no private DH key. -/
theorem OneGeneration.dhPriv_eq_none
    (one : OneGeneration generation (viewOf vault.m_secrets))
    (unlocked : vault.m_unlocked = true)
    (missing : identityKeys vault = none) :
    viewOf vault.m_secrets kDhPriv = none := by
  by_contra found
  obtain ⟨keys, _, stored⟩ := one found
  have complete : (identityKeys vault).isSome = true := by
    rw [identityKeys_isSome]
    intro name within
    rw [← identitySecrets_names keys] at within
    obtain ⟨secret, secretWithin, rfl⟩ := List.mem_map.mp within
    have nameNonempty : secret.1 ≠ [] := identityNames_nonempty _ within
    rw [loadSecret_of_unlocked unlocked nameNonempty]
    exact (stored secret secretWithin).trans_ne (Option.some_ne_none _)
  rw [missing] at complete
  contradiction

/-- Stored over secrets without a private DH key, the keys of a generation
leave none until all four of them are there. -/
theorem allAlong_identitySecrets
    {secrets : SecretMap}
    (absent : viewOf secrets kDhPriv = none)
    {keys : IdentityKeys} (drawn : generation keys)
    (saves : ℕ → SaveOutcome) :
    AllAlong (OneGeneration generation) secrets
      (storeCalls (identitySecrets keys) saves) := by
  have partly : ∀ {secrets : SecretMap},
      viewOf secrets kDhPriv = none →
        OneGeneration generation (viewOf secrets) :=
    fun none found => absurd none found
  refine ⟨partly absent, partly ?_, partly ?_, partly ?_,
    fun _ => ⟨keys, drawn, ?_⟩⟩
  · simpa (disch := decide) only [WriteCall.change, viewOf_insert,
      Function.update_of_ne] using absent
  · simpa (disch := decide) only [WriteCall.change, viewOf_insert,
      Function.update_of_ne] using absent
  · simpa (disch := decide) only [WriteCall.change, viewOf_insert,
      Function.update_of_ne] using absent
  · intro secret within
    simp only [identitySecrets, List.mem_cons, List.not_mem_nil, or_false]
      at within
    simp only [WriteCall.change, viewOf_insert]
    rcases within with rfl | rfl | rfl | rfl <;>
      simp (disch := decide) only [Function.update_of_ne,
        Function.update_self]

end Generations

/-! ## Runs -/

section Runs

variable {json : QJsonDocument} {sodium : Sodium} {vaultPath : QString}
  {passwords : List QString} {generation : IdentityKeys → Prop}

/-- The event unlocks with one of the passwords and draws keys of a
generation only. -/
structure LifeEvent.Permitted
    (passwords : List QString) (generation : IdentityKeys → Prop)
    (event : LifeEvent) : Prop where
  password : ∀ password, event.password? = some password →
    password ∈ passwords
  drawn : ∀ outcome, event = .ensure outcome →
    ∀ keys, drawnKeys outcome = some keys → generation keys

theorem lifeStep_keeps
    (roundTrips : json.RoundTrips)
    (correct : sodium.AeadCorrect)
    (committing : Committing sodium passwords)
    (state : VaultService × Files) (event : LifeEvent)
    (holds : MemoryAndFile json sodium vaultPath passwords
      (OneGeneration generation) state)
    (permitted : event.Permitted passwords generation) :
    MemoryAndFile json sodium vaultPath passwords (OneGeneration generation)
      (lifeStep json sodium state event).2 := by
  cases event with
  | ensure outcome =>
      by_cases entered :
          state.1.m_unlocked = false ∨ sodium.initialized = false
      · rw [lifeStep, ensureIdentityKeys, if_pos entered]
        exact holds
      · rw [not_or, Bool.not_eq_false, Bool.not_eq_false] at entered
        obtain ⟨unlocked, initialized⟩ := entered
        rcases ensureIdentityKeys_cases json sodium unlocked initialized
            outcome with
          ⟨_, result⟩ | ⟨missing, ⟨_, result⟩ | ⟨keys, drawn, result⟩⟩
        · rw [lifeStep, result]
          exact holds
        · rw [lifeStep, result]
          exact holds
        · rw [lifeStep, result]
          exact holds.of_writeAll roundTrips
            (allAlong_identitySecrets
              (holds.memory.dhPriv_eq_none unlocked missing)
              (permitted.drawn outcome rfl keys drawn) outcome.saves)
  | lock => exact holds.of_lock oneGeneration_empty
  | unlock password outcome =>
      exact holds.of_unlock roundTrips correct committing oneGeneration_empty
        (permitted.password password rfl) outcome
  | restart =>
      rw [lifeStep, holds.path]
      exact memoryAndFile_restart oneGeneration_empty holds.file

/-- Over any run that starts without a vault file, keys that can be loaded are
those that one call of `ensureIdentityKeys` has drawn. -/
theorem identityKeys_drawn_in_one_call
    (json : QJsonDocument)
    (sodium : Sodium)
    (vaultPath : QString)
    (files : Files)
    (events : List LifeEvent)
    (roundTrips : json.RoundTrips)
    (correct : sodium.AeadCorrect)
    (committing :
      Committing sodium (events.filterMap LifeEvent.password?))
    (noFile : files vaultPath = none)
    (keys : IdentityKeys)
    (found :
      identityKeys
        (Machine.run (lifeStep json sodium) (onPath vaultPath, files)
          events).1 = some keys) :
    DrawnIn events keys := by
  have start : MemoryAndFile json sodium vaultPath
      (events.filterMap LifeEvent.password?)
      (OneGeneration (DrawnIn events)) (onPath vaultPath, files) := by
    refine memoryAndFile_restart oneGeneration_empty fun content onDisk => ?_
    rw [noFile] at onDisk
    contradiction
  have permitted : ∀ event ∈ events,
      event.Permitted (events.filterMap LifeEvent.password?)
        (DrawnIn events) := by
    intro event within
    constructor
    · intro password unlocks
      exact List.mem_filterMap.mpr ⟨event, within, unlocks⟩
    · rintro outcome rfl keys drawn
      exact ⟨outcome, within, drawn⟩
  have final := Machine.run_invariant_of_eachStep _ _
    (lifeStep_keeps roundTrips correct committing) start
    (Machine.eachStep_of_forall (lifeStep json sodium)
      (fun event within _ => permitted event within) _)
  exact final.memory.of_identityKeys found

end Runs

section Examples

/-- The third save of a first call fails; the application starts again, and a
second call makes keys of its own. -/
theorem identityKeys_drawn_in_second_call :
    let events : List LifeEvent :=
      [.unlock ReferenceVault.password ReferenceVault.outcome,
        .ensure (outcomeFailing 1 (some 2)), .restart,
        .unlock ReferenceVault.password ReferenceVault.outcome,
        .ensure (outcomeFailing 5 none)]
    ∃ keys,
      identityKeys
          (Machine.run (lifeStep ReferenceJson.json ReferenceSodium.sodium)
            (onPath ReferenceVault.vaultPath, fun _ => none) events).1 =
        some keys ∧
      DrawnIn events keys := by
  intro events
  have complete :
      (identityKeys
        (Machine.run (lifeStep ReferenceJson.json ReferenceSodium.sodium)
          (onPath ReferenceVault.vaultPath, fun _ => none)
          events).1).isSome = true := by
    decide +kernel
  obtain ⟨keys, found⟩ := Option.isSome_iff_exists.mp complete
  exact ⟨keys, found, identityKeys_drawn_in_one_call ReferenceJson.json
    ReferenceSodium.sodium ReferenceVault.vaultPath (fun _ => none) events
    ReferenceJson.json_roundTrips ReferenceSodium.sodium_aeadCorrect
    (@committing_of_forall_eq _ _ ReferenceVault.password
      (by simp [events, LifeEvent.password?]))
    rfl keys found⟩

end Examples

end IdentityKeyStore
end Crypto
end VoxDesktop
