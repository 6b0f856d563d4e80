import VoxDesktop.Crypto.ReferenceVault
import VoxDesktop.Crypto.VaultDurability
import VoxDesktop.Library.Machine

/-!
# Durability of the identity keys

`ensureIdentityKeys` stores four secrets one after another and takes the keys
as made as soon as all four can be loaded.  A failed save leaves its secret in
memory, so a call whose last save fails returns false with all four keys in
memory and three on disk; the next call returns true, and a restart loses the
identity.  Runs in which a failed save always leaves a later key missing keep
every identity they have reported.
-/

namespace VoxDesktop
namespace Crypto
namespace IdentityKeyStore

open Qt CryptoHelpers Library VaultService

/-- The names of the identity keys. -/
def identityNames : List QString := [kSignPub, kSignPriv, kDhPub, kDhPriv]

/-- The keys a call draws; nothing if a key pair cannot be made. -/
def drawnKeys (outcome : IdentityOutcome) : Option IdentityKeys :=
  match outcome.signKeypair, outcome.dhKeypair with
  | some (signPk, signSk), some (dhPk, dhSk) =>
      some ⟨signPk.toList, signSk.toList, dhPk.toList, dhSk.toList⟩
  | _, _ => none

inductive IdentityEvent
  | ensure (outcome : IdentityOutcome)
  | reopen (reopening : Reopening) (salt : QByteArray) (save : SaveOutcome)

def identityStep
    (json : QJsonDocument) (sodium : Sodium) (password : QString)
    (state : VaultService × Files) :
    IdentityEvent → Bool × VaultService × Files
  | .ensure outcome => ensureIdentityKeys json sodium state outcome
  | .reopen reopening salt save =>
      reopen json sodium password state reopening salt save

/-- If this is a call that makes keys and one of its saves fails, a key that
it stores later is not yet in the vault.  The last save may never fail. -/
def FailsEarly (state : VaultService × Files) : IdentityEvent → Prop
  | .ensure outcome =>
      identityKeys state.1 = none →
        ∀ keys, drawnKeys outcome = some keys →
          WriteThrough.FailsEarly state.1.loadSecret
            (storeWrites (identitySecrets keys) outcome.saves)
  | .reopen _ _ _ => True

/-! ## One call -/

section Calls

/-- The keys are there when every name is. -/
theorem identityKeys_isSome {vault : VaultService} :
    (identityKeys vault).isSome = true ↔
      ∀ name ∈ identityNames, vault.loadSecret name ≠ none := by
  simp only [identityKeys, identityNames, List.mem_cons, List.not_mem_nil,
    or_false, forall_eq_or_imp, forall_eq, ne_eq]
  cases vault.loadSecret kSignPub <;> cases vault.loadSecret kSignPriv <;>
    cases vault.loadSecret kDhPub <;> cases vault.loadSecret kDhPriv <;> simp

theorem identityKeys_congr
    {vault other : VaultService}
    (same : ∀ name ∈ identityNames,
      other.loadSecret name = vault.loadSecret name) :
    identityKeys other = identityKeys vault := by
  rw [identityKeys, identityKeys, same kSignPub (.head _),
    same kSignPriv (.tail _ (.head _)), same kDhPub (.tail _ (.tail _
      (.head _))), same kDhPriv (.tail _ (.tail _ (.tail _ (.head _))))]

/-- A call on an unlocked vault finds keys, cannot draw keys, or stores the
keys it has drawn. -/
theorem ensureIdentityKeys_cases
    (json : QJsonDocument) (sodium : Sodium)
    {state : VaultService × Files}
    (unlocked : state.1.m_unlocked = true)
    (initialized : sodium.initialized = true)
    (outcome : IdentityOutcome) :
    let result := ensureIdentityKeys json sodium state outcome
    ((identityKeys state.1).isSome = true ∧ result = (true, state)) ∨
      identityKeys state.1 = none ∧
        ((drawnKeys outcome = none ∧ result = (false, state)) ∨
        ∃ keys, drawnKeys outcome = some keys ∧
          result =
            writeAll json sodium state
              (storeCalls (identitySecrets keys) outcome.saves)) := by
  intro result
  have entered : ¬ (state.1.m_unlocked = false ∨
      sodium.initialized = false) := by
    simp [unlocked, initialized]
  have checked : result = _ := if_neg entered
  cases existing : identityKeys state.1 with
  | some keys =>
      left
      exact ⟨rfl, by rw [checked, existing]; rfl⟩
  | none =>
      right
      refine ⟨rfl, ?_⟩
      rw [existing] at checked
      rw [checked, drawnKeys]
      cases outcome.signKeypair with
      | none => exact Or.inl ⟨rfl, rfl⟩
      | some signKeypair =>
          cases outcome.dhKeypair with
          | none => exact Or.inl ⟨rfl, rfl⟩
          | some dhKeypair => exact Or.inr ⟨_, rfl, rfl⟩

theorem identitySecrets_names (keys : IdentityKeys) :
    (identitySecrets keys).map Prod.fst = identityNames := rfl

theorem identityNames_nodup : identityNames.Nodup := by decide

theorem identityNames_nonempty : ∀ name ∈ identityNames, name ≠ [] := by
  decide

/-- Drawn keys have their sizes, so none of them is refused. -/
theorem identitySecrets_nonempty
    {outcome : IdentityOutcome} {keys : IdentityKeys}
    (drawn : drawnKeys outcome = some keys) :
    ∀ secret ∈ identitySecrets keys, secret.1 ≠ [] ∧ secret.2 ≠ [] := by
  have named := identityNames_nonempty
  rw [drawnKeys] at drawn
  split at drawn
  · obtain rfl := Option.some.inj drawn
    intro secret within
    simp only [identitySecrets, List.mem_cons, List.not_mem_nil, or_false]
      at within
    rcases within with rfl | rfl | rfl | rfl
    · exact ⟨named _ (.head _), toList_ne_nil _ (by decide)⟩
    · exact ⟨named _ (.tail _ (.head _)), toList_ne_nil _ (by decide)⟩
    · exact ⟨named _ (.tail _ (.tail _ (.head _))),
        toList_ne_nil _ (by decide)⟩
    · exact ⟨named _ (.tail _ (.tail _ (.tail _ (.head _)))),
        toList_ne_nil _ (by decide)⟩
  · contradiction

end Calls

/-! ## Runs -/

section Runs

variable {json : QJsonDocument} {sodium : Sodium}
  {vaultPath password : QString}

/-- A reopenable vault that has the identity on disk if it has it at all. -/
structure Kept
    (json : QJsonDocument) (sodium : Sodium) (vaultPath password : QString)
    (state : VaultService × Files) : Prop where
  reopenable : Reopenable json sodium vaultPath password state
  durable : (durable json sodium state).Durable identityNames

/-- A step whose failed save leaves a key missing keeps the identity durable,
and an identity that is there stays what it is. -/
theorem identityStep_kept
    (roundTrips : json.RoundTrips)
    (correct : sodium.AeadCorrect)
    (state : VaultService × Files) (event : IdentityEvent)
    (kept : Kept json sodium vaultPath password state)
    (early : FailsEarly state event) :
    let next := (identityStep json sodium password state event).2
    Kept json sodium vaultPath password next ∧
      ((identityKeys state.1).isSome = true →
        identityKeys next.1 = identityKeys state.1) := by
  intro next
  cases event with
  | reopen reopening salt save =>
      obtain ⟨_, reopenable, restarted⟩ :=
        reopen_refines kept.reopenable reopening salt save
      refine ⟨⟨reopenable, ?_⟩, fun complete => identityKeys_congr ?_⟩
      · exact restarted ▸ WriteThrough.durable_restart _ _
      · have survives := kept.durable.memory_restart
          (identityKeys_isSome.mp complete)
        rw [← restarted] at survives
        exact survives
  | ensure outcome =>
      rcases ensureIdentityKeys_cases json sodium kept.reopenable.unlocked
          kept.reopenable.sizes.1 outcome with
        ⟨_, result⟩ | ⟨missing, ⟨_, result⟩ | ⟨keys, drawn, result⟩⟩
      · have same : next = state := congrArg Prod.snd result
        rw [same]
        exact ⟨kept, fun _ => rfl⟩
      · have same : next = state := congrArg Prod.snd result
        rw [same]
        exact ⟨kept, fun _ => rfl⟩
      · obtain ⟨_, reopenable, refined⟩ :=
          writeAll_refines roundTrips correct kept.reopenable
            (identitySecrets_nonempty drawn) outcome.saves
        have written : next = (writeAll json sodium state
            (storeCalls (identitySecrets keys) outcome.saves)).2 :=
          congrArg Prod.snd result
        rw [written]
        refine ⟨⟨reopenable, ?_⟩, fun complete => ?_⟩
        · have chainNames :=
            storeWrites_names (identitySecrets keys) outcome.saves
          rw [identitySecrets_names] at chainNames
          rw [refined, ← chainNames]
          apply WriteThrough.durable_storeAll
          · rw [chainNames]
            exact identityNames_nodup
          · simp [identitySecrets]
          · exact early missing keys drawn
        · rw [missing] at complete
          contradiction

/-- A call that returns true leaves an identity in the vault. -/
theorem ensureIdentityKeys_isSome
    (roundTrips : json.RoundTrips)
    (correct : sodium.AeadCorrect)
    {state : VaultService × Files} {outcome : IdentityOutcome}
    (reopenable : Reopenable json sodium vaultPath password state)
    (returned :
      (ensureIdentityKeys json sodium state outcome).1 = true) :
    (identityKeys
      (ensureIdentityKeys json sodium state outcome).2.1).isSome = true := by
  rcases ensureIdentityKeys_cases json sodium reopenable.unlocked
      reopenable.sizes.1 outcome with
    ⟨complete, result⟩ | ⟨_, ⟨_, result⟩ | ⟨keys, drawn, result⟩⟩
  · rw [result]
    exact complete
  · rw [result] at returned
    contradiction
  · rw [result] at returned ⊢
    obtain ⟨sameReturn, _, refined⟩ :=
      writeAll_refines roundTrips correct reopenable
        (identitySecrets_nonempty drawn) outcome.saves
    have works :=
      WriteThrough.works_of_storeAll (sameReturn.symm.trans returned)
    have chainNames :=
      storeWrites_names (identitySecrets keys) outcome.saves
    rw [identitySecrets_names] at chainNames
    obtain ⟨_, stored⟩ :=
      @WriteThrough.memory_storeAll_of_works _ _ _
        (durable json sodium state) _
        (by rw [chainNames]; exact identityNames_nodup) works
    rw [identityKeys_isSome]
    intro name within
    rw [← chainNames] at within
    obtain ⟨write, member, rfl⟩ := List.mem_map.mp within
    have found := stored write member
    rw [← refined] at found
    rw [show loadSecret _ write.name = some write.value from found]
    exact Option.some_ne_none _

/-- In every run in which failed saves leave a later key missing, the identity
of a call that has returned true is the one of every later moment, whatever
saves fail and however often the vault is reopened. -/
theorem identity_durable
    (json : QJsonDocument)
    (sodium : Sodium)
    (vaultPath password : QString)
    (files : Files)
    (opened : UnlockOutcome)
    (earlier later : List IdentityEvent)
    (outcome : IdentityOutcome)
    (roundTrips : json.RoundTrips)
    (correct : sodium.AeadCorrect)
    (unlocked :
      (unlockWithPassword json sodium (onPath vaultPath) files password
        opened).1 = true) :
    let step := identityStep json sodium password
    let start := (unlockWithPassword json sodium (onPath vaultPath) files
      password opened).2
    let before := Machine.run step start earlier
    let call := ensureIdentityKeys json sodium before outcome
    Machine.EachStep FailsEarly step start
        (earlier ++ .ensure outcome :: later) →
      call.1 = true →
      ∃ keys, identityKeys call.2.1 = some keys ∧
        identityKeys (Machine.run step call.2 later).1 = some keys := by
  intro step start before call early returned
  obtain ⟨earlyBefore, earlyCall, earlyLater⟩ :=
    (Machine.eachStep_append step).mp early
  obtain ⟨reopenable, saved⟩ :=
    unlockWithPassword_reopenable roundTrips correct unlocked
  have keptStart : Kept json sodium vaultPath password start :=
    ⟨reopenable, WriteThrough.durable_of_disk_eq saved _⟩
  have keptBefore : Kept json sodium vaultPath password before :=
    Machine.run_invariant_of_eachStep
      (Kept json sodium vaultPath password) FailsEarly
      (fun state event kept early =>
        (identityStep_kept roundTrips correct state event kept early).1)
      keptStart earlyBefore
  have keptCall : Kept json sodium vaultPath password call.2 :=
    (identityStep_kept roundTrips correct before (.ensure outcome)
      keptBefore earlyCall).1
  have complete : (identityKeys call.2.1).isSome = true :=
    ensureIdentityKeys_isSome roundTrips correct keptBefore.reopenable
      returned
  obtain ⟨keys, found⟩ := Option.isSome_iff_exists.mp complete
  refine ⟨keys, found, ?_⟩
  -- From here on the keys are part of the invariant.
  refine (Machine.run_invariant_of_eachStep
    (fun state => Kept json sodium vaultPath password state ∧
      identityKeys state.1 = some keys) FailsEarly ?_ ⟨keptCall, found⟩
    earlyLater).2
  rintro state event ⟨kept, holds⟩ early
  obtain ⟨keptNext, same⟩ :=
    identityStep_kept roundTrips correct state event kept early
  exact ⟨keptNext, (same (by rw [holds]; rfl)).trans holds⟩

end Runs

/-! ## A failed save before and after -/

section Examples

/-- Key pairs, with at most one failing save. -/
def outcomeFailing (octet : UInt8) (failing : Option ℕ) : IdentityOutcome where
  signKeypair :=
    some (List.Vector.replicate _ octet, List.Vector.replicate _ (octet + 1))
  dhKeypair :=
    some (List.Vector.replicate _ (octet + 2),
      List.Vector.replicate _ (octet + 3))
  saves := fun index =>
    if failing = some index then ReferenceVault.failedSave
    else ReferenceVault.save

/-- A step of the reference vault. -/
def referenceStep (state : VaultService × Files) (event : IdentityEvent) :
    Bool × VaultService × Files :=
  identityStep ReferenceJson.json ReferenceSodium.sodium
    ReferenceVault.password state event

/-- The third save of a call fails, the next call makes an identity, and a
restart keeps it. -/
theorem identity_durable_third_save :
    let before := Machine.run referenceStep ReferenceVault.start
      [.ensure (outcomeFailing 1 (some 2))]
    let call := referenceStep before (.ensure (outcomeFailing 5 none))
    call.1 = true ∧
      ∃ keys, identityKeys call.2.1 = some keys ∧
        identityKeys (Machine.run referenceStep call.2
          [.reopen .restart [] ReferenceVault.save]).1 = some keys := by
  have returned :
      (referenceStep (Machine.run referenceStep ReferenceVault.start
        [.ensure (outcomeFailing 1 (some 2))])
          (.ensure (outcomeFailing 5 none))).1 = true := by
    decide +kernel
  have early : Machine.EachStep FailsEarly referenceStep ReferenceVault.start
      ([.ensure (outcomeFailing 1 (some 2))] ++
        .ensure (outcomeFailing 5 none) ::
          [.reopen .restart [] ReferenceVault.save]) := by
    refine ⟨fun _ keys drawn => ?_, fun _ keys drawn => ?_, trivial,
      trivial⟩
    · obtain rfl := Option.some.inj drawn
      decide +kernel
    · obtain rfl := Option.some.inj drawn
      decide +kernel
  exact ⟨returned, identity_durable ReferenceJson.json ReferenceSodium.sodium
    ReferenceVault.vaultPath ReferenceVault.password (fun _ => none)
    ReferenceVault.outcome [.ensure (outcomeFailing 1 (some 2))]
    [.reopen .restart [] ReferenceVault.save] (outcomeFailing 5 none)
    ReferenceJson.json_roundTrips ReferenceSodium.sodium_aeadCorrect
    ReferenceVault.unlocking_returns early returned⟩

/-- The last save of a call fails, the next call returns true, and a restart
loses the identity it has reported. -/
theorem identity_lost_after_restart :
    let first := referenceStep ReferenceVault.start
      (.ensure (outcomeFailing 1 (some 3)))
    let second := referenceStep first.2 (.ensure (outcomeFailing 5 none))
    let restarted :=
      referenceStep second.2 (.reopen .restart [] ReferenceVault.save)
    first.1 = false ∧ second.1 = true ∧
      (identityKeys second.2.1).isSome = true ∧
      restarted.1 = true ∧
      (identityKeys restarted.2.1).isSome = false := by
  decide +kernel

end Examples

end IdentityKeyStore
end Crypto
end VoxDesktop
