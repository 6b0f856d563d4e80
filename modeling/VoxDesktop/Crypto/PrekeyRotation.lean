import VoxDesktop.Crypto.PrekeyIds
import VoxDesktop.Crypto.VaultDurability

/-!
# Rotations that are cut short

`rotateSignedPrekey` stores the four parts of a prekey one after another, and
each store is saved on its own.  A save that fails and a process that stops
between two saves both leave parts of the new prekey beside parts of the old
one.  The four parts stay those of one rotation as long as whatever is cut
short has stored nothing that differs from what the vault shows, or is a stop
before which the parts not yet saved were missing.
-/

namespace VoxDesktop
namespace Crypto
namespace PrekeyManager

open Qt Library VaultService

/-- What happens to the signed prekey over the life of a vault file. -/
inductive RotationEvent
  | rotate (outcome : PrekeyOutcome)
  /-- The process stops after the given number of stores of a rotation, and
  the application starts again. -/
  | stop (outcome : PrekeyOutcome) (stores : ℕ) (salt : QByteArray)
      (save : SaveOutcome)
  | reopen (reopening : Reopening) (salt : QByteArray) (save : SaveOutcome)

section Steps

variable (json : QJsonDocument) (sodium : Sodium)

/-- The vault after the first stores of a rotation. -/
def rotateCutOff
    (nextSignedPrekeyId : Int32) (state : VaultService × Files)
    (outcome : PrekeyOutcome) (stores : ℕ) : VaultService × Files :=
  match drawnPrekey sodium nextSignedPrekeyId state.1 outcome with
  | none => state
  | some prekey =>
      (writeAll json sodium state
        (storeCalls ((prekeySecrets prekey).take stores) outcome.saves)).2

/-- One event, on the counter of the manager and the vault. -/
def rotationStep
    (password : QString) (state : Int32 × VaultService × Files) :
    RotationEvent → Option SignedPrekey × Int32 × VaultService × Files
  | .rotate outcome =>
      rotateSignedPrekey json sodium state.1 state.2 outcome
  | .stop outcome stores salt save =>
      (none, firstSignedPrekeyId,
        (reopen json sodium password
          (rotateCutOff json sodium state.1 state.2 outcome stores)
          .restart salt save).2)
  | .reopen reopening salt save =>
      (none,
        match reopening with
        | .restart => firstSignedPrekeyId
        | .lock => state.1,
        (reopen json sodium password state.2 reopening salt save).2)

/-- The prekey that an event makes and begins to store. -/
def madePrekey (state : Int32 × VaultService × Files) :
    RotationEvent → Option SignedPrekey
  | .rotate outcome => drawnPrekey sodium state.1 state.2.1 outcome
  | .stop outcome _ _ _ => drawnPrekey sodium state.1 state.2.1 outcome
  | .reopen _ _ _ => none

/-- Those of the four parts that a view shows are of one of the prekeys. -/
def FromOneRotation
    (prekeys : List SignedPrekey) (view : SecretView) : Prop :=
  (∀ name ∈ prekeyNames, view name = none) ∨
    ∃ prekey ∈ prekeys, ∀ secret ∈ prekeySecrets prekey,
      view secret.1 = none ∨ view secret.1 = some secret.2

/-- If the event is a rotation that gives nothing, the four parts are in
memory and on disk what they were. -/
def LeavesInPlace (state : Int32 × VaultService × Files) :
    RotationEvent → Prop
  | .rotate outcome =>
      let result := rotateSignedPrekey json sodium state.1 state.2 outcome
      result.1 = none →
        ∀ name ∈ prekeyNames,
          loadSecret result.2.2.1 name = loadSecret state.2.1 name ∧
            diskView json sodium result.2.2 name =
              diskView json sodium state.2 name
  | .stop _ _ _ _ => True
  | .reopen _ _ _ => True

/-- All saves of a rotation work, or what it puts in memory up to the first
that fails is what the vault shows.  What a stop leaves saved is what the
vault shows, or the parts that are not saved are missing from the vault or as
the new prekey has them. -/
def CutCleanly (state : Int32 × VaultService × Files) : RotationEvent → Prop
  | .rotate outcome =>
      ∀ prekey, drawnPrekey sodium state.1 state.2.1 outcome = some prekey →
        let writes := storeWrites (prekeySecrets prekey) outcome.saves
        (∀ write ∈ writes, write.works = true) ∨
          ∀ write ∈ WriteThrough.reached writes,
            loadSecret state.2.1 write.name = some write.value
  | .stop outcome stores _ _ =>
      ∀ prekey, drawnPrekey sodium state.1 state.2.1 outcome = some prekey →
        let saved :=
          WriteThrough.saved
            (storeWrites ((prekeySecrets prekey).take stores) outcome.saves)
        (∀ write ∈ saved,
          loadSecret state.2.1 write.name = some write.value) ∨
        ∀ secret ∈ prekeySecrets prekey,
          secret.1 ∉ saved.map WriteThrough.Write.name →
            loadSecret state.2.1 secret.1 = none ∨
              loadSecret state.2.1 secret.1 = some secret.2
  | .reopen _ _ _ => True

end Steps

instance FromOneRotation.decidable
    (prekeys : List SignedPrekey) (view : SecretView) :
    Decidable (FromOneRotation prekeys view) :=
  inferInstanceAs (Decidable (_ ∨ ∃ prekey ∈ prekeys, _))

section Views

variable {prekeys later : List SignedPrekey} {view other : SecretView}

/-- Only the four names matter. -/
theorem FromOneRotation.congr
    (one : FromOneRotation prekeys view)
    (same : ∀ name ∈ prekeyNames, other name = view name) :
    FromOneRotation prekeys other := by
  rcases one with missing | ⟨prekey, within, shown⟩
  · exact Or.inl fun name named => (same name named).trans (missing name named)
  · refine Or.inr ⟨prekey, within, fun secret part => ?_⟩
    rw [same secret.1 (List.mem_map.mpr ⟨secret, part, rfl⟩)]
    exact shown secret part

theorem FromOneRotation.append
    (one : FromOneRotation prekeys view) :
    FromOneRotation (prekeys ++ later) view := by
  rcases one with missing | ⟨prekey, within, shown⟩
  · exact Or.inl missing
  · exact Or.inr ⟨prekey, List.mem_append_left _ within, shown⟩

end Views

/-! ## On the general store -/

/-- Memory and disk agree on the four parts, and these are of one of the
prekeys. -/
structure Settled
    (prekeys : List SignedPrekey) (store : WriteThrough QString QByteArray) :
    Prop where
  agrees : ∀ name ∈ prekeyNames, store.disk name = store.memory name
  one : FromOneRotation prekeys store.disk

section Store

variable {prekeys : List SignedPrekey} {prekey : SignedPrekey}
  {store : WriteThrough QString QByteArray} {saves : ℕ → SaveOutcome}

theorem Settled.restart (settled : Settled prekeys store) :
    Settled prekeys store.restart :=
  ⟨fun _ _ => rfl, settled.one⟩

theorem Settled.append
    {later : List SignedPrekey} (settled : Settled prekeys store) :
    Settled (prekeys ++ later) store :=
  ⟨settled.agrees, settled.one.append⟩

/-- A secret of the prekey is determined by its name. -/
theorem value_of_name_eq
    {value : QByteArray} {secret : QString × QByteArray}
    (within : (secret.1, value) ∈ prekeySecrets prekey)
    (part : secret ∈ prekeySecrets prekey) :
    value = secret.2 := by
  have same := List.inj_on_of_nodup_map (prekeySecrets_distinct prekey)
    within part rfl
  exact congrArg Prod.snd same

/-- A rotation whose saves all work settles on its prekey. -/
theorem settled_of_works
    (works : ∀ write ∈ storeWrites (prekeySecrets prekey) saves,
      write.works = true) :
    let chain := store.storeAll (storeWrites (prekeySecrets prekey) saves)
    chain.1 = true ∧ Settled (prekeys ++ [prekey]) chain.2 := by
  intro chain
  have distinct :
      ((storeWrites (prekeySecrets prekey) saves).map
        WriteThrough.Write.name).Nodup := by
    rw [storeWrites_names]
    exact prekeySecrets_distinct prekey
  obtain ⟨returned, memory⟩ :=
    @WriteThrough.memory_storeAll_of_works _ _ _ store _ distinct works
  have allSaved := WriteThrough.saved_of_works works
  obtain ⟨disk, _⟩ :=
    @WriteThrough.disk_storeAll_of_saved _ _ _ store _ distinct
      (by rw [allSaved]; exact List.cons_ne_nil _ _)
  rw [allSaved] at disk
  have written : ∀ secret ∈ prekeySecrets prekey,
      chain.2.memory secret.1 = some secret.2 ∧
        chain.2.disk secret.1 = some secret.2 := by
    intro secret part
    obtain ⟨write, within, named, valued⟩ := exists_mem_storeWrites saves part
    rw [← named, ← valued]
    exact ⟨memory write within, disk write within⟩
  refine ⟨returned, ?_, Or.inr ⟨prekey, by simp, fun secret part =>
    Or.inr (written secret part).2⟩⟩
  intro name named
  rw [← prekeySecrets_names prekey] at named
  obtain ⟨secret, part, rfl⟩ := List.mem_map.mp named
  rw [(written secret part).1, (written secret part).2]

/-- A rotation that puts in memory only what is shown changes none of the
four parts. -/
theorem Settled.of_shown
    (settled : Settled prekeys store)
    {writes : List (WriteThrough.Write QString QByteArray)}
    (shown : ∀ write ∈ WriteThrough.reached writes,
      store.memory write.name = some write.value) :
    let next := (store.storeAll writes).2
    Settled prekeys next ∧
      ∀ name ∈ prekeyNames,
        next.memory name = store.memory name ∧
          next.disk name = store.disk name := by
  intro next
  obtain ⟨memory, disk⟩ := WriteThrough.storeAll_of_shown shown
  have inPlace : ∀ name ∈ prekeyNames,
      next.memory name = store.memory name ∧
        next.disk name = store.disk name := by
    intro name named
    have same := settled.agrees name named
    exact ⟨congrFun memory name, (disk name same).trans same.symm⟩
  refine ⟨⟨fun name named => ?_, settled.one.congr fun name named =>
    (inPlace name named).2⟩, inPlace⟩
  rw [(inPlace name named).1, (inPlace name named).2,
    settled.agrees name named]

/-- After a stop, the disk has the four parts of one prekey if the saved ones
were shown already or the others were missing. -/
theorem Settled.of_stop
    (settled : Settled prekeys store) (stores : ℕ)
    (clean :
      let saved :=
        WriteThrough.saved
          (storeWrites ((prekeySecrets prekey).take stores) saves)
      (∀ write ∈ saved, store.memory write.name = some write.value) ∨
      ∀ secret ∈ prekeySecrets prekey,
        secret.1 ∉ saved.map WriteThrough.Write.name →
          store.memory secret.1 = none ∨
            store.memory secret.1 = some secret.2) :
    Settled (prekeys ++ [prekey])
      (store.storeAll
        (storeWrites ((prekeySecrets prekey).take stores)
          saves)).2.restart := by
  let writes := storeWrites ((prekeySecrets prekey).take stores) saves
  have distinct : (writes.map WriteThrough.Write.name).Nodup := by
    rw [storeWrites_names, List.map_take]
    exact (prekeySecrets_distinct prekey).sublist (List.take_sublist _ _)
  refine ⟨fun _ _ => rfl, ?_⟩
  change FromOneRotation _ (store.storeAll writes).2.disk
  by_cases none : WriteThrough.saved writes = []
  · rw [WriteThrough.disk_storeAll_of_saved_eq_nil none]
    exact settled.one.append
  obtain ⟨values, others⟩ :=
    @WriteThrough.disk_storeAll_of_saved _ _ _ store _ distinct none
  rcases clean with shown | missing
  · refine (settled.one.congr fun name named => ?_).append
    rw [settled.agrees name named]
    by_cases within :
        name ∈ (WriteThrough.saved writes).map WriteThrough.Write.name
    · obtain ⟨write, isSaved, rfl⟩ := List.mem_map.mp within
      rw [values write isSaved, shown write isSaved]
    · exact others name within
  · refine Or.inr ⟨prekey, by simp, fun secret part => ?_⟩
    by_cases within :
        secret.1 ∈ (WriteThrough.saved writes).map WriteThrough.Write.name
    · obtain ⟨write, isSaved, named⟩ := List.mem_map.mp within
      have stored : (secret.1, write.value) ∈ prekeySecrets prekey := by
        rw [← named]
        exact List.mem_of_mem_take (secret_of_mem_storeWrites
          (WriteThrough.mem_of_mem_saved isSaved))
      rw [← named, values write isSaved, value_of_name_eq stored part]
      exact Or.inr rfl
    · rw [others secret.1 within]
      exact missing secret part within

end Store

/-! ## Runs -/

section Runs

variable {json : QJsonDocument} {sodium : Sodium}
  {vaultPath password : QString} {prekeys : List SignedPrekey}

/-- A vault that opens again and whose four parts are of one prekey. -/
structure Intact
    (json : QJsonDocument) (sodium : Sodium) (vaultPath password : QString)
    (prekeys : List SignedPrekey) (state : VaultService × Files) : Prop where
  reopenable : Reopenable json sodium vaultPath password state
  settled : Settled prekeys (durable json sodium state)

theorem Intact.of_reopen
    {state : VaultService × Files}
    (intact : Intact json sodium vaultPath password prekeys state)
    (reopening : Reopening) (salt : QByteArray) (save : SaveOutcome) :
    Intact json sodium vaultPath password prekeys
      (reopen json sodium password state reopening salt save).2 := by
  obtain ⟨_, reopenable, restarted⟩ :=
    reopen_refines intact.reopenable reopening salt save
  exact ⟨reopenable, restarted ▸ intact.settled.restart⟩

theorem drawnPrekey_nonempty
    {nextSignedPrekeyId : Int32} {state : VaultService × Files}
    {outcome : PrekeyOutcome} {prekey : SignedPrekey}
    (drawn :
      drawnPrekey sodium nextSignedPrekeyId state.1 outcome = some prekey) :
    ∀ secret ∈ prekeySecrets prekey, secret.1 ≠ [] ∧ secret.2 ≠ [] := by
  obtain ⟨publicKey, privateKey, _, _, signed, rfl⟩ :=
    drawnPrekey_eq_some drawn
  exact prekeySecrets_nonempty _ publicKey privateKey signed

theorem Intact.of_stop
    (roundTrips : json.RoundTrips)
    (correct : sodium.AeadCorrect)
    {state : Int32 × VaultService × Files}
    (intact : Intact json sodium vaultPath password prekeys state.2)
    {outcome : PrekeyOutcome} {stores : ℕ}
    (salt : QByteArray) (save : SaveOutcome)
    (clean : CutCleanly sodium state (.stop outcome stores salt save)) :
    Intact json sodium vaultPath password
      (prekeys ++ (drawnPrekey sodium state.1 state.2.1 outcome).toList)
      (reopen json sodium password
        (rotateCutOff json sodium state.1 state.2 outcome stores) .restart
        salt save).2 := by
  obtain ⟨counter, vaultState⟩ := state
  dsimp only
  rw [rotateCutOff]
  cases drawn : drawnPrekey sodium counter vaultState.1 outcome with
  | none =>
      rw [Option.toList_none, List.append_nil]
      exact intact.of_reopen .restart salt save
  | some prekey =>
      have nonempty : ∀ secret ∈ (prekeySecrets prekey).take stores,
          secret.1 ≠ [] ∧ secret.2 ≠ [] :=
        fun secret within =>
          drawnPrekey_nonempty drawn secret (List.mem_of_mem_take within)
      obtain ⟨_, reopenable, refined⟩ :=
        writeAll_refines roundTrips correct intact.reopenable nonempty
          outcome.saves
      obtain ⟨_, reopenedReopenable, restarted⟩ :=
        reopen_refines reopenable .restart salt save
      refine ⟨reopenedReopenable, ?_⟩
      rw [restarted, refined]
      exact intact.settled.of_stop stores (clean prekey drawn)

theorem Intact.of_rotate
    (roundTrips : json.RoundTrips)
    (correct : sodium.AeadCorrect)
    {state : Int32 × VaultService × Files}
    (intact : Intact json sodium vaultPath password prekeys state.2)
    {outcome : PrekeyOutcome}
    (clean : CutCleanly sodium state (.rotate outcome)) :
    Intact json sodium vaultPath password
        (prekeys ++ (drawnPrekey sodium state.1 state.2.1 outcome).toList)
        (rotateSignedPrekey json sodium state.1 state.2 outcome).2.2 ∧
      LeavesInPlace json sodium state (.rotate outcome) := by
  obtain ⟨counter, vaultState⟩ := state
  rw [LeavesInPlace]
  dsimp only
  cases drawn : drawnPrekey sodium counter vaultState.1 outcome with
  | none =>
      rw [rotateSignedPrekey_of_none json drawn, Option.toList_none,
        List.append_nil]
      exact ⟨intact, fun _ _ _ => ⟨rfl, rfl⟩⟩
  | some prekey =>
      rw [rotateSignedPrekey_of_some json drawn]
      dsimp only
      obtain ⟨returned, reopenable, refined⟩ :=
        writeAll_refines roundTrips correct intact.reopenable
          (drawnPrekey_nonempty drawn) outcome.saves
      rcases clean prekey drawn with works | shown
      · obtain ⟨done, settled⟩ :=
          @settled_of_works prekeys prekey
            (durable json sodium vaultState) outcome.saves works
        refine ⟨⟨reopenable, refined ▸ settled⟩, fun none => ?_⟩
        rw [if_pos (returned.trans done)] at none
        contradiction
      · obtain ⟨settled, inPlace⟩ := intact.settled.of_shown shown
        rw [← refined] at settled inPlace
        exact ⟨⟨reopenable, settled.append⟩, fun _ => inPlace⟩

/-- A step that is cut cleanly keeps the parts of one prekey, and a rotation
that gives nothing leaves them in place. -/
theorem rotationStep_intact
    (roundTrips : json.RoundTrips)
    (correct : sodium.AeadCorrect)
    (state : Int32 × VaultService × Files) (event : RotationEvent)
    (intact : Intact json sodium vaultPath password prekeys state.2)
    (clean : CutCleanly sodium state event) :
    Intact json sodium vaultPath password
        (prekeys ++ (madePrekey sodium state event).toList)
        (rotationStep json sodium password state event).2.2 ∧
      LeavesInPlace json sodium state event := by
  cases event with
  | reopen reopening salt save =>
      refine ⟨?_, trivial⟩
      rw [madePrekey, Option.toList_none, List.append_nil]
      exact intact.of_reopen reopening salt save
  | stop outcome stores salt save =>
      exact ⟨intact.of_stop roundTrips correct salt save clean, trivial⟩
  | rotate outcome =>
      exact intact.of_rotate roundTrips correct clean

theorem rotationRun_intact
    (roundTrips : json.RoundTrips)
    (correct : sodium.AeadCorrect)
    {state : Int32 × VaultService × Files} {events : List RotationEvent}
    (intact : Intact json sodium vaultPath password prekeys state.2)
    (clean :
      Machine.EachStep (CutCleanly sodium)
        (rotationStep json sodium password) state events) :
    Intact json sodium vaultPath password
        (prekeys ++
          Machine.observed (madePrekey sodium)
            (rotationStep json sodium password) state events)
        (Machine.run (rotationStep json sodium password) state events).2 ∧
      Machine.EachStep (LeavesInPlace json sodium)
        (rotationStep json sodium password) state events := by
  induction events generalizing state prekeys with
  | nil => exact ⟨by simpa using intact, trivial⟩
  | cons event events inductionHypothesis =>
      obtain ⟨intactNext, leaves⟩ :=
        rotationStep_intact roundTrips correct state event intact clean.1
      obtain ⟨intactFinal, leavesLater⟩ :=
        inductionHypothesis intactNext clean.2
      rw [Machine.observed_cons, ← List.append_assoc]
      exact ⟨intactFinal, leaves, leavesLater⟩

/-- On a vault that is opened without a signed prekey: when every rotation is
cut cleanly, the parts in the vault file are always those of one prekey that
the run has made, and rotations that give nothing leave them in place. -/
theorem signedPrekey_from_one_rotation
    (json : QJsonDocument)
    (sodium : Sodium)
    (vaultPath password : QString)
    (files : Files)
    (outcome : UnlockOutcome)
    (events : List RotationEvent)
    (roundTrips : json.RoundTrips)
    (correct : sodium.AeadCorrect)
    (unlocked :
      (unlockWithPassword json sodium (onPath vaultPath) files password
        outcome).1 = true)
    (absent : ∀ name ∈ prekeyNames,
      loadSecret
        (unlockWithPassword json sodium (onPath vaultPath) files password
          outcome).2.1 name = none)
    (clean :
      Machine.EachStep (CutCleanly sodium)
        (rotationStep json sodium password)
        (firstSignedPrekeyId,
          (unlockWithPassword json sodium (onPath vaultPath) files password
            outcome).2) events) :
    let start :=
      (firstSignedPrekeyId,
        (unlockWithPassword json sodium (onPath vaultPath) files password
          outcome).2)
    let step := rotationStep json sodium password
    FromOneRotation
        (Machine.observed (madePrekey sodium) step start events)
        (diskView json sodium (Machine.run step start events).2) ∧
      Machine.EachStep (LeavesInPlace json sodium) step start events := by
  intro start step
  obtain ⟨reopenable, agrees⟩ :=
    unlockWithPassword_reopenable roundTrips correct unlocked
  have intact : Intact json sodium vaultPath password [] start.2 := by
    refine ⟨reopenable, fun name _ => congrFun agrees name, Or.inl ?_⟩
    intro name named
    exact (congrFun agrees name).trans (absent name named)
  obtain ⟨final, leaves⟩ := rotationRun_intact roundTrips correct intact clean
  exact ⟨final.settled.one, leaves⟩

end Runs

section Examples

/-- Opening the reference vault with an identity. -/
def opening : Bool × VaultService × Files :=
  unlockWithPassword ReferenceJson.json ReferenceSodium.sodium
    (onPath ReferenceVault.vaultPath) withIdentity.2 ReferenceVault.password
    ReferenceVault.outcome

def referenceRotation : Int32 × VaultService × Files → RotationEvent →
    Option SignedPrekey × Int32 × VaultService × Files :=
  rotationStep ReferenceJson.json ReferenceSodium.sodium
    ReferenceVault.password

/-- The first rotation stops after two stores; a second one is complete. -/
theorem signedPrekey_from_second_rotation :
    let events : List RotationEvent :=
      [.stop (prekeyOutcome 10) 2 [] ReferenceVault.save,
        .rotate (prekeyOutcome 20)]
    let start := (firstSignedPrekeyId, opening.2)
    FromOneRotation
      (Machine.observed (madePrekey ReferenceSodium.sodium) referenceRotation
        start events)
      (diskView ReferenceJson.json ReferenceSodium.sodium
        (Machine.run referenceRotation start events).2) := by
  intro events start
  have absent : ∀ name ∈ prekeyNames, loadSecret opening.2.1 name = none := by
    decide +kernel
  have clean : Machine.EachStep (CutCleanly ReferenceSodium.sodium)
      referenceRotation start events := by
    refine ⟨fun prekey _ => Or.inr fun secret part _ => Or.inl ?_,
      fun prekey _ => Or.inl fun write within => ?_, trivial⟩
    · exact absent secret.1 (List.mem_map.mpr ⟨secret, part, rfl⟩)
    · exact works_of_mem_storeWrites (fun _ => rfl) within
  exact (signedPrekey_from_one_rotation ReferenceJson.json
    ReferenceSodium.sodium ReferenceVault.vaultPath ReferenceVault.password
    withIdentity.2 ReferenceVault.outcome events
    ReferenceJson.json_roundTrips ReferenceSodium.sodium_aeadCorrect
    (by decide +kernel) absent clean).1

/-- A rotation after which the process stops with one store of the next one
made: the file has the id of the second prekey beside the keys of the first.
A rotation whose second save fails gives nothing and leaves its id. -/
theorem signedPrekey_mixed_after_stop :
    let start := (firstSignedPrekeyId, opening.2)
    let stopped : List RotationEvent :=
      [.rotate (prekeyOutcome 10),
        .stop (prekeyOutcome 20) 1 [] ReferenceVault.save]
    let failing : RotationEvent :=
      .rotate
        { prekeyOutcome 20 with
          saves := fun index =>
            if index = 1 then ReferenceVault.failedSave
            else ReferenceVault.save }
    ¬FromOneRotation
        (Machine.observed (madePrekey ReferenceSodium.sodium)
          referenceRotation start stopped)
        (diskView ReferenceJson.json ReferenceSodium.sodium
          (Machine.run referenceRotation start stopped).2) ∧
      ¬LeavesInPlace ReferenceJson.json ReferenceSodium.sodium
        (Machine.run referenceRotation start [.rotate (prekeyOutcome 10)])
        failing := by
  intro start stopped failing
  refine ⟨by decide +kernel, fun inPlace => ?_⟩
  have failed :
      (referenceRotation
        (Machine.run referenceRotation start [.rotate (prekeyOutcome 10)])
        failing).1.isNone = true := by
    decide +kernel
  have same := (inPlace (Option.isNone_iff_eq_none.mp failed)
    kSignedPrekeyIdName List.mem_cons_self).1
  revert same
  decide +kernel

end Examples

end PrekeyManager
end Crypto
end VoxDesktop
