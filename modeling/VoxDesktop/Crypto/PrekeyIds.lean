import VoxDesktop.Crypto.IdentityDurability
import VoxDesktop.Crypto.PrekeyManager

/-!
# Ids of signed prekeys

`PrekeyManager` counts its prekeys in memory, from one.  The id of the last
one is stored in the vault and never read back, so a manager made on the
reopened vault counts from one again.  The ids of one manager increase up
to the largest `int`; ids of two managers coincide as soon as both have made a
prekey.
-/

namespace VoxDesktop
namespace Crypto
namespace PrekeyManager

open Qt Library VaultService

inductive SignedPrekeyEvent
  | rotate (outcome : PrekeyOutcome)
  /-- The application starts: the vault is opened again and a new manager is
  made on it. -/
  | start (password : QString) (outcome : UnlockOutcome)

/-- The counter of a new manager. -/
def firstSignedPrekeyId : Int32 := 1

/-- One event, on the counter of the manager and the vault. -/
def signedPrekeyStep
    (json : QJsonDocument) (sodium : Sodium)
    (state : Int32 × VaultService × Files) :
    SignedPrekeyEvent → Option SignedPrekey × Int32 × VaultService × Files
  | .rotate outcome =>
      rotateSignedPrekey json sodium state.1 state.2 outcome
  | .start password outcome =>
      (none, firstSignedPrekeyId,
        (unlockWithPassword json sodium (onPath state.2.1.m_vaultPath)
          state.2.2 password outcome).2)

/-- If the event is a rotation, it gives a prekey. -/
def Succeeds
    (json : QJsonDocument) (sodium : Sodium)
    (state : Int32 × VaultService × Files) : SignedPrekeyEvent → Prop
  | .rotate outcome =>
      (rotateSignedPrekey json sodium state.1 state.2 outcome).1.isSome = true
  | .start _ _ => True

instance Succeeds.decidable
    (json : QJsonDocument) (sodium : Sodium)
    (state : Int32 × VaultService × Files) :
    (event : SignedPrekeyEvent) →
      Decidable (Succeeds json sodium state event)
  | .rotate _ => inferInstanceAs (Decidable (_ = true))
  | .start _ _ => .isTrue trivial

/-- The ids of the prekeys that a run hands out, in order. -/
def keyIds
    (json : QJsonDocument) (sodium : Sodium)
    (state : Int32 × VaultService × Files) (events : List SignedPrekeyEvent) :
    List Int32 :=
  (Machine.collect (signedPrekeyStep json sodium) state events).map
    SignedPrekey.keyId

def SignedPrekeyEvent.rotates : SignedPrekeyEvent → Prop
  | rotate _ => True
  | start _ _ => False

/-- The largest `int`. -/
def maxSignedPrekeyId : ℕ := 2147483647

def rotationCount : List SignedPrekeyEvent → ℕ
  | [] => 0
  | .rotate _ :: events => rotationCount events + 1
  | .start _ _ :: events => rotationCount events

/-- No start lies between two rotations: one manager makes all prekeys. -/
def OneManager (events : List SignedPrekeyEvent) : Prop :=
  ∀ earlier password outcome later,
    events = earlier ++ .start password outcome :: later →
      (∀ event ∈ earlier, ¬event.rotates) ∨ ∀ event ∈ later, ¬event.rotates

/-! ## Ids by counting -/

/-- The ids of a run in which every rotation gives a prekey, if they were not
`int`s. -/
def countedIds : ℤ → List SignedPrekeyEvent → List ℤ
  | _, [] => []
  | next, .rotate _ :: events => next :: countedIds (next + 1) events
  | _, .start _ _ :: events => countedIds 1 events

section Counting

theorem countedIds_append_start
    (next : ℤ) (earlier : List SignedPrekeyEvent)
    (password : QString) (outcome : UnlockOutcome)
    (later : List SignedPrekeyEvent) :
    countedIds next (earlier ++ .start password outcome :: later) =
      countedIds next earlier ++ countedIds 1 later := by
  induction earlier generalizing next with
  | nil => rfl
  | cons event earlier inductionHypothesis =>
      cases event with
      | rotate outcome =>
          exact congrArg (next :: ·) (inductionHypothesis (next + 1))
      | start password outcome =>
          exact inductionHypothesis 1

/-- Every manager that makes a prekey gives it the first id. -/
theorem one_mem_countedIds
    {events : List SignedPrekeyEvent}
    (rotation : ∃ event ∈ events, event.rotates) :
    1 ∈ countedIds 1 events := by
  induction events with
  | nil => simp at rotation
  | cons event events inductionHypothesis =>
      cases event with
      | rotate outcome => exact List.mem_cons_self
      | start password outcome =>
          obtain ⟨found, within, rotates⟩ := rotation
          rcases List.mem_cons.mp within with rfl | within
          · exact rotates.elim
          · exact inductionHypothesis ⟨found, within, rotates⟩

theorem countedIds_eq_nil
    {next : ℤ} {events : List SignedPrekeyEvent}
    (none : ∀ event ∈ events, ¬event.rotates) :
    countedIds next events = [] := by
  induction events generalizing next with
  | nil => rfl
  | cons event events inductionHypothesis =>
      cases event with
      | rotate outcome => exact absurd trivial (none _ List.mem_cons_self)
      | start password outcome =>
          exact inductionHypothesis fun later within =>
            none later (List.mem_cons_of_mem _ within)

/-- As long as no start precedes a rotation, ids count up from the counter. -/
theorem countedIds_increasing
    {next : ℤ} {events : List SignedPrekeyEvent}
    (last : ∀ earlier password outcome later,
      events = earlier ++ .start password outcome :: later →
        ∀ event ∈ later, ¬event.rotates) :
    (countedIds next events).Pairwise (· < ·) ∧
      ∀ id ∈ countedIds next events, next ≤ id := by
  induction events generalizing next with
  | nil => exact ⟨List.Pairwise.nil, by simp [countedIds]⟩
  | cons event events inductionHypothesis =>
      cases event with
      | rotate outcome =>
          have lastLater : ∀ earlier password outcome later,
              events = earlier ++ .start password outcome :: later →
                ∀ event ∈ later, ¬event.rotates := by
            rintro earlier password unlocking later rfl
            exact last (.rotate outcome :: earlier) password unlocking later
              rfl
          obtain ⟨increasing, bounded⟩ :=
            @inductionHypothesis (next + 1) lastLater
          refine ⟨List.Pairwise.cons ?_ increasing, ?_⟩
          · intro id within
            exact Int.lt_of_add_one_le (bounded id within)
          · intro id within
            rcases List.mem_cons.mp within with rfl | within
            · exact le_rfl
            · have := bounded id within
              omega
      | start password outcome =>
          have empty : countedIds next (.start password outcome :: events) =
              [] :=
            @countedIds_eq_nil 1 _
              (last [] password outcome events rfl)
          rw [empty]
          exact ⟨List.Pairwise.nil, by simp⟩

theorem increasing_of_oneManager
    {events : List SignedPrekeyEvent} (one : OneManager events) :
    (countedIds 1 events).Pairwise (· < ·) := by
  induction events with
  | nil => exact List.Pairwise.nil
  | cons event events inductionHypothesis =>
      cases event with
      | rotate outcome =>
          refine (countedIds_increasing ?_).1
          intro earlier password unlocking later split
          refine (one earlier password unlocking later split).resolve_left
            fun none => ?_
          cases earlier with
          | nil => simp at split
          | cons head earlier =>
              rw [List.cons_append, List.cons.injEq] at split
              exact none _ List.mem_cons_self (split.1 ▸ trivial)
      | start password outcome =>
          refine inductionHypothesis ?_
          rintro earlier again unlocking later rfl
          rcases one (.start password outcome :: earlier) again unlocking
              later rfl with none | none
          · exact Or.inl fun event within =>
              none event (List.mem_cons_of_mem _ within)
          · exact Or.inr none

theorem oneManager_of_nodup
    {events : List SignedPrekeyEvent}
    (distinct : (countedIds 1 events).Nodup) :
    OneManager events := by
  rintro earlier password outcome later rfl
  by_contra both
  simp only [not_or, not_forall, not_not, exists_prop] at both
  rw [countedIds_append_start, List.nodup_append] at distinct
  exact distinct.2.2 _ (one_mem_countedIds both.1) _
    (one_mem_countedIds both.2) rfl

theorem length_countedIds (next : ℤ) (events : List SignedPrekeyEvent) :
    (countedIds next events).length = rotationCount events := by
  induction events generalizing next with
  | nil => rfl
  | cons event events inductionHypothesis =>
      cases event with
      | rotate outcome =>
          exact congrArg (· + 1) (inductionHypothesis (next + 1))
      | start password outcome => exact inductionHypothesis 1

theorem countedIds_bounded
    {next : ℤ} (positive : 1 ≤ next) (events : List SignedPrekeyEvent) :
    ∀ id ∈ countedIds next events,
      1 ≤ id ∧ id < next + rotationCount events := by
  induction events generalizing next with
  | nil => simp [countedIds]
  | cons event events inductionHypothesis =>
      intro id within
      cases event with
      | rotate outcome =>
          rw [rotationCount]
          rcases List.mem_cons.mp within with rfl | within
          · omega
          · have bounded :=
              @inductionHypothesis (next + 1) (by omega) id within
            omega
      | start password outcome =>
          have bounded := @inductionHypothesis 1 le_rfl id within
          rw [rotationCount]
          omega

/-- A manager gives its first prekey the id one. -/
theorem countedIds_one_cases (events : List SignedPrekeyEvent) :
    countedIds 1 events = [] ∨ ∃ later, countedIds 1 events = 1 :: later := by
  induction events with
  | nil => exact Or.inl rfl
  | cons event events inductionHypothesis =>
      cases event with
      | rotate outcome => exact Or.inr ⟨_, rfl⟩
      | start password outcome => exact inductionHypothesis

end Counting

/-! ## Counting in an `int` -/

section Wrapping

/-- Increasing numbers within bounds are no more than the numbers there. -/
theorem length_le_of_increasing
    {low high : ℤ} {values : List ℤ}
    (room : low ≤ high + 1)
    (increasing : values.Pairwise (· < ·))
    (bounded : ∀ value ∈ values, low ≤ value ∧ value ≤ high) :
    low + values.length ≤ high + 1 := by
  induction values generalizing low with
  | nil => simpa using room
  | cons value values inductionHypothesis =>
      obtain ⟨above, increasing⟩ := List.pairwise_cons.mp increasing
      obtain ⟨least, greatest⟩ := bounded value List.mem_cons_self
      have rest : value + 1 + values.length ≤ high + 1 := by
        apply inductionHypothesis (by omega) increasing
        intro other within
        exact ⟨Int.add_one_le_of_lt (above other within),
          (bounded other (List.mem_cons_of_mem _ within)).2⟩
      rw [List.length_cons]
      omega

/-- Ids that have room in an `int` keep their order there. -/
theorem wrappedIds_increasing
    {events : List SignedPrekeyEvent}
    (one : OneManager events)
    (room : rotationCount events ≤ maxSignedPrekeyId) :
    ((countedIds 1 events).map Int32.ofInt).Pairwise (· < ·) := by
  have maximum : Int32.maxValue.toInt = maxSignedPrekeyId := rfl
  have minimum : Int32.minValue.toInt ≤ 1 := by decide
  rw [List.pairwise_map]
  refine (increasing_of_oneManager one).imp_of_mem
    fun {first second} firstWithin secondWithin less => ?_
  have firstBounds := countedIds_bounded le_rfl events first firstWithin
  have secondBounds := countedIds_bounded le_rfl events second secondWithin
  rw [Int32.ofInt_lt_iff_lt (by omega) (by omega) (by omega) (by omega)]
  exact less

/-- Ids that increase in an `int` had room there. -/
theorem rotationCount_le_of_increasing
    {events : List SignedPrekeyEvent}
    (increasing :
      ((countedIds 1 events).map Int32.ofInt).Pairwise (· < ·)) :
    rotationCount events ≤ maxSignedPrekeyId := by
  rw [← length_countedIds 1]
  rcases countedIds_one_cases events with none | ⟨later, split⟩
  · rw [none]
    exact Nat.zero_le _
  have numbers :
      (((countedIds 1 events).map Int32.ofInt).map
        Int32.toInt).Pairwise (· < ·) := by
    rw [List.pairwise_map]
    exact increasing.imp Int32.lt_iff_toInt_lt.mp
  have bounded : ∀ number ∈
      ((countedIds 1 events).map Int32.ofInt).map Int32.toInt,
        1 ≤ number ∧ number ≤ maxSignedPrekeyId := by
    intro number within
    obtain ⟨id, _, rfl⟩ := List.mem_map.mp within
    refine ⟨?_, Int32.toInt_le id⟩
    rw [split, List.map_cons, List.map_cons] at numbers within
    rcases List.mem_cons.mp within with first | within
    · rw [first]
      decide
    · have above := (List.pairwise_cons.mp numbers).1 _ within
      exact le_trans (by decide) above.le
  have counted := length_le_of_increasing (by decide) numbers bounded
  rw [List.length_map, List.length_map] at counted
  omega

end Wrapping

/-! ## Ids of a run -/

/-- If every rotation gives a prekey, the ids are counted. -/
theorem keyIds_eq_countedIds
    {json : QJsonDocument} {sodium : Sodium}
    {next : ℤ} {vaultState : VaultService × Files}
    {events : List SignedPrekeyEvent}
    (succeed :
      Machine.EachStep (Succeeds json sodium)
        (signedPrekeyStep json sodium) (Int32.ofInt next, vaultState)
        events) :
    keyIds json sodium (Int32.ofInt next, vaultState) events =
      (countedIds next events).map Int32.ofInt := by
  induction events generalizing next vaultState with
  | nil => rfl
  | cons event events inductionHypothesis =>
      obtain ⟨succeeds, succeedLater⟩ := succeed
      rw [keyIds, Machine.collect_cons, List.map_append]
      cases event with
      | start password outcome => exact @inductionHypothesis 1 _ succeedLater
      | rotate outcome =>
          rw [signedPrekeyStep] at succeedLater ⊢
          rw [Succeeds] at succeeds
          dsimp only at succeeds succeedLater ⊢
          cases drawn : drawnPrekey sodium (Int32.ofInt next) vaultState.1
              outcome with
          | none =>
              rw [rotateSignedPrekey_of_none json drawn] at succeeds
              contradiction
          | some prekey =>
              obtain ⟨_, _, _, _, _, rfl⟩ := drawnPrekey_eq_some drawn
              rw [rotateSignedPrekey_of_some json drawn]
                at succeeds succeedLater ⊢
              dsimp only at succeeds succeedLater ⊢
              have further : Int32.ofInt next + 1 = Int32.ofInt (next + 1) :=
                (Int32.ofInt_add next 1).symm
              rw [further] at succeedLater ⊢
              have rest := inductionHypothesis succeedLater
              split at succeeds
              · rename_i stored
                rw [if_pos stored]
                exact congrArg (Int32.ofInt next :: ·) rest
              · contradiction

/-- Ids handed out over any starts of the application increase if and only if
one manager makes all prekeys and no more of them than an `int` can count; and
up to that number none is handed out twice if and only if one manager makes
them all. -/
theorem keyIds_increasing_iff
    (json : QJsonDocument)
    (sodium : Sodium)
    (vaultState : VaultService × Files)
    (events : List SignedPrekeyEvent)
    (succeed :
      Machine.EachStep (Succeeds json sodium)
        (signedPrekeyStep json sodium) (firstSignedPrekeyId, vaultState)
        events) :
    let ids := keyIds json sodium (firstSignedPrekeyId, vaultState) events
    (ids.Pairwise (· < ·) ↔
        OneManager events ∧ rotationCount events ≤ maxSignedPrekeyId) ∧
      (rotationCount events ≤ maxSignedPrekeyId →
        (ids.Nodup ↔ OneManager events)) := by
  intro ids
  have counted : ids = (countedIds 1 events).map Int32.ofInt :=
    @keyIds_eq_countedIds json sodium 1 vaultState events succeed
  have nodup_of_increasing : ids.Pairwise (· < ·) → ids.Nodup :=
    List.Pairwise.imp fun less => Int32.ne_of_lt less
  have one_of_nodup : ids.Nodup → OneManager events := by
    intro distinct
    rw [counted] at distinct
    exact oneManager_of_nodup distinct.of_map
  constructor
  · constructor
    · intro increasing
      refine ⟨one_of_nodup (nodup_of_increasing increasing), ?_⟩
      rw [counted] at increasing
      exact rotationCount_le_of_increasing increasing
    · rintro ⟨one, room⟩
      rw [counted]
      exact wrappedIds_increasing one room
  · intro room
    refine ⟨one_of_nodup, fun one => nodup_of_increasing ?_⟩
    rw [counted]
    exact wrappedIds_increasing one room

section Examples

/-- Key pairs, with saves that all work. -/
def prekeyOutcome (octet : UInt8) : PrekeyOutcome where
  keypair :=
    some (List.Vector.replicate _ octet, List.Vector.replicate _ (octet + 1))
  saves := fun _ => ReferenceVault.save

/-- The reference vault with an identity. -/
def withIdentity : VaultService × Files :=
  (IdentityKeyStore.referenceStep ReferenceVault.start
    (.ensure (IdentityKeyStore.outcomeFailing 1 none))).2

/-- One manager that rotates twice gives the ids one and two. -/
theorem keyIds_increasing_two_rotations :
    (keyIds ReferenceJson.json ReferenceSodium.sodium
      (firstSignedPrekeyId, withIdentity)
      [.rotate (prekeyOutcome 10), .rotate (prekeyOutcome 20)]).Pairwise
        (· < ·) := by
  refine (keyIds_increasing_iff ReferenceJson.json ReferenceSodium.sodium
    withIdentity [.rotate (prekeyOutcome 10), .rotate (prekeyOutcome 20)]
    ⟨by decide +kernel, by decide +kernel, trivial⟩).1.mpr
      ⟨?_, by decide⟩
  intro earlier password outcome later split
  have within : SignedPrekeyEvent.start password outcome ∈
      [.rotate (prekeyOutcome 10), .rotate (prekeyOutcome 20)] := by
    rw [split]
    simp
  simp at within

/-- A rotation, a start of the application and another rotation: two prekeys
with the id one. -/
theorem keyIds_repeat_after_start :
    let events : List SignedPrekeyEvent :=
      [.rotate (prekeyOutcome 10),
        .start ReferenceVault.password ReferenceVault.outcome,
        .rotate (prekeyOutcome 20)]
    let prekeys :=
      Machine.collect
        (signedPrekeyStep ReferenceJson.json ReferenceSodium.sodium)
        (firstSignedPrekeyId, withIdentity) events
    prekeys.map SignedPrekey.keyId = [1, 1] ∧
      (prekeys.map SignedPrekey.publicKey).Nodup ∧
      ¬(prekeys.map SignedPrekey.keyId).Pairwise (· < ·) := by
  decide +kernel

end Examples

end PrekeyManager
end Crypto
end VoxDesktop
