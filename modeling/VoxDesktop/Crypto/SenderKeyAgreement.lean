import VoxDesktop.Crypto.SenderKeyEpochs
import VoxDesktop.Library.Table

/-!
# Agreement on sender keys

The members of one conversation, each with its own `SenderKeyManager`.  A
member that rotates sends its epoch and key to all others; what was sent is
delivered in any order, possibly more than once.  Each manager replays the
log of what its member has made or been delivered, in which the last key of
an epoch counts.  When everything is delivered the members are in the same
epoch, and they have the same key for every epoch that only one rotation
gave.  The client has no rule for two rotations into the same epoch: then
each of the members that rotated is left with the key of another.
-/

namespace VoxDesktop
namespace Crypto

open Library Qt SenderKeyManager

/-- What a member sends to the others after a rotation. -/
structure SentKey (Member : Type) where
  sender : Member
  epoch : Int32
  key : QByteArray
deriving DecidableEq

/-- A member's manager, and what the member has made or been delivered, in
order. -/
structure Participant (Member : Type) where
  manager : SenderKeyManager := {}
  log : List (SentKey Member) := []

structure Group (Member : Type) where
  participant : Member → Participant Member := fun _ => {}
  sent : List (SentKey Member) := []

inductive GroupEvent (Member : Type)
  | rotate (member : Member) (drawn : List.Vector UInt8 kChaCha20KeyBytes)
  | deliver (message : SentKey Member) (receiver : Member)

variable {Member : Type} [DecidableEq Member]

/-- One event; a delivery needs a message from another member. -/
def groupStep
    (sodium : Sodium) (conversationId : QString) (group : Group Member) :
    GroupEvent Member → Option (Unit × Group Member)
  | .rotate member drawn =>
      let participant := group.participant member
      let rotated :=
        rotateEpoch sodium participant.manager conversationId drawn
      let message : SentKey Member :=
        ⟨member, rotated.2.currentEpoch conversationId, rotated.1⟩
      some ((),
        { participant :=
            Function.update group.participant member
              ⟨rotated.2, participant.log ++ [message]⟩
          sent := group.sent ++ [message] })
  | .deliver message receiver =>
      if message ∈ group.sent ∧ receiver ≠ message.sender then
        let participant := group.participant receiver
        let imported :=
          importEpochKey participant.manager conversationId message.epoch
            message.key
        some ((),
          { group with
            participant :=
              Function.update group.participant receiver
                ⟨imported.2, participant.log ++ [message]⟩ })
      else none

/-- Every message has been delivered to every other member. -/
def FullyDelivered (group : Group Member) : Prop :=
  ∀ message ∈ group.sent, ∀ member, member ≠ message.sender →
    message ∈ (group.participant member).log

/-- No rotation has overflowed: all epochs that were sent are positive. -/
def NoneOverflowed (group : Group Member) : Prop :=
  ∀ message ∈ group.sent, 0 < message.epoch

/-- The rotations that gave an epoch. -/
def rotationsInto (group : Group Member) (epoch : Int32) :
    List (SentKey Member) :=
  group.sent.filter fun message => message.epoch = epoch

/-! ## Replaying a log -/

omit [DecidableEq Member] in
/-- A manager is in the highest epoch of a log, or in none, and has for each
epoch the last key in the log. -/
structure Replays
    (conversationId : QString) (manager : SenderKeyManager)
    (log : List (SentKey Member)) : Prop where
  bounded : ∀ message ∈ log,
    message.epoch ≤ manager.currentEpoch conversationId
  entered : manager.currentEpoch conversationId = 0 ∨
    ∃ message ∈ log, message.epoch = manager.currentEpoch conversationId
  keys : ∀ epoch, manager.keyForEpoch conversationId epoch =
    (Table.lastOf SentKey.epoch log epoch).map SentKey.key

section Replay

omit [DecidableEq Member]

variable {sodium : Sodium} {conversationId : QString}
  {manager : SenderKeyManager} {log : List (SentKey Member)}

/-- An increment with a positive result has not overflowed. -/
theorem toInt_add_one_of_pos
    {epoch : Int32} (nonnegative : 0 ≤ epoch) (positive : 0 < epoch + 1) :
    (epoch + 1).toInt = epoch.toInt + 1 := by
  have lower : (0 : Int32).toInt ≤ epoch.toInt :=
    Int32.le_iff_toInt_le.mp nonnegative
  have upper := epoch.toInt_lt
  have result : (0 : Int32).toInt < (epoch + 1).toInt :=
    Int32.lt_iff_toInt_lt.mp positive
  rw [Int32.toInt_zero] at lower result
  by_cases largest : epoch.toInt + 1 ≤ maxEpoch
  · exact toInt_add_one largest
  · exfalso
    have overflowed : epoch = Int32.maxValue := by
      rw [← Int32.toInt_inj, Int32.toInt_maxValue]
      rw [maxEpoch] at largest
      omega
    rw [overflowed] at result
    exact absurd result (by decide)

theorem Replays.nonnegative
    (replays : Replays conversationId manager log)
    (positive : ∀ message ∈ log, 0 < message.epoch) :
    0 ≤ manager.currentEpoch conversationId := by
  rcases replays.entered with unentered | ⟨message, within, here⟩
  · rw [unentered]
    exact Int32.le_refl 0
  · rw [← here]
    exact Int32.le_of_lt (positive message within)

/-- A rotation enters an epoch above all those of the log. -/
theorem Replays.lt_rotated
    (replays : Replays conversationId manager log)
    (positive : ∀ message ∈ log, 0 < message.epoch)
    (noOverflow : 0 < manager.currentEpoch conversationId + 1) :
    ∀ message ∈ log,
      message.epoch < manager.currentEpoch conversationId + 1 := by
  intro message within
  have next :=
    toInt_add_one_of_pos (replays.nonnegative positive) noOverflow
  have bound := Int32.le_iff_toInt_le.mp (replays.bounded message within)
  rw [Int32.lt_iff_toInt_lt, next]
  omega

theorem Replays.rotate
    (replays : Replays conversationId manager log)
    (positive : ∀ message ∈ log, 0 < message.epoch)
    (member : Member) (drawn : List.Vector UInt8 kChaCha20KeyBytes)
    (noOverflow : 0 < manager.currentEpoch conversationId + 1) :
    Replays conversationId
      (rotateEpoch sodium manager conversationId drawn).2
      (log ++
        [⟨member, manager.currentEpoch conversationId + 1,
          (rotateEpoch sodium manager conversationId drawn).1⟩]) := by
  have entering := @currentEpoch_rotateEpoch sodium manager conversationId
    conversationId drawn
  rw [if_pos rfl] at entering
  refine ⟨?_, Or.inr ?_, ?_⟩
  · intro message within
    rw [entering]
    rcases List.mem_append.mp within with within | within
    · exact Int32.le_of_lt
        (replays.lt_rotated positive noOverflow message within)
    · rw [List.mem_singleton.mp within]
      exact Int32.le_refl _
  · exact ⟨_, List.mem_append_right _ List.mem_cons_self, entering.symm⟩
  · intro epoch
    rw [keyForEpoch_rotateEpoch, Table.lastOf_concat, replays.keys epoch]
    by_cases here : epoch = manager.currentEpoch conversationId + 1
    · rw [if_pos ⟨rfl, here⟩, if_pos here.symm]
      rfl
    · rw [if_neg fun both => here both.2, if_neg fun same => here same.symm]

theorem Replays.import
    (replays : Replays conversationId manager log)
    {message : SentKey Member}
    (importable : Importable message.epoch message.key) :
    Replays conversationId
      (importEpochKey manager conversationId message.epoch message.key).2
      (log ++ [message]) := by
  have entering := currentEpoch_importEpochKey manager conversationId
    conversationId importable
  rw [if_pos rfl] at entering
  have entered : ∀ epoch,
      epoch ≤ manager.currentEpoch conversationId ∨ epoch ≤ message.epoch →
        epoch ≤ max (manager.currentEpoch conversationId) message.epoch := by
    intro epoch
    simp only [Int32.le_iff_toInt_le, toInt_max]
    omega
  refine ⟨?_, ?_, ?_⟩
  · intro other within
    rw [entering]
    apply entered
    rcases List.mem_append.mp within with within | within
    · exact Or.inl (replays.bounded other within)
    · rw [List.mem_singleton.mp within]
      exact Or.inr (Int32.le_refl _)
  · have chosen :
        max (manager.currentEpoch conversationId) message.epoch =
            message.epoch ∨
          max (manager.currentEpoch conversationId) message.epoch =
            manager.currentEpoch conversationId := by
      simp only [← Int32.toInt_inj, toInt_max]
      omega
    rw [entering]
    rcases chosen with ahead | stays
    · exact Or.inr ⟨message, by simp, ahead.symm⟩
    · rw [stays]
      refine replays.entered.imp_right ?_
      rintro ⟨other, within, here⟩
      exact ⟨other, List.mem_append_left _ within, here⟩
  · intro epoch
    rw [keyForEpoch_importEpochKey manager conversationId conversationId epoch
      importable, Table.lastOf_concat, replays.keys epoch]
    by_cases here : epoch = message.epoch
    · rw [if_pos ⟨rfl, here⟩, if_pos here.symm]
      rfl
    · rw [if_neg fun both => here both.2, if_neg fun same => here same.symm]

/-- The epoch of a manager is at most that of one whose log has more. -/
theorem Replays.currentEpoch_le
    {other : SenderKeyManager} {more : List (SentKey Member)}
    (replays : Replays conversationId manager log)
    (othersReplays : Replays conversationId other more)
    (positive : ∀ message ∈ more, 0 < message.epoch)
    (included : ∀ message ∈ log, message ∈ more) :
    manager.currentEpoch conversationId ≤
      other.currentEpoch conversationId := by
  rcases replays.entered with unentered | ⟨message, within, here⟩
  · rw [unentered]
    exact othersReplays.nonnegative positive
  · rw [← here]
    exact othersReplays.bounded message (included message within)

end Replay

/-! ## The invariant of a group -/

/-- The log of a member holds messages that were sent, its own among them,
and the manager replays it; an own message is above all that the member had
before. -/
structure Participant.Kept
    (conversationId : QString) (sent : List (SentKey Member))
    (member : Member) (participant : Participant Member) : Prop where
  sound : ∀ message ∈ participant.log, message ∈ sent
  own : ∀ message ∈ sent, message.sender = member →
    message ∈ participant.log
  rising : ∀ earlier message later,
    participant.log = earlier ++ message :: later →
      message.sender = member →
        ∀ other ∈ earlier, other.epoch < message.epoch
  replays : Replays conversationId participant.manager participant.log

/-- All members are kept, and what was sent can be imported. -/
structure Logged
    (conversationId : QString) (group : Group Member) : Prop where
  kept : ∀ member,
    (group.participant member).Kept conversationId group.sent member
  importable : ∀ message ∈ group.sent, Importable message.epoch message.key

section Invariant

variable {sodium : Sodium} {conversationId : QString} {group : Group Member}

section Participants

omit [DecidableEq Member]

variable {sent : List (SentKey Member)} {member : Member}
  {participant : Participant Member} {message : SentKey Member}

/-- A message at the end of a log is above all before it, if it is the
member's own. -/
theorem rising_concat
    {log : List (SentKey Member)} {last : SentKey Member}
    (rising : ∀ earlier message later,
      log = earlier ++ message :: later → message.sender = member →
        ∀ other ∈ earlier, other.epoch < message.epoch)
    (lastRises : last.sender = member →
      ∀ other ∈ log, other.epoch < last.epoch)
    (earlier : List (SentKey Member)) (message : SentKey Member)
    (later : List (SentKey Member))
    (split : log ++ [last] = earlier ++ message :: later)
    (own : message.sender = member) :
    ∀ other ∈ earlier, other.epoch < message.epoch := by
  rcases List.eq_nil_or_concat later with rfl | ⟨later, final, rfl⟩
  · obtain ⟨rfl, same⟩ := List.append_inj' split rfl
    obtain rfl := List.singleton_inj.mp same
    exact lastRises own
  · rw [List.concat_eq_append, ← List.cons_append, ← List.append_assoc]
      at split
    exact rising earlier message later (List.append_inj' split rfl).1 own

/-- What another member sends is not in the log yet. -/
theorem Participant.Kept.mono
    (kept : participant.Kept conversationId sent member)
    (other : message.sender ≠ member) :
    participant.Kept conversationId (sent ++ [message]) member where
  sound entry within := List.mem_append_left _ (kept.sound entry within)
  own entry within sender := by
    rcases List.mem_append.mp within with within | within
    · exact kept.own entry within sender
    · rw [List.mem_singleton.mp within] at sender
      exact absurd sender other
  rising := kept.rising
  replays := kept.replays

theorem Participant.Kept.rotate
    (kept : participant.Kept conversationId sent member)
    (positive : ∀ message ∈ sent, 0 < message.epoch)
    (drawn : List.Vector UInt8 kChaCha20KeyBytes)
    (noOverflow : 0 < participant.manager.currentEpoch conversationId + 1)
    (made : message =
      ⟨member, participant.manager.currentEpoch conversationId + 1,
        (rotateEpoch sodium participant.manager conversationId drawn).1⟩) :
    Participant.Kept conversationId (sent ++ [message]) member
      ⟨(rotateEpoch sodium participant.manager conversationId drawn).2,
        participant.log ++ [message]⟩ := by
  have logPositive : ∀ message ∈ participant.log, 0 < message.epoch :=
    fun message within => positive message (kept.sound message within)
  refine ⟨?_, ?_, ?_, ?_⟩
  · intro entry within
    rcases List.mem_append.mp within with within | within
    · exact List.mem_append_left _ (kept.sound entry within)
    · exact List.mem_append_right _ within
  · intro entry within sender
    rcases List.mem_append.mp within with within | within
    · exact List.mem_append_left _ (kept.own entry within sender)
    · exact List.mem_append_right _ within
  · refine rising_concat kept.rising fun _ => ?_
    rw [made]
    exact kept.replays.lt_rotated logPositive noOverflow
  · rw [made]
    exact kept.replays.rotate logPositive member drawn noOverflow

theorem Participant.Kept.deliver
    (kept : participant.Kept conversationId sent member)
    (within : message ∈ sent) (other : member ≠ message.sender)
    (importable : Importable message.epoch message.key) :
    Participant.Kept conversationId sent member
      ⟨(importEpochKey participant.manager conversationId message.epoch
          message.key).2,
        participant.log ++ [message]⟩ := by
  refine ⟨?_, ?_, ?_, ?_⟩
  · intro entry logged
    rcases List.mem_append.mp logged with logged | logged
    · exact kept.sound entry logged
    · rwa [List.mem_singleton.mp logged]
  · intro entry sent sender
    exact List.mem_append_left _ (kept.own entry sent sender)
  · exact rising_concat kept.rising fun own => absurd own.symm other
  · exact kept.replays.import importable

end Participants

/-- An event keeps the invariant as long as no rotation overflows. -/
theorem groupStep_logged
    (initialized : sodium.initialized = true)
    {event : GroupEvent Member} {next : Group Member}
    (stepped : groupStep sodium conversationId group event = some ((), next))
    (kept : NoneOverflowed group → Logged conversationId group)
    (none : NoneOverflowed next) :
    Logged conversationId next := by
  cases event with
  | rotate member drawn =>
      simp only [groupStep, currentEpoch_rotateEpoch, if_true,
        Option.some.injEq, Prod.mk.injEq, true_and] at stepped
      subst stepped
      have before : NoneOverflowed group := fun message within =>
        none message (List.mem_append_left _ within)
      have noOverflow := none _ (List.mem_append_right _ List.mem_cons_self)
      have logged := kept before
      refine ⟨?_, ?_⟩
      · refine (Function.forall_update_iff group.participant
          fun member participant => participant.Kept conversationId _
            member).mpr ⟨?_, ?_⟩
        · exact (logged.kept member).rotate before drawn noOverflow rfl
        · intro other differs
          exact (logged.kept other).mono (Ne.symm differs)
      · intro message within
        rcases List.mem_append.mp within with within | within
        · exact logged.importable message within
        · rw [List.mem_singleton.mp within]
          exact ⟨noOverflow,
            length_rotateEpoch (group.participant member).manager
              conversationId drawn initialized⟩
  | deliver message receiver =>
      simp only [groupStep, Option.ite_none_right_eq_some, Option.some.injEq,
        Prod.mk.injEq, true_and] at stepped
      obtain ⟨⟨sent, other⟩, rfl⟩ := stepped
      have logged := kept none
      refine ⟨?_, logged.importable⟩
      refine (Function.forall_update_iff group.participant
        fun member participant => participant.Kept conversationId group.sent
          member).mpr ⟨?_, fun member _ => logged.kept member⟩
      exact (logged.kept receiver).deliver sent other
        (logged.importable message sent)

/-- Every group reached without overflow meets the invariant. -/
theorem logged_of_reached
    (initialized : sodium.initialized = true)
    {events : List (GroupEvent Member)} {outputs : List Unit}
    (reached : Machine.execute (groupStep sodium conversationId) {} events =
      some (outputs, group))
    (none : NoneOverflowed group) :
    Logged conversationId group := by
  refine (Machine.execute_invariant
    (fun group => NoneOverflowed group → Logged conversationId group)
    (fun _ => True) ?_ ?_ reached).2 none
  · intro group event _ next kept stepped
    exact ⟨trivial, groupStep_logged initialized stepped kept⟩
  · intro _
    refine ⟨fun member => ⟨?_, ?_, ?_, ?_⟩, ?_⟩
    · intro message within
      cases within
    · intro message within
      cases within
    · intro earlier message later split
      simp at split
    · refine ⟨?_, Or.inl rfl, fun epoch => rfl⟩
      intro message within
      cases within
    · intro message within
      cases within

/-! ### Few rotations -/

omit [DecidableEq Member] in
/-- A member has entered at most as many epochs as there were rotations. -/
def Participant.Within
    (conversationId : QString) (rotations : ℕ)
    (participant : Participant Member) : Prop :=
  0 ≤ (participant.manager.currentEpoch conversationId).toInt ∧
    (participant.manager.currentEpoch conversationId).toInt ≤ rotations

/-- Epochs are bounded by the number of rotations. -/
structure EpochsCounted
    (conversationId : QString) (group : Group Member) : Prop where
  members : ∀ member,
    (group.participant member).Within conversationId group.sent.length
  messages : ∀ message ∈ group.sent,
    0 < message.epoch.toInt ∧ message.epoch.toInt ≤ group.sent.length

section Within

variable {participant : Participant Member} {rotations : ℕ}

omit [DecidableEq Member] in
theorem Participant.Within.mono
    (within : participant.Within conversationId rotations) {more : ℕ}
    (fewer : rotations ≤ more) :
    participant.Within conversationId more :=
  ⟨within.1, within.2.trans (Int.ofNat_le.mpr fewer)⟩

omit [DecidableEq Member] in
theorem Participant.Within.toInt_next
    (within : participant.Within conversationId rotations)
    (few : rotations + 1 ≤ maxEpoch) :
    (participant.manager.currentEpoch conversationId + 1).toInt =
      (participant.manager.currentEpoch conversationId).toInt + 1 := by
  rw [Participant.Within] at within
  exact toInt_add_one (by omega)

omit [DecidableEq Member] in
/-- A rotation enters one epoch more. -/
theorem Participant.Within.rotate
    (within : participant.Within conversationId rotations)
    (few : rotations + 1 ≤ maxEpoch)
    (drawn : List.Vector UInt8 kChaCha20KeyBytes)
    (log : List (SentKey Member)) :
    Participant.Within conversationId (rotations + 1)
      ⟨(rotateEpoch sodium participant.manager conversationId drawn).2,
        log⟩ := by
  have next := within.toInt_next few
  rw [Participant.Within] at within ⊢
  rw [currentEpoch_rotateEpoch, if_pos rfl, next]
  omega

omit [DecidableEq Member] in
/-- An import enters no epoch past that of the message. -/
theorem Participant.Within.import
    (within : participant.Within conversationId rotations)
    {message : SentKey Member} (bound : message.epoch.toInt ≤ rotations)
    (log : List (SentKey Member)) :
    Participant.Within conversationId rotations
      ⟨(importEpochKey participant.manager conversationId message.epoch
        message.key).2, log⟩ := by
  by_cases importable : Importable message.epoch message.key
  · rw [Participant.Within] at within ⊢
    rw [currentEpoch_importEpochKey _ conversationId conversationId
      importable, if_pos rfl, toInt_max]
    omega
  · rw [Participant.Within,
      importEpochKey_of_not_importable _ conversationId importable]
    exact within

end Within

theorem groupStep_counted
    {event : GroupEvent Member} {next : Group Member}
    (stepped : groupStep sodium conversationId group event = some ((), next))
    (counted : group.sent.length ≤ maxEpoch →
      EpochsCounted conversationId group)
    (few : next.sent.length ≤ maxEpoch) :
    EpochsCounted conversationId next := by
  cases event with
  | rotate member drawn =>
      simp only [groupStep, currentEpoch_rotateEpoch, if_true,
        Option.some.injEq, Prod.mk.injEq, true_and] at stepped
      subst stepped
      rw [List.length_append, List.length_singleton] at few
      obtain ⟨members, messages⟩ := counted (by omega)
      refine ⟨?_, ?_⟩
      · rw [List.length_append, List.length_singleton]
        exact (Function.forall_update_iff group.participant
          fun _ => Participant.Within conversationId _).mpr
          ⟨(members member).rotate few drawn _,
            fun other _ => (members other).mono (Nat.le_succ _)⟩
      · intro message within
        rw [List.length_append, List.length_singleton]
        rcases List.mem_append.mp within with within | within
        · have bound := messages message within
          omega
        · have here := members member
          rw [Participant.Within] at here
          rw [List.mem_singleton.mp within, (members member).toInt_next few]
          omega
  | deliver message receiver =>
      simp only [groupStep, Option.ite_none_right_eq_some,
        Option.some.injEq, Prod.mk.injEq, true_and] at stepped
      obtain ⟨⟨within, _⟩, rfl⟩ := stepped
      obtain ⟨members, messages⟩ := counted few
      refine ⟨?_, messages⟩
      exact (Function.forall_update_iff group.participant
        fun _ => Participant.Within conversationId _).mpr
        ⟨(members receiver).import (messages message within).2 _,
          fun other _ => members other⟩

/-- With no more rotations than there are epochs, none overflows. -/
theorem noneOverflowed_of_length
    {events : List (GroupEvent Member)} {outputs : List Unit}
    (reached : Machine.execute (groupStep sodium conversationId) {} events =
      some (outputs, group))
    (few : group.sent.length ≤ maxEpoch) :
    NoneOverflowed group := by
  have counted := (Machine.execute_invariant
    (fun group => group.sent.length ≤ maxEpoch →
      EpochsCounted conversationId group)
    (fun _ => True) ?_ ?_ reached).2 few
  · intro message within
    rw [Int32.lt_iff_toInt_lt, Int32.toInt_zero]
    exact (counted.messages message within).1
  · intro group event _ next kept stepped
    exact ⟨trivial, groupStep_counted stepped kept⟩
  · intro _
    refine ⟨fun member => ⟨Int.le_refl 0, Int.le_refl 0⟩, ?_⟩
    intro message within
    cases within

end Invariant

/-! ## Agreement -/

section Agreement

variable {conversationId : QString} {group : Group Member}

omit [DecidableEq Member]

/-- When everything is delivered, every log has all that was sent. -/
theorem mem_log_iff
    (logged : Logged conversationId group) (delivered : FullyDelivered group)
    (member : Member) (message : SentKey Member) :
    message ∈ (group.participant member).log ↔ message ∈ group.sent := by
  refine ⟨(logged.kept member).sound message, fun sent => ?_⟩
  by_cases own : message.sender = member
  · exact (logged.kept member).own message sent own
  · exact delivered message sent member (Ne.symm own)

theorem currentEpoch_agrees
    (logged : Logged conversationId group) (delivered : FullyDelivered group)
    (member other : Member) :
    (group.participant member).manager.currentEpoch conversationId =
      (group.participant other).manager.currentEpoch conversationId := by
  have atMost : ∀ first second : Member,
      (group.participant first).manager.currentEpoch conversationId ≤
        (group.participant second).manager.currentEpoch conversationId := by
    intro first second
    refine (logged.kept first).replays.currentEpoch_le
      (logged.kept second).replays ?_ ?_
    · intro message within
      exact (logged.importable message
        ((logged.kept second).sound message within)).1
    · intro message within
      rw [mem_log_iff logged delivered] at within ⊢
      exact within
  exact Int32.le_antisymm (atMost member other) (atMost other member)

/-- The last message of an epoch in a log is one of its rotations. -/
theorem lastOf_mem_rotationsInto
    (logged : Logged conversationId group) {member : Member} {epoch : Int32}
    {last : SentKey Member}
    (found :
      Table.lastOf SentKey.epoch (group.participant member).log epoch =
        some last) :
    last ∈ rotationsInto group epoch := by
  obtain ⟨same, earlier, later, split, _⟩ := Table.split_of_lastOf found
  have within : last ∈ (group.participant member).log := by
    rw [split]
    simp
  exact List.mem_filter.mpr
    ⟨(logged.kept member).sound last within, decide_eq_true same⟩

/-- An epoch of at most one rotation has the same key everywhere. -/
theorem keyForEpoch_agrees
    (logged : Logged conversationId group) (delivered : FullyDelivered group)
    {epoch : Int32} (once : (rotationsInto group epoch).length ≤ 1)
    (member other : Member) :
    (group.participant member).manager.keyForEpoch conversationId epoch =
      (group.participant other).manager.keyForEpoch conversationId epoch := by
  have stored : ∀ member,
      Table.lastOf SentKey.epoch (group.participant member).log epoch =
        (rotationsInto group epoch).head? := by
    intro member
    cases found :
        Table.lastOf SentKey.epoch (group.participant member).log epoch with
    | none =>
        have absent := Table.lastOf_eq_none_iff.mp found
        rw [eq_comm, List.head?_eq_none_iff, rotationsInto,
          List.filter_eq_nil_iff]
        intro message sent here
        exact absent message
          ((mem_log_iff logged delivered member message).mpr sent)
          (of_decide_eq_true here)
    | some last =>
        have within := lastOf_mem_rotationsInto logged found
        have only := List.length_pos_of_mem within
        obtain ⟨single, same⟩ := List.length_eq_one_iff.mp
          (Nat.le_antisymm once only)
        rw [same] at within ⊢
        rw [List.mem_singleton.mp within]
        rfl
  rw [(logged.kept member).replays.keys, (logged.kept other).replays.keys,
    stored member, stored other]

/-- Where a log has two rotations into an epoch, the last one is another
member's. -/
theorem lastOf_of_two
    (logged : Logged conversationId group) {member : Member} {epoch : Int32}
    {first second : SentKey Member}
    (firstIn : first ∈ (group.participant member).log)
    (secondIn : second ∈ (group.participant member).log)
    (firstInto : first.epoch = epoch) (secondInto : second.epoch = epoch)
    (differ : first ≠ second) :
    ∃ last,
      Table.lastOf SentKey.epoch (group.participant member).log epoch =
        some last ∧ last.sender ≠ member := by
  cases found :
      Table.lastOf SentKey.epoch (group.participant member).log epoch with
  | none =>
      exact absurd firstInto
        (Table.lastOf_eq_none_iff.mp found first firstIn)
  | some last =>
      refine ⟨last, rfl, fun own => differ ?_⟩
      obtain ⟨same, earlier, later, split, others⟩ :=
        Table.split_of_lastOf found
      have below :=
        (logged.kept member).rising earlier last later split own
      -- An own message would be the only one of its epoch up to here.
      have onlyLast : ∀ message ∈ (group.participant member).log,
          message.epoch = epoch → message = last := by
        intro message within into
        rw [split, List.mem_append, List.mem_cons] at within
        rcases within with within | rfl | within
        · have lower := below message within
          rw [into, same] at lower
          exact absurd lower Int32.lt_irrefl
        · rfl
        · exact absurd into (others message within)
      rw [onlyLast first firstIn firstInto,
        onlyLast second secondIn secondInto]

/-- An epoch of several rotations with different keys leaves two members with
different keys. -/
theorem keyForEpoch_differs
    (logged : Logged conversationId group) (delivered : FullyDelivered group)
    {epoch : Int32}
    (fresh : ((rotationsInto group epoch).map SentKey.key).Nodup)
    (several : 1 < (rotationsInto group epoch).length) :
    ∃ member other,
      (group.participant member).manager.keyForEpoch conversationId epoch ≠
        (group.participant other).manager.keyForEpoch conversationId
          epoch := by
  by_contra agree
  simp only [not_exists, not_not] at agree
  have distinct := fresh.of_map
  obtain ⟨first, second, rest, rotations⟩ :
      ∃ first second rest,
        rotationsInto group epoch = first :: second :: rest := by
    match rotationsInto group epoch, several with
    | first :: second :: rest, _ => exact ⟨first, second, rest, rfl⟩
  have differ : first ≠ second := by
    intro same
    rw [rotations, same] at distinct
    simp at distinct
  have into : ∀ message ∈ rotationsInto group epoch,
      message ∈ group.sent ∧ message.epoch = epoch := by
    intro message within
    rw [rotationsInto, List.mem_filter] at within
    exact ⟨within.1, of_decide_eq_true within.2⟩
  have everywhere : ∀ member, ∀ message ∈ rotationsInto group epoch,
      message ∈ (group.participant member).log := fun member message within =>
    (mem_log_iff logged delivered member message).mpr (into message within).1
  have firstIn : first ∈ rotationsInto group epoch := by simp [rotations]
  have secondIn : second ∈ rotationsInto group epoch := by simp [rotations]
  have lastAt := fun member => lastOf_of_two logged
    (everywhere member first firstIn) (everywhere member second secondIn)
    (into first firstIn).2 (into second secondIn).2 differ
  obtain ⟨last, lastHere, _⟩ := lastAt first.sender
  -- The member whose key the first one holds does not hold its own.
  obtain ⟨replaced, lastThere, notOwn⟩ := lastAt last.sender
  have sameKey := agree first.sender last.sender
  rw [(logged.kept _).replays.keys, (logged.kept _).replays.keys, lastHere,
    lastThere] at sameKey
  have same : last = replaced :=
    List.inj_on_of_nodup_map fresh (lastOf_mem_rotationsInto logged lastHere)
      (lastOf_mem_rotationsInto logged lastThere) (Option.some.inj sameKey)
  exact notOwn (congrArg SentKey.sender same.symm)

end Agreement

/-- When everything is delivered and no rotation has overflowed, all members
are in the same epoch; and where rotations drew different keys, they have the
same key for an epoch exactly when at most one rotation gave it. -/
theorem sender_keys_agree
    (sodium : Sodium) (initialized : sodium.initialized = true)
    (conversationId : QString)
    (events : List (GroupEvent Member)) (outputs : List Unit)
    (group : Group Member)
    (reached : Machine.execute (groupStep sodium conversationId) {} events =
      some (outputs, group))
    (delivered : FullyDelivered group) (none : NoneOverflowed group) :
    (∀ member other,
      (group.participant member).manager.currentEpoch conversationId =
        (group.participant other).manager.currentEpoch conversationId) ∧
      ∀ epoch,
        ((rotationsInto group epoch).length ≤ 1 →
          ∀ member other,
            (group.participant member).manager.keyForEpoch conversationId
                epoch =
              (group.participant other).manager.keyForEpoch conversationId
                epoch) ∧
        (1 < (rotationsInto group epoch).length →
          ((rotationsInto group epoch).map SentKey.key).Nodup →
            ∃ member other,
              (group.participant member).manager.keyForEpoch conversationId
                  epoch ≠
                (group.participant other).manager.keyForEpoch conversationId
                  epoch) := by
  have logged := logged_of_reached initialized reached none
  refine ⟨currentEpoch_agrees logged delivered, fun epoch => ⟨?_, ?_⟩⟩
  · exact fun once => keyForEpoch_agrees logged delivered once
  · exact fun several fresh =>
      keyForEpoch_differs logged delivered fresh several

section Examples

/-- Another key than the one drawn first. -/
def secondKey : List.Vector UInt8 kChaCha20KeyBytes :=
  ⟨List.replicate kChaCha20KeyBytes 8, by simp⟩

/-- Two members rotate before either has the other's key, and both keys are
delivered. -/
def crossingRotations : List (GroupEvent Bool) :=
  [.rotate false drawnKey, .rotate true secondKey,
    .deliver ⟨false, 1, drawnKey.toList⟩ true,
    .deliver ⟨true, 1, secondKey.toList⟩ false]

/-- One member rotates, the other one has its key and rotates after it. -/
def orderedRotations : List (GroupEvent Bool) :=
  [.rotate false drawnKey, .deliver ⟨false, 1, drawnKey.toList⟩ true,
    .rotate true secondKey, .deliver ⟨true, 2, secondKey.toList⟩ false]

/-- The group after a list of events. -/
def groupAfter (events : List (GroupEvent Bool)) : Group Bool :=
  ((Machine.execute (groupStep ReferenceSodium.sodium conversation) {}
    events).map Prod.snd).getD {}

theorem ordered_rotations_agree :
    (∀ member other,
      ((groupAfter orderedRotations).participant member).manager.currentEpoch
          conversation =
        ((groupAfter orderedRotations).participant other).manager.currentEpoch
          conversation) ∧
      ∀ member other,
        ((groupAfter orderedRotations).participant member).manager.keyForEpoch
            conversation 2 =
          ((groupAfter orderedRotations).participant other).manager.keyForEpoch
            conversation 2 := by
  have agree := sender_keys_agree ReferenceSodium.sodium rfl conversation
    orderedRotations [(), (), (), ()] (groupAfter orderedRotations) rfl
    (by unfold FullyDelivered; decide +kernel)
    (by unfold NoneOverflowed; decide +kernel)
  exact ⟨agree.1, (agree.2 2).1 (by decide +kernel)⟩

/-- Each of the two members is left with the other's key for the epoch that
both are in. -/
theorem crossing_rotations_disagree :
    Machine.execute (groupStep ReferenceSodium.sodium conversation) {}
        crossingRotations =
      some ([(), (), (), ()], groupAfter crossingRotations) ∧
    FullyDelivered (groupAfter crossingRotations) ∧
      ∃ member other : Bool,
        ((groupAfter crossingRotations).participant
            member).manager.currentEpoch conversation = 1 ∧
          ((groupAfter crossingRotations).participant
              member).manager.keyForEpoch conversation 1 ≠
            ((groupAfter crossingRotations).participant
              other).manager.keyForEpoch conversation 1 := by
  refine ⟨rfl, ?_, false, true, ?_⟩
  · unfold FullyDelivered
    decide +kernel
  · decide +kernel

end Examples

end Crypto
end VoxDesktop
