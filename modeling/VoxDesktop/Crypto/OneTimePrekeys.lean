import VoxDesktop.Crypto.PrekeyManager
import VoxDesktop.Crypto.ReferenceVault
import VoxDesktop.Crypto.VaultDurability
import VoxDesktop.Library.Machine

/-!
# The queue of one-time prekeys

Publishing appends the pairs it draws to the queue and consuming takes the
first entry off it, so the keys consumed so far followed by the keys still in
the queue are the keys of the start followed by the keys drawn.  Both calls
ignore whether their save works.  As long as the saves that change the queue
do, the equation survives every restart; a failed one hands a key out twice
or loses a published key.
-/

namespace VoxDesktop
namespace Crypto
namespace PrekeyManager

open Qt CryptoHelpers Library VaultService

/-! ## The stored form -/

section Stored

variable {json : QJsonArrayDocument}

/-- A member text is ASCII. -/
theorem toMember_eq_string (bytes : QByteArray) :
    toMember bytes = .string (fromUtf8 (VaultService.toB64 bytes)) ∧
      ∀ unit ∈ fromUtf8 (VaultService.toB64 bytes), unit.toNat < 0x80 := by
  have ascii : IsAscii (VaultService.toB64 bytes) := toBase64_ascii _ bytes
  refine ⟨rfl, ?_⟩
  rw [fromUtf8_ascii ascii]
  intro unit within
  obtain ⟨octet, member, rfl⟩ := List.mem_map.mp within
  rw [UInt16.toNat_ofNat', Nat.mod_eq_of_lt (by have := octet.toNat_lt; omega)]
  exact ascii octet member

/-- A queue is stored as a text that is not empty, and read back as it was. -/
theorem decodeOneTimeQueue_encode
    (roundTrips : json.RoundTripsArrays) (keys : List QByteArray) :
    encodeOneTimeQueue json keys ≠ [] ∧
      decodeOneTimeQueue json (encodeOneTimeQueue json keys) = keys := by
  have texts :
      keys.map toMember =
        (keys.map fun key => fromUtf8 (VaultService.toB64 key)).map
          QJsonValue.string := by
    rw [List.map_map]
    rfl
  obtain ⟨nonempty, readBack⟩ := roundTrips
    (keys.map fun key => fromUtf8 (VaultService.toB64 key)) (by
      intro text within
      obtain ⟨key, _, rfl⟩ := List.mem_map.mp within
      exact (toMember_eq_string key).2)
  rw [encodeOneTimeQueue, texts]
  refine ⟨nonempty, ?_⟩
  rw [decodeOneTimeQueue, if_neg nonempty, readBack, ← texts, List.map_map]
  have inverse : fromMember ∘ toMember = id :=
    funext fun bytes => fromMember_toMember bytes
  rw [inverse, List.map_id]

/-- The private key of an entry is the one it was made with. -/
theorem entryPrivate_queueEntry
    (roundTrips : json.toQJsonDocument.RoundTrips)
    (prekeyPub prekeyPriv : QByteArray) :
    entryPrivate json (queueEntry json prekeyPub prekeyPriv) = prekeyPriv := by
  let members : QJsonObject :=
    [(QString.literal "pub", toMember prekeyPub),
      (QString.literal "priv", toMember prekeyPriv)]
  have keys : members.keys.Nodup := by
    change [QString.literal "pub", QString.literal "priv"].Nodup
    decide
  have flat : members.Flat := by
    intro member within
    simp only [members, List.mem_cons, List.not_mem_nil, or_false] at within
    rcases within with rfl | rfl
    · exact Or.inl ⟨_, rfl⟩
    · exact Or.inl ⟨_, rfl⟩
  have readBack := roundTrips.fromJson flat keys
  have distinct := (readBack.map Prod.fst).nodup_iff.mpr keys
  have within : (QString.literal "priv", toMember prekeyPriv) ∈
      json.fromJson (json.toJson members) :=
    readBack.mem_iff.mpr (.tail _ (.head _))
  rw [entryPrivate, queueEntry, QJsonObject.ofMembers_of_nodup keys,
    QJsonObject.value_of_mem distinct within, fromMember_toMember]

end Stored

/-! ## Runs of the manager -/

inductive PrekeyEvent
  | publish (count : ℤ) (outcome : PublishOutcome)
  | consume (save : SaveOutcome)
  | reopen (reopening : Reopening) (salt : QByteArray) (save : SaveOutcome)

/-- What a call returns. -/
inductive PrekeyReport
  | published (created : List QByteArray)
  | consumed (key : Option QByteArray)
  | reopened (returned : Bool)

def prekeyStep
    (json : QJsonArrayDocument) (sodium : Sodium) (password : QString)
    (state : VaultService × Files) :
    PrekeyEvent → PrekeyReport × VaultService × Files
  | .publish count outcome =>
      let published := publishOneTimePrekeys json sodium state count outcome
      (.published published.1, published.2)
  | .consume save =>
      let consumed := consumeOneTimePrekey json sodium state save
      (.consumed consumed.1, consumed.2)
  | .reopen reopening salt save =>
      let reopened :=
        reopen json.toQJsonDocument sodium password state reopening salt save
      (.reopened reopened.1, reopened.2)

/-- The public keys a call returns. -/
def PrekeyReport.publicKeys : PrekeyReport → List QByteArray
  | published created => created
  | _ => []

/-- The private key a call returns, if it returns one. -/
def PrekeyReport.privateKeys : PrekeyReport → List QByteArray
  | consumed key => key.toList
  | _ => []

/-- The pairs the publishing loop draws. -/
def drawnPairs (keypairs : ℕ → KxKeypair) :
    (index remaining : ℕ) → List (QByteArray × QByteArray)
  | _, 0 => []
  | index, remaining + 1 =>
      match keypairs index with
      | none => []
      | some (prekeyPub, prekeyPriv) =>
          (prekeyPub.toList, prekeyPriv.toList) ::
            drawnPairs keypairs (index + 1) remaining

/-- The pairs a call draws on an unlocked vault, public half first. -/
def PrekeyEvent.pairs : PrekeyEvent → List (QByteArray × QByteArray)
  | publish count outcome => drawnPairs outcome.keypairs 0 count.toNat
  | _ => []

/-- If the call changes the queue, its save works. -/
def SaveWorks
    (json : QJsonArrayDocument) (state : VaultService × Files) :
    PrekeyEvent → Prop
  | .publish count outcome =>
      drawnPairs outcome.keypairs 0 count.toNat ≠ [] →
        outcome.save.works = true
  | .consume save =>
      storedQueue json state.1.loadSecret ≠ [] → save.works = true
  | .reopen _ _ _ => True

/-- Every save of the call works. -/
def PrekeyEvent.SavesWork : PrekeyEvent → Prop
  | publish _ outcome => outcome.save.works = true
  | consume save => save.works = true
  | reopen _ _ _ => True

/-- The private keys in the queue, first the one to be consumed next. -/
def queuedKeys
    (json : QJsonArrayDocument) (view : SecretView) : List QByteArray :=
  (storedQueue json view).map (entryPrivate json)

/-! ## One call -/

section Calls

variable {json : QJsonArrayDocument} {sodium : Sodium}
  {vaultPath password : QString} {state : VaultService × Files}

/-- A reopenable vault with the queue on disk that it has in memory. -/
structure Kept
    (json : QJsonArrayDocument) (sodium : Sodium)
    (vaultPath password : QString) (state : VaultService × Files) :
    Prop where
  reopenable :
    Reopenable json.toQJsonDocument sodium vaultPath password state
  saved :
    storedQueue json (diskView json.toQJsonDocument sodium state) =
      storedQueue json state.1.loadSecret

theorem publishLoop_eq
    (keypairs : ℕ → KxKeypair) (index remaining : ℕ)
    (queue created : List QByteArray) :
    publishLoop json keypairs index remaining queue created =
      (queue ++ (drawnPairs keypairs index remaining).map
          (fun pair => queueEntry json pair.1 pair.2),
        created ++ (drawnPairs keypairs index remaining).map Prod.fst) := by
  induction remaining generalizing index queue created with
  | zero => simp [publishLoop, drawnPairs]
  | succ remaining inductionHypothesis =>
      rw [publishLoop, drawnPairs]
      cases keypairs index with
      | none => simp
      | some keypair => simp [inductionHypothesis]

/-- Storing the queue puts it in memory, and on the disk if the save works. -/
theorem storeQueue_spec
    (roundTrips : json.toQJsonDocument.RoundTrips)
    (arraysRoundTrip : json.RoundTripsArrays)
    (correct : sodium.AeadCorrect)
    (reopenable :
      Reopenable json.toQJsonDocument sodium vaultPath password state)
    (queue : List QByteArray) (save : SaveOutcome) :
    let stored := storeQueue json sodium state queue save
    Reopenable json.toQJsonDocument sodium vaultPath password stored ∧
      storedQueue json stored.1.loadSecret = queue ∧
      storedQueue json (diskView json.toQJsonDocument sodium stored) =
        if save.works then queue
        else storedQueue json (diskView json.toQJsonDocument sodium state) := by
  intro stored
  obtain ⟨encoded, decoded⟩ :=
    decodeOneTimeQueue_encode arraysRoundTrip queue
  obtain ⟨_, reopenableStored, refined⟩ :=
    store_refines roundTrips correct reopenable
      (by decide : kOneTimeQueueName ≠ []) encoded save
  have memory : stored.1.loadSecret =
      Function.update state.1.loadSecret kOneTimeQueueName
        (some (encodeOneTimeQueue json queue)) :=
    congrArg WriteThrough.memory refined
  have disk : diskView json.toQJsonDocument sodium stored =
      if save.works then stored.1.loadSecret
      else diskView json.toQJsonDocument sodium state := by
    rw [memory]
    exact congrArg WriteThrough.disk refined
  have queued : storedQueue json stored.1.loadSecret = queue := by
    rw [storedQueue, memory, Function.update_self, Option.getD_some, decoded]
  refine ⟨reopenableStored, queued, ?_⟩
  rw [disk, apply_ite (storedQueue json), queued]

/-- Consuming returns the first key of the queue. -/
theorem consumeOneTimePrekey_eq_head
    (state : VaultService × Files) (save : SaveOutcome) :
    (consumeOneTimePrekey json sodium state save).1 =
      (queuedKeys json state.1.loadSecret)[0]? := by
  rw [consumeOneTimePrekey, queuedKeys]
  cases storedQueue json state.1.loadSecret with
  | nil => rfl
  | cons entry queue => rfl

/-- Publishing puts the drawn private keys at the end of the queue and returns
the public halves. -/
theorem publishOneTimePrekeys_spec
    (roundTrips : json.toQJsonDocument.RoundTrips)
    (arraysRoundTrip : json.RoundTripsArrays)
    (correct : sodium.AeadCorrect)
    (kept : Kept json sodium vaultPath password state)
    (count : ℤ) (outcome : PublishOutcome)
    (works : SaveWorks json state (.publish count outcome)) :
    let published := publishOneTimePrekeys json sodium state count outcome
    let pairs := drawnPairs outcome.keypairs 0 count.toNat
    Kept json sodium vaultPath password published.2 ∧
      published.1 = pairs.map Prod.fst ∧
      queuedKeys json published.2.1.loadSecret =
        queuedKeys json state.1.loadSecret ++ pairs.map Prod.snd := by
  intro published pairs
  have stepped : published =
      publishOneTimePrekeys json sodium state count outcome := rfl
  rw [publishOneTimePrekeys] at stepped
  by_cases positive : count ≤ 0
  · have none : pairs = [] := by
      simp only [pairs, Int.toNat_of_nonpos positive, drawnPairs]
    rw [if_pos (Or.inl positive)] at stepped
    rw [stepped, none]
    exact ⟨kept, rfl, by simp⟩
  · have entered : ¬ (count ≤ 0 ∨ state.1.m_unlocked = false ∨
        sodium.initialized = false) := by
      simp [positive, kept.reopenable.unlocked, kept.reopenable.sizes.1]
    rw [if_neg entered, publishLoop_eq] at stepped
    obtain ⟨reopenable, memory, disk⟩ :=
      storeQueue_spec roundTrips arraysRoundTrip correct kept.reopenable
        (storedQueue json state.1.loadSecret ++
          pairs.map fun pair => queueEntry json pair.1 pair.2) outcome.save
    rw [stepped]
    refine ⟨⟨reopenable, ?_⟩, rfl, ?_⟩
    · rw [memory, disk]
      split
      · rfl
      · rename_i fails
        -- A call that draws nothing stores the queue it has found.
        have nothing : pairs = [] :=
          by_contra fun drawn => fails (works drawn)
        rw [nothing, kept.saved]
        simp
    · have entries :
          (entryPrivate json ∘
              fun pair : QByteArray × QByteArray =>
                queueEntry json pair.1 pair.2) = Prod.snd :=
        funext fun pair => entryPrivate_queueEntry roundTrips _ _
      rw [queuedKeys, queuedKeys, memory, List.map_append, List.map_map,
        entries]

/-- Consuming takes the key it returns off the front of the queue. -/
theorem consumeOneTimePrekey_spec
    (roundTrips : json.toQJsonDocument.RoundTrips)
    (arraysRoundTrip : json.RoundTripsArrays)
    (correct : sodium.AeadCorrect)
    (kept : Kept json sodium vaultPath password state)
    (save : SaveOutcome)
    (works : SaveWorks json state (.consume save)) :
    let consumed := consumeOneTimePrekey json sodium state save
    Kept json sodium vaultPath password consumed.2 ∧
      consumed.1.toList ++ queuedKeys json consumed.2.1.loadSecret =
        queuedKeys json state.1.loadSecret := by
  intro consumed
  have stepped : consumed =
      consumeOneTimePrekey json sodium state save := rfl
  rw [consumeOneTimePrekey] at stepped
  cases queued : storedQueue json state.1.loadSecret with
  | nil =>
      rw [queued] at stepped
      rw [stepped]
      exact ⟨kept, rfl⟩
  | cons entry queue =>
      rw [queued] at stepped
      obtain ⟨reopenable, memory, disk⟩ :=
        storeQueue_spec roundTrips arraysRoundTrip correct kept.reopenable
          queue save
      rw [if_pos (works (by simp [queued]))] at disk
      rw [stepped]
      refine ⟨⟨reopenable, disk.trans memory.symm⟩, ?_⟩
      rw [queuedKeys, queuedKeys, queued, memory]
      rfl

/-- Opening the vault again leaves the queue as it is. -/
theorem Kept.of_reopen
    (kept : Kept json sodium vaultPath password state)
    (reopening : Reopening) (salt : QByteArray) (save : SaveOutcome) :
    let reopened :=
      reopen json.toQJsonDocument sodium password state reopening salt save
    Kept json sodium vaultPath password reopened.2 ∧
      queuedKeys json reopened.2.1.loadSecret =
        queuedKeys json state.1.loadSecret := by
  intro reopened
  obtain ⟨_, reopenable, restarted⟩ :=
    reopen_refines kept.reopenable reopening salt save
  have memory : reopened.2.1.loadSecret =
      diskView json.toQJsonDocument sodium state :=
    congrArg WriteThrough.memory restarted
  have disk : diskView json.toQJsonDocument sodium reopened.2 =
      diskView json.toQJsonDocument sodium state :=
    congrArg WriteThrough.disk restarted
  refine ⟨⟨reopenable, by rw [disk, memory]⟩, ?_⟩
  rw [queuedKeys, queuedKeys, memory, kept.saved]

/-- A step whose save works keeps the vault, returns the public halves of the
pairs it draws, and takes keys off the front and puts the drawn ones at the
end. -/
theorem prekeyStep_spec
    (roundTrips : json.toQJsonDocument.RoundTrips)
    (arraysRoundTrip : json.RoundTripsArrays)
    (correct : sodium.AeadCorrect)
    (kept : Kept json sodium vaultPath password state)
    (event : PrekeyEvent)
    (works : SaveWorks json state event) :
    let result := prekeyStep json sodium password state event
    Kept json sodium vaultPath password result.2 ∧
      result.1.publicKeys = event.pairs.map Prod.fst ∧
      result.1.privateKeys ++ queuedKeys json result.2.1.loadSecret =
        queuedKeys json state.1.loadSecret ++ event.pairs.map Prod.snd := by
  intro result
  cases event with
  | publish count outcome =>
      exact publishOneTimePrekeys_spec roundTrips arraysRoundTrip correct kept
        count outcome works
  | consume save =>
      obtain ⟨keptNext, taken⟩ :=
        consumeOneTimePrekey_spec roundTrips arraysRoundTrip correct kept
          save works
      exact ⟨keptNext, rfl, taken.trans (List.append_nil _).symm⟩
  | reopen reopening salt save =>
      obtain ⟨keptNext, same⟩ := kept.of_reopen reopening salt save
      exact ⟨keptNext, rfl, same.trans (List.append_nil _).symm⟩

end Calls

/-! ## Runs -/

section Runs

variable {json : QJsonArrayDocument} {sodium : Sodium}
  {vaultPath password : QString}

/-- Along a run whose saves work, keys are consumed in the order in which they
are put into the queue. -/
theorem prekeyRun_spec
    (roundTrips : json.toQJsonDocument.RoundTrips)
    (arraysRoundTrip : json.RoundTripsArrays)
    (correct : sodium.AeadCorrect)
    {state : VaultService × Files}
    (kept : Kept json sodium vaultPath password state)
    {events : List PrekeyEvent}
    (works : Machine.EachStep (SaveWorks json)
      (prekeyStep json sodium password) state events) :
    let reports := Machine.trace (prekeyStep json sodium password) state events
    let final := Machine.run (prekeyStep json sodium password) state events
    let pairs := events.flatMap PrekeyEvent.pairs
    Kept json sodium vaultPath password final ∧
      reports.flatMap PrekeyReport.publicKeys = pairs.map Prod.fst ∧
      reports.flatMap PrekeyReport.privateKeys ++
          queuedKeys json final.1.loadSecret =
        queuedKeys json state.1.loadSecret ++ pairs.map Prod.snd := by
  intro reports final pairs
  obtain ⟨keptFinal, conserved⟩ :=
    Machine.run_conserves
      (fun state : VaultService × Files => queuedKeys json state.1.loadSecret)
      (fun event : PrekeyEvent => event.pairs.map Prod.snd)
      PrekeyReport.privateKeys
      (Kept json sodium vaultPath password) (SaveWorks json)
      (fun state event kept works =>
        have spec := prekeyStep_spec roundTrips arraysRoundTrip correct kept
          event works
        ⟨spec.1, spec.2.2⟩)
      kept works
  obtain ⟨_, published⟩ :=
    Machine.run_conserves
      (fun _ => []) (fun event : PrekeyEvent => event.pairs.map Prod.fst)
      PrekeyReport.publicKeys
      (Kept json sodium vaultPath password) (SaveWorks json)
      (fun state event kept works =>
        have spec := prekeyStep_spec roundTrips arraysRoundTrip correct kept
          event works
        ⟨spec.1, by rw [spec.2.1, List.append_nil, List.nil_append]⟩)
      kept works
  rw [List.append_nil, List.nil_append, ← List.map_flatMap] at published
  rw [← List.map_flatMap] at conserved
  exact ⟨keptFinal, published, conserved⟩

theorem Kept.of_unlock
    {files : Files} {opened : UnlockOutcome}
    (roundTrips : json.toQJsonDocument.RoundTrips)
    (correct : sodium.AeadCorrect)
    (unlocked :
      (unlockWithPassword json.toQJsonDocument sodium (onPath vaultPath) files
        password opened).1 = true) :
    Kept json sodium vaultPath password
      (unlockWithPassword json.toQJsonDocument sodium (onPath vaultPath) files
        password opened).2 := by
  obtain ⟨reopenable, saved⟩ :=
    unlockWithPassword_reopenable roundTrips correct unlocked
  exact ⟨reopenable, congrArg (storedQueue json) saved⟩

/-- In every run in which the saves that change the queue work, a private key
is consumed at most as often as it was drawn or found at the start, and every
published key has its private half consumed or in the queue, in memory and on
the disk. -/
theorem one_time_prekeys_kept
    (json : QJsonArrayDocument)
    (sodium : Sodium)
    (vaultPath password : QString)
    (files : Files)
    (opened : UnlockOutcome)
    (events : List PrekeyEvent)
    (roundTrips : json.toQJsonDocument.RoundTrips)
    (arraysRoundTrip : json.RoundTripsArrays)
    (correct : sodium.AeadCorrect)
    (unlocked :
      (unlockWithPassword json.toQJsonDocument sodium (onPath vaultPath) files
        password opened).1 = true) :
    let step := prekeyStep json sodium password
    let start := (unlockWithPassword json.toQJsonDocument sodium
      (onPath vaultPath) files password opened).2
    let reports := Machine.trace step start events
    let final := Machine.run step start events
    let pairs := events.flatMap PrekeyEvent.pairs
    let consumed := reports.flatMap PrekeyReport.privateKeys
    Machine.EachStep (SaveWorks json) step start events →
      reports.flatMap PrekeyReport.publicKeys = pairs.map Prod.fst ∧
      (∀ key, consumed.count key ≤
        (queuedKeys json start.1.loadSecret ++
          pairs.map Prod.snd).count key) ∧
      ∀ pair ∈ pairs,
        pair.2 ∈ consumed ∨
          (pair.2 ∈ queuedKeys json final.1.loadSecret ∧
            pair.2 ∈ queuedKeys json
              (diskView json.toQJsonDocument sodium final)) := by
  intro step start reports final pairs consumed works
  obtain ⟨keptFinal, published, conserved⟩ :=
    prekeyRun_spec roundTrips arraysRoundTrip correct
      (Kept.of_unlock roundTrips correct unlocked) works
  refine ⟨published, fun key => ?_, fun pair within => ?_⟩
  · rw [← conserved]
    exact (List.sublist_append_left _ _).count_le key
  · have somewhere : pair.2 ∈ consumed ++
        queuedKeys json final.1.loadSecret := by
      rw [conserved]
      exact List.mem_append_right _ (List.mem_map_of_mem within)
    refine (List.mem_append.mp somewhere).imp_right fun queued => ?_
    refine ⟨queued, ?_⟩
    rw [queuedKeys, keptFinal.saved]
    exact queued

/-- From an empty queue, with saves that work, the queue is first in, first
out: the keys consumed so far are those of the first pairs drawn, the next one
is that of the next pair, and there is none exactly when all are consumed. -/
theorem one_time_prekeys_fifo
    (json : QJsonArrayDocument)
    (sodium : Sodium)
    (vaultPath password : QString)
    (files : Files)
    (opened : UnlockOutcome)
    (events : List PrekeyEvent)
    (save : SaveOutcome)
    (roundTrips : json.toQJsonDocument.RoundTrips)
    (arraysRoundTrip : json.RoundTripsArrays)
    (correct : sodium.AeadCorrect)
    (unlocked :
      (unlockWithPassword json.toQJsonDocument sodium (onPath vaultPath) files
        password opened).1 = true) :
    let step := prekeyStep json sodium password
    let start := (unlockWithPassword json.toQJsonDocument sodium
      (onPath vaultPath) files password opened).2
    let reports := Machine.trace step start events
    let final := Machine.run step start events
    let pairs := events.flatMap PrekeyEvent.pairs
    let consumed := reports.flatMap PrekeyReport.privateKeys
    let next := (consumeOneTimePrekey json sodium final save).1
    storedQueue json start.1.loadSecret = [] →
      (∀ event ∈ events, event.SavesWork) →
        reports.flatMap PrekeyReport.publicKeys = pairs.map Prod.fst ∧
        consumed = (pairs.take consumed.length).map Prod.snd ∧
        next = (pairs[consumed.length]?).map Prod.snd ∧
        (next = none ↔ consumed.length = pairs.length) := by
  intro step start reports final pairs consumed next empty working
  have works : Machine.EachStep (SaveWorks json) step start events := by
    apply Machine.eachStep_of_forall
    intro event within state
    have works := working event within
    cases event with
    | publish count outcome => exact fun _ => works
    | consume save => exact fun _ => works
    | reopen reopening salt save => trivial
  obtain ⟨_, published, conserved⟩ :=
    prekeyRun_spec roundTrips arraysRoundTrip correct
      (Kept.of_unlock roundTrips correct unlocked) works
  have emptyKeys : queuedKeys json start.1.loadSecret = [] := by
    rw [queuedKeys, empty, List.map_nil]
  have all : consumed ++ queuedKeys json final.1.loadSecret =
      pairs.map Prod.snd := by
    rw [← List.nil_append (pairs.map Prod.snd), ← emptyKeys]
    exact conserved
  have nextKey : next = (pairs[consumed.length]?).map Prod.snd := by
    rw [← List.getElem?_map, ← all, List.getElem?_append_right le_rfl,
      Nat.sub_self, ← consumeOneTimePrekey_eq_head]
  refine ⟨published, ?_, nextKey, ?_⟩
  · rw [List.map_take, ← all, List.take_left]
  · have bounded : consumed.length ≤ pairs.length := by
      have lengths := congrArg List.length all
      rw [List.length_append, List.length_map] at lengths
      omega
    rw [nextKey, Option.map_eq_none_iff, List.getElem?_eq_none_iff]
    omega

end Runs

/-! ## Saves that work and saves that fail -/

section Examples

/-- A pair of its own for every draw. -/
def drawing (octet : UInt8) (save : SaveOutcome) : PublishOutcome where
  keypairs := fun index =>
    some (List.Vector.replicate _ (octet + 2 * index.toUInt8),
      List.Vector.replicate _ (octet + 2 * index.toUInt8 + 1))
  save := save

/-- A step of the reference vault. -/
def referenceStep (state : VaultService × Files) (event : PrekeyEvent) :
    PrekeyReport × VaultService × Files :=
  prekeyStep ReferenceJson.arrays ReferenceSodium.sodium
    ReferenceVault.password state event

/-- A published pair, one of them consumed across a restart. -/
def referenceEvents : List PrekeyEvent :=
  [.publish 2 (drawing 1 ReferenceVault.save),
    .reopen .restart [] ReferenceVault.save,
    .consume ReferenceVault.save]

def referenceReports : List PrekeyReport :=
  Machine.trace referenceStep ReferenceVault.start referenceEvents

def referenceFinal : VaultService × Files :=
  Machine.run referenceStep ReferenceVault.start referenceEvents

/-- Two pairs are published, and after a restart one is consumed. -/
theorem one_time_prekeys_kept_after_restart :
    (∀ key, (referenceReports.flatMap PrekeyReport.privateKeys).count key ≤
      (queuedKeys ReferenceJson.arrays ReferenceVault.start.1.loadSecret ++
        (referenceEvents.flatMap PrekeyEvent.pairs).map
          Prod.snd).count key) ∧
    List.replicate 32 4 ∈ queuedKeys ReferenceJson.arrays
      (diskView ReferenceJson.json ReferenceSodium.sodium referenceFinal) := by
  have works : Machine.EachStep (SaveWorks ReferenceJson.arrays) referenceStep
      ReferenceVault.start referenceEvents :=
    ⟨fun _ => rfl, trivial, fun _ => rfl, trivial⟩
  obtain ⟨_, counts, kept⟩ :=
    one_time_prekeys_kept ReferenceJson.arrays ReferenceSodium.sodium
      ReferenceVault.vaultPath ReferenceVault.password (fun _ => none)
      ReferenceVault.outcome referenceEvents ReferenceJson.json_roundTrips
      ReferenceJson.arrays_roundTrips ReferenceSodium.sodium_aeadCorrect
      ReferenceVault.unlocking_returns works
  refine ⟨counts, ?_⟩
  have drawn : (List.replicate 32 3, List.replicate 32 4) ∈
      referenceEvents.flatMap PrekeyEvent.pairs := by decide +kernel
  have notConsumed : List.replicate 32 4 ∉
      referenceReports.flatMap PrekeyReport.privateKeys := by decide +kernel
  exact ((kept _ drawn).resolve_left notConsumed).2

/-- A consumed key whose removal was not saved is consumed again after a
restart, and a key whose publication was not saved is lost. -/
theorem one_time_prekey_consumed_twice :
    (let published := referenceStep ReferenceVault.start
        (.publish 1 (drawing 1 ReferenceVault.save))
      let first := referenceStep published.2
        (.consume ReferenceVault.failedSave)
      let restarted := referenceStep first.2
        (.reopen .restart [] ReferenceVault.save)
      let second := referenceStep restarted.2 (.consume ReferenceVault.save)
      first.1.privateKeys = [List.replicate 32 2] ∧
        second.1.privateKeys = [List.replicate 32 2]) ∧
    (let published := referenceStep ReferenceVault.start
        (.publish 1 (drawing 1 ReferenceVault.failedSave))
      let restarted := referenceStep published.2
        (.reopen .restart [] ReferenceVault.save)
      published.1.publicKeys = [List.replicate 32 1] ∧
        queuedKeys ReferenceJson.arrays restarted.2.1.loadSecret = []) := by
  decide +kernel

/-- One key of the two pairs is consumed; the next one is that of the second
pair. -/
theorem one_time_prekeys_fifo_after_restart :
    (referenceReports.flatMap PrekeyReport.privateKeys).length = 1 ∧
      (consumeOneTimePrekey ReferenceJson.arrays ReferenceSodium.sodium
          referenceFinal ReferenceVault.save).1 =
        ((referenceEvents.flatMap PrekeyEvent.pairs)[
          (referenceReports.flatMap
            PrekeyReport.privateKeys).length]?).map Prod.snd := by
  have saved : ∀ event ∈ referenceEvents, event.SavesWork := by
    simp only [referenceEvents, List.mem_cons, List.not_mem_nil, or_false,
      forall_eq_or_imp, forall_eq]
    exact ⟨rfl, trivial, rfl⟩
  have empty : storedQueue ReferenceJson.arrays
      ReferenceVault.start.1.loadSecret = [] := by decide +kernel
  exact ⟨by decide +kernel,
    (one_time_prekeys_fifo ReferenceJson.arrays ReferenceSodium.sodium
      ReferenceVault.vaultPath ReferenceVault.password (fun _ => none)
      ReferenceVault.outcome referenceEvents ReferenceVault.save
      ReferenceJson.json_roundTrips ReferenceJson.arrays_roundTrips
      ReferenceSodium.sodium_aeadCorrect ReferenceVault.unlocking_returns
      empty saved).2.2.1⟩

end Examples

end PrekeyManager
end Crypto
end VoxDesktop
