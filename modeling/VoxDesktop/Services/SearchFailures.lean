import VoxDesktop.Services.SearchService

/-!
# Calls of `indexMessage` that fail

The rows of a message are inserted one by one and in no transaction.  A call
that fails after its first insert leaves the rows it has inserted so far, and
a retry inserts them again.
-/

namespace VoxDesktop
namespace Services

open Library Qt Crypto Storage CryptoHelpers

namespace SearchService

/-! ## Where the loop stops -/

/-- The inserts that execute from a position on before the first that does
not. -/
def insertedCount (executed : ℕ → Bool) :
    (position remaining : ℕ) → ℕ
  | _, 0 => 0
  | position, remaining + 1 =>
      if executed position then
        insertedCount executed (position + 1) remaining + 1
      else 0

section Stops

variable {executed : ℕ → Bool} {position remaining : ℕ}

theorem insertedCount_pos
    (nonempty : 0 < remaining) (first : executed position = true) :
    0 < insertedCount executed position remaining := by
  cases remaining with
  | zero => contradiction
  | succ remaining =>
      rw [insertedCount, if_pos first]
      exact Nat.succ_pos _

theorem insertedCount_of_fails (fails : executed position = false) :
    insertedCount executed position remaining = 0 := by
  cases remaining with
  | zero => rfl
  | succ remaining =>
      rw [insertedCount, fails]
      exact if_neg Bool.false_ne_true

/-- No insert is left out exactly when all of them execute. -/
theorem insertedCount_eq_iff :
    insertedCount executed position remaining = remaining ↔
      ∀ offset < remaining, executed (position + offset) = true := by
  induction remaining generalizing position with
  | zero => simp [insertedCount]
  | succ remaining inductionHypothesis =>
      cases first : executed position with
      | false =>
          rw [insertedCount_of_fails first]
          constructor
          · intro impossible
            omega
          · intro every
            have here := every 0 (Nat.succ_pos _)
            rw [Nat.add_zero, first] at here
            contradiction
      | true =>
          rw [insertedCount, if_pos first, Nat.add_right_cancel_iff,
            inductionHypothesis, Nat.forall_lt_succ_left]
          simp only [Nat.add_zero, first, true_and, Nat.add_assoc,
            Nat.add_comm 1]

end Stops

section Loop

variable {sodium : Sodium} {searchIndexKey : QByteArray}
  {conversationId messageId : QString} {executed : ℕ → Bool}

theorem tokenDigest_eq_nil_iff (token : QString) :
    tokenDigest sodium searchIndexKey token = [] ↔
      sodium.initialized = false ∨ searchIndexKey = [] := by
  rw [tokenDigest, hmacSha256]
  split
  next absent => simp only [absent]
  next present =>
    simp only [present, iff_false]
    apply List.ne_nil_of_length_pos
    rw [List.Vector.toList_length]
    decide

theorem length_tokenRows {position : ℕ} {tokens : List QString} :
    (tokenRows sodium searchIndexKey conversationId messageId position
      tokens).length = tokens.length := by
  induction tokens generalizing position with
  | nil => rfl
  | cons token tokens inductionHypothesis =>
      rw [tokenRows, List.length_cons, inductionHypothesis, List.length_cons]

/-- Without a digest nothing is inserted. -/
theorem insertTokens_of_no_digest
    {position : ℕ} {tokens : List QString} {table : List SearchToken}
    (absent : sodium.initialized = false ∨ searchIndexKey = []) :
    (insertTokens sodium searchIndexKey conversationId messageId executed
      position tokens table).2 = table := by
  cases tokens with
  | nil => rfl
  | cons token tokens =>
      rw [insertTokens, if_pos ((tokenDigest_eq_nil_iff token).mpr absent)]

/-- With digests the loop inserts the rows of the tokens before the first
insert that fails. -/
theorem insertTokens_eq
    {position : ℕ} {tokens : List QString} {table : List SearchToken}
    (present : ¬(sodium.initialized = false ∨ searchIndexKey = [])) :
    let inserted := insertedCount executed position tokens.length
    insertTokens sodium searchIndexKey conversationId messageId executed
        position tokens table =
      (decide (inserted = tokens.length),
        table ++
          tokenRows sodium searchIndexKey conversationId messageId position
            (tokens.take inserted)) := by
  induction tokens generalizing position table with
  | nil => simp [insertTokens, insertedCount, tokenRows]
  | cons token tokens inductionHypothesis =>
      have digested : tokenDigest sodium searchIndexKey token ≠ [] :=
        fun empty => present ((tokenDigest_eq_nil_iff token).mp empty)
      rw [insertTokens]
      dsimp only
      rw [if_neg digested]
      cases first : executed position with
      | false =>
          rw [insertedCount_of_fails first]
          simp [SearchRepository.insertToken, tokenRows]
      | true =>
          rw [List.length_cons, insertedCount, if_pos first]
          simp [SearchRepository.insertToken, inductionHypothesis, tokenRows]

end Loop

/-! ## What a failed call leaves -/

section Failed

variable (sodium : Sodium) (toLower : QString → QString)
  (service : SearchService) (call : IndexCall)

/-- A call leaves nothing behind: the index is as it was, no query finds a
message that was not indexed before, and a retry after any further calls
gives what it gives without this call. -/
structure LeavesNothing : Prop where
  index : (indexMessage sodium toLower service call).2 = service
  found : ∀ query executed,
    call.messageId ∉ service.m_repository.map SearchToken.messageId →
      call.messageId ∉
        findMessageIds sodium toLower
          (indexMessage sodium toLower service call).2 query executed
  retried : ∀ between executed,
    let retry := between ++ [{ call with executed := executed }]
    Machine.run (indexMessage sodium toLower)
        (indexMessage sodium toLower service call).2 retry =
      Machine.run (indexMessage sodium toLower) service retry

variable {sodium toLower service call}

theorem mem_of_mem_findMessageIds
    {query messageId : QString} {executed : Bool}
    (found : messageId ∈
      findMessageIds sodium toLower service query executed) :
    messageId ∈ service.m_repository.map SearchToken.messageId := by
  rw [findMessageIds] at found
  split at found
  · contradiction
  · rw [SearchRepository.findMessagesByToken] at found
    split at found
    · exact (List.filter_sublist.map SearchToken.messageId).mem found
    · contradiction

theorem leavesNothing_of_index
    (unchanged : (indexMessage sodium toLower service call).2 = service) :
    LeavesNothing sodium toLower service call where
  index := unchanged
  found query executed absent found := by
    rw [unchanged] at found
    exact absent (mem_of_mem_findMessageIds found)
  retried between executed := by rw [unchanged]

theorem indexMessage_of_no_digest
    (absent :
      sodium.initialized = false ∨ service.m_searchIndexKey = []) :
    (indexMessage sodium toLower service call).2 = service := by
  rw [indexMessage]
  dsimp only
  rw [insertTokens_of_no_digest absent]

theorem indexMessage_eq
    (present :
      ¬(sodium.initialized = false ∨ service.m_searchIndexKey = [])) :
    let tokens := tokenize toLower call.plaintext
    let inserted := insertedCount call.executed 0 tokens.length
    indexMessage sodium toLower service call =
      (decide (inserted = tokens.length),
        { service with
          m_repository :=
            service.m_repository ++
              tokenRows sodium service.m_searchIndexKey call.conversationId
                call.messageId 0 (tokens.take inserted) }) := by
  rw [indexMessage, insertTokens_eq present]

/-- The table grows by the inserts that executed. -/
theorem length_indexMessage
    (toLower : QString → QString)
    (call : IndexCall)
    (present :
      ¬(sodium.initialized = false ∨ service.m_searchIndexKey = [])) :
    (indexMessage sodium toLower service call).2.m_repository.length =
      service.m_repository.length +
        min (insertedCount call.executed 0
          (tokenize toLower call.plaintext).length)
          (tokenize toLower call.plaintext).length := by
  rw [indexMessage_eq present, List.length_append, length_tokenRows,
    List.length_take]

/-- A call that executes its first insert but not all of them fails and leaves
rows. -/
theorem indexMessage_of_incomplete
    (present : ¬(sodium.initialized = false ∨ service.m_searchIndexKey = []))
    (first : call.executed 0 = true)
    (incomplete :
      ¬∀ position < (tokenize toLower call.plaintext).length,
        call.executed position = true) :
    (indexMessage sodium toLower service call).1 = false ∧
      service.m_repository.length <
        (indexMessage sodium toLower service call).2.m_repository.length := by
  have short : insertedCount call.executed 0
      (tokenize toLower call.plaintext).length ≠
        (tokenize toLower call.plaintext).length := by
    apply insertedCount_eq_iff.not.mpr
    simpa only [Nat.zero_add] using incomplete
  have nonempty : 0 < (tokenize toLower call.plaintext).length := by
    apply Nat.pos_of_ne_zero
    intro empty
    exact incomplete (by simp [empty])
  have inserted := insertedCount_pos nonempty first
  constructor
  · rw [indexMessage_eq present]
    exact decide_eq_false short
  · rw [length_indexMessage toLower call present]
    omega

/-- A failed call inserts nothing where the first insert executes only with
all the others. -/
theorem indexMessage_of_failed
    (present : ¬(sodium.initialized = false ∨ service.m_searchIndexKey = []))
    (complete : call.executed 0 = true →
      ∀ position < (tokenize toLower call.plaintext).length,
        call.executed position = true)
    (failed : (indexMessage sodium toLower service call).1 = false) :
    (indexMessage sodium toLower service call).2 = service := by
  rw [indexMessage_eq present] at failed ⊢
  cases first : call.executed 0 with
  | false =>
      rw [insertedCount_of_fails first, List.take_zero, tokenRows,
        List.append_nil]
  | true =>
      have every : insertedCount call.executed 0
          (tokenize toLower call.plaintext).length =
            (tokenize toLower call.plaintext).length := by
        apply insertedCount_eq_iff.mpr
        simpa only [Nat.zero_add] using complete first
      exact absurd every (of_decide_eq_false failed)

end Failed

/-- A failed call leaves nothing behind exactly when the digests are what
fails, or the first insert does not execute, or all of them do. -/
theorem leavesNothing_iff
    (sodium : Sodium)
    (toLower : QString → QString)
    (service : SearchService)
    (call : IndexCall) :
    ((indexMessage sodium toLower service call).1 = false →
        LeavesNothing sodium toLower service call) ↔
      (sodium.initialized = false ∨ service.m_searchIndexKey = []) ∨
        (call.executed 0 = true →
          ∀ position < (tokenize toLower call.plaintext).length,
            call.executed position = true) := by
  by_cases absent :
      sodium.initialized = false ∨ service.m_searchIndexKey = []
  · have unchanged : (indexMessage sodium toLower service call).2 = service :=
      indexMessage_of_no_digest absent
    simp only [absent, true_or, iff_true]
    exact fun _ => leavesNothing_of_index unchanged
  simp only [absent, false_or]
  constructor
  · intro clean first
    by_contra incomplete
    obtain ⟨failed, grown⟩ := indexMessage_of_incomplete absent first incomplete
    rw [(clean failed).index] at grown
    exact Nat.lt_irrefl _ grown
  · intro complete failed
    apply leavesNothing_of_index
    exact indexMessage_of_failed absent complete failed

/-! ## A message indexed in part -/

section Examples

/-- A call for three tokens whose second insert fails, and the same call with
every insert executed: the failed call leaves its message to be found, and a
retry finds it twice. -/
theorem indexMessage_fails_after_first :
    let index := indexMessage ReferenceSodium.sodium asciiLower
    let find := findMessageIds ReferenceSodium.sodium asciiLower
    let call :=
      { indexing "Hello Vox Search" with
        executed := fun position => decide (position ≠ 1) }
    let failed := index ⟨[], exampleKey⟩ call
    let retried := index failed.2 { call with executed := fun _ => true }
    let once :=
      index ⟨[], exampleKey⟩ { call with executed := fun _ => true }
    failed.1 = false ∧
      failed.2.m_repository.length = 1 ∧
      find failed.2 (QString.literal "hello") true =
        [QString.literal "msg_1"] ∧
      retried.1 = true ∧ once.1 = true ∧
      find retried.2 (QString.literal "hello") true =
        [QString.literal "msg_1", QString.literal "msg_1"] ∧
      find once.2 (QString.literal "hello") true =
        [QString.literal "msg_1"] ∧
      ¬LeavesNothing ReferenceSodium.sodium asciiLower ⟨[], exampleKey⟩
        call := by
  intro index find call failed retried once
  have grown : failed.2.m_repository.length = 1 := by decide +kernel
  refine ⟨by decide +kernel, grown, by decide +kernel, by decide +kernel,
    by decide +kernel, by decide +kernel, by decide +kernel, fun clean => ?_⟩
  have unchanged : failed.2 = ⟨[], exampleKey⟩ := clean.index
  rw [unchanged] at grown
  contradiction

end Examples

end SearchService
end Services
end VoxDesktop
