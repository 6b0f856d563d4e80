import Mathlib.Data.Set.Function
import VoxDesktop.Crypto.ReferenceSodium
import VoxDesktop.Library.Machine
import VoxDesktop.Storage.SearchRepository

/-!
# Searching the index of messages

`services/SearchService` over the table of search tokens: a message is indexed
under the digests of its tokens, one row for each occurrence, and a query is
answered with the rows of its first token.
-/

namespace VoxDesktop
namespace Services

open Library Qt Crypto Storage CryptoHelpers

/-! ## Tokens -/

/-- What `\s` matches in a `QRegularExpression` without options. -/
def isRegularSpace (unit : UInt16) : Bool :=
  unit = 0x20 || (0x09 ≤ unit && unit ≤ 0x0D)

/-- Whether every surrogate is one of a pair. -/
def isValidUtf16 : QString → Bool
  | [] => true
  | unit :: rest =>
      if isHighSurrogate unit then
        match rest with
        | [] => false
        | second :: rest => isLowSurrogate second && isValidUtf16 rest
      else !isLowSurrogate unit && isValidUtf16 rest

/-- `split(QRegularExpression("\\s+"), Qt::SkipEmptyParts)`.  The expression
matches nowhere in a text that is not valid UTF-16, which stays one part. -/
def splitSpaces (text : QString) : List QString :=
  (if isValidUtf16 text then text.splitOnP isRegularSpace
    else [text]).filter (· ≠ [])

/-- `tokenize`, where `toLower` is `QString::toLower`. -/
def tokenize (toLower : QString → QString) (text : QString) : List QString :=
  splitSpaces (toLower (trimmed text))

/-! ## The service -/

structure SearchService where
  m_repository : List SearchToken
  m_searchIndexKey : QByteArray

/-- One call of `indexMessage`; `executed` says which of its statements
execute. -/
structure IndexCall where
  conversationId : QString
  messageId : QString
  plaintext : QString
  executed : ℕ → Bool

namespace SearchService

section Operations

variable (sodium : Sodium) (toLower : QString → QString)
  (service : SearchService)

/-- The digest of a token. -/
def tokenDigest (searchIndexKey : QByteArray) (token : QString) :
    QByteArray :=
  hmacSha256 sodium searchIndexKey (toUtf8 token)

/-- The loop of `indexMessage` over its tokens. -/
def insertTokens
    (searchIndexKey : QByteArray) (conversationId messageId : QString)
    (executed : ℕ → Bool) :
    (position : ℕ) → List QString → List SearchToken →
      Bool × List SearchToken
  | _, [], table => (true, table)
  | position, token :: tokens, table =>
      let digest := tokenDigest sodium searchIndexKey token
      if digest = [] then (false, table)
      else
        let inserted :=
          SearchRepository.insertToken table conversationId messageId digest
            position (executed position)
        if inserted.1 = false then (false, inserted.2)
        else
          insertTokens searchIndexKey conversationId messageId executed
            (position + 1) tokens inserted.2

def indexMessage (call : IndexCall) : Bool × SearchService :=
  let indexed :=
    insertTokens sodium service.m_searchIndexKey call.conversationId
      call.messageId call.executed 0 (tokenize toLower call.plaintext)
      service.m_repository
  (indexed.1, { service with m_repository := indexed.2 })

/-- `findMessageIds`; `executed` says whether its statement executes. -/
def findMessageIds (query : QString) (executed : Bool) : List QString :=
  match tokenize toLower query with
  | [] => []
  | first :: _ =>
      SearchRepository.findMessagesByToken service.m_repository
        (tokenDigest sodium service.m_searchIndexKey first) executed

end Operations

/-! ## What a run of calls leaves -/

/-- The rows of the tokens of a message. -/
def tokenRows
    (sodium : Sodium) (searchIndexKey : QByteArray)
    (conversationId messageId : QString) :
    (position : ℕ) → List QString → List SearchToken
  | _, [] => []
  | position, token :: tokens =>
      ⟨conversationId, messageId, tokenDigest sodium searchIndexKey token,
          position⟩ ::
        tokenRows sodium searchIndexKey conversationId messageId
          (position + 1) tokens

/-- The tokens that some calls have indexed for a message. -/
def indexedTokens
    (toLower : QString → QString) (calls : List IndexCall)
    (messageId : QString) : List QString :=
  (calls.filter fun call => call.messageId = messageId).flatMap fun call =>
    tokenize toLower call.plaintext

section Runs

variable {sodium : Sodium} {toLower : QString → QString}
  {searchIndexKey : QByteArray}

theorem insertTokens_table
    {conversationId messageId : QString} {executed : ℕ → Bool}
    {position : ℕ} {tokens : List QString} {table : List SearchToken}
    (succeeded :
      (insertTokens sodium searchIndexKey conversationId messageId executed
        position tokens table).1 = true) :
    (insertTokens sodium searchIndexKey conversationId messageId executed
        position tokens table).2 =
      table ++
        tokenRows sodium searchIndexKey conversationId messageId position
          tokens := by
  induction tokens generalizing position table with
  | nil => rw [insertTokens, tokenRows, List.append_nil]
  | cons token tokens inductionHypothesis =>
      rw [insertTokens] at succeeded ⊢
      dsimp only at succeeded ⊢
      split at succeeded
      · contradiction
      next digested =>
        rw [if_neg digested]
        cases inserts : executed position with
        | false =>
            rw [inserts] at succeeded
            contradiction
        | true =>
            rw [inserts] at succeeded
            rw [tokenRows, List.append_cons]
            exact inductionHypothesis succeeded

/-- Successful calls add the rows of their tokens, call after call. -/
theorem run_indexMessage
    (service : SearchService) {calls : List IndexCall}
    (succeeded : ∀ returned ∈
      Machine.trace (indexMessage sodium toLower) service calls,
        returned = true) :
    Machine.run (indexMessage sodium toLower) service calls =
      { service with
        m_repository :=
          service.m_repository ++ calls.flatMap fun call =>
            tokenRows sodium service.m_searchIndexKey call.conversationId
              call.messageId 0 (tokenize toLower call.plaintext) } := by
  induction calls generalizing service with
  | nil => rw [Machine.run_nil, List.flatMap_nil, List.append_nil]
  | cons call calls inductionHypothesis =>
      rw [Machine.trace_cons] at succeeded
      have here := succeeded _ List.mem_cons_self
      have rest := inductionHypothesis _ fun returned within =>
        succeeded returned (List.mem_cons_of_mem _ within)
      rw [Machine.run_cons, rest, List.flatMap_cons, ← List.append_assoc,
        ← insertTokens_table here]
      rfl

/-- A token without collisions finds the message once for each occurrence. -/
theorem find_tokenRows
    {conversationId messageId first : QString} {position : ℕ}
    {tokens : List QString}
    (distinguished : ∀ token ∈ tokens,
      tokenDigest sodium searchIndexKey token =
          tokenDigest sodium searchIndexKey first →
        token = first) :
    SearchRepository.findMessagesByToken
        (tokenRows sodium searchIndexKey conversationId messageId position
          tokens)
        (tokenDigest sodium searchIndexKey first) true =
      List.replicate (tokens.count first) messageId := by
  rw [SearchRepository.findMessagesByToken, if_pos rfl]
  induction tokens generalizing position with
  | nil => rfl
  | cons token tokens inductionHypothesis =>
      have rest :=
        @inductionHypothesis (position + 1) fun later within =>
          distinguished later (List.mem_cons_of_mem _ within)
      rw [tokenRows]
      by_cases same : token = first
      · rw [List.filter_cons_of_pos (by simp [same]), List.map_cons, rest,
          same, List.count_cons_self, List.replicate_succ]
      · have differs :
            tokenDigest sodium searchIndexKey token ≠
              tokenDigest sodium searchIndexKey first := fun collides =>
          same (distinguished token List.mem_cons_self collides)
        rw [List.filter_cons_of_neg (by simp [differs]), rest,
          List.count_cons_of_ne same]

theorem findMessagesByToken_append
    (first second : List SearchToken) (digest : QByteArray) :
    SearchRepository.findMessagesByToken (first ++ second) digest true =
      SearchRepository.findMessagesByToken first digest true ++
        SearchRepository.findMessagesByToken second digest true := by
  simp only [SearchRepository.findMessagesByToken, if_true,
    List.filter_append, List.map_append]

/-- A message is found once for each occurrence of the token among those that
the calls have indexed for it. -/
theorem count_find
    {calls : List IndexCall} {first : QString}
    (distinguished : ∀ call ∈ calls, ∀ token ∈ tokenize toLower call.plaintext,
      tokenDigest sodium searchIndexKey token =
          tokenDigest sodium searchIndexKey first →
        token = first)
    (messageId : QString) :
    (SearchRepository.findMessagesByToken
        (calls.flatMap fun call =>
          tokenRows sodium searchIndexKey call.conversationId call.messageId 0
            (tokenize toLower call.plaintext))
        (tokenDigest sodium searchIndexKey first) true).count messageId =
      (indexedTokens toLower calls messageId).count first := by
  induction calls with
  | nil => rfl
  | cons call calls inductionHypothesis =>
      have rest :=
        inductionHypothesis fun later within =>
          distinguished later (List.mem_cons_of_mem _ within)
      rw [List.flatMap_cons, findMessagesByToken_append, List.count_append,
        rest, find_tokenRows (distinguished call List.mem_cons_self),
        List.count_replicate]
      by_cases ofCall : call.messageId = messageId
      · have entered :
            indexedTokens toLower (call :: calls) messageId =
              tokenize toLower call.plaintext ++
                indexedTokens toLower calls messageId := by
          rw [indexedTokens, List.filter_cons_of_pos (by simp [ofCall]),
            List.flatMap_cons, indexedTokens]
        rw [entered, List.count_append, if_pos (by simp [ofCall])]
      · have passed :
            indexedTokens toLower (call :: calls) messageId =
              indexedTokens toLower calls messageId := by
          rw [indexedTokens, List.filter_cons_of_neg (by simp [ofCall]),
            indexedTokens]
        rw [passed, if_neg (by simp [ofCall]), Nat.zero_add]

end Runs

/-! ## What a query finds -/

/-- The tokens that take part in some calls and a query. -/
def tokensInPlay
    (toLower : QString → QString) (calls : List IndexCall)
    (query : QString) : Set QString :=
  { token |
    token ∈ tokenize toLower query ∨
      ∃ call ∈ calls, token ∈ tokenize toLower call.plaintext }

/-- A query finds a message once for each occurrence of its first token. -/
theorem count_findMessageIds
    {sodium : Sodium} {toLower : QString → QString}
    {searchIndexKey : QByteArray} {calls : List IndexCall}
    {query first : QString} {rest : List QString}
    (collisionFree :
      Set.InjOn (tokenDigest sodium searchIndexKey)
        (tokensInPlay toLower calls query))
    (succeeded : ∀ returned ∈
      Machine.trace (indexMessage sodium toLower) ⟨[], searchIndexKey⟩ calls,
        returned = true)
    (tokenized : tokenize toLower query = first :: rest)
    (messageId : QString) :
    (findMessageIds sodium toLower
        (Machine.run (indexMessage sodium toLower) ⟨[], searchIndexKey⟩ calls)
        query true).count messageId =
      (indexedTokens toLower calls messageId).count first := by
  have inPlay : first ∈ tokensInPlay toLower calls query := by
    left
    rw [tokenized]
    exact List.mem_cons_self
  rw [findMessageIds, tokenized]
  simp only [run_indexMessage _ succeeded, List.nil_append]
  apply count_find
  intro call within token ofText collides
  exact collisionFree (Or.inr ⟨call, within, ofText⟩) inPlay collides

/-- A query finds exactly the messages that have all its tokens, each of them
once, exactly when every message with the first token of the query has it once
in all the texts it was indexed with, and has all the other tokens. -/
theorem findMessageIds_iff
    (sodium : Sodium)
    (toLower : QString → QString)
    (searchIndexKey : QByteArray)
    (calls : List IndexCall)
    (query first : QString)
    (rest : List QString)
    (collisionFree :
      Set.InjOn (tokenDigest sodium searchIndexKey)
        (tokensInPlay toLower calls query))
    (succeeded : ∀ returned ∈
      Machine.trace (indexMessage sodium toLower) ⟨[], searchIndexKey⟩ calls,
        returned = true)
    (tokenized : tokenize toLower query = first :: rest) :
    let service :=
      Machine.run (indexMessage sodium toLower) ⟨[], searchIndexKey⟩ calls
    ((findMessageIds sodium toLower service query true).Nodup ∧
        ∀ messageId,
          messageId ∈ findMessageIds sodium toLower service query true ↔
            ∀ token ∈ tokenize toLower query,
              token ∈ indexedTokens toLower calls messageId) ↔
      ∀ messageId, first ∈ indexedTokens toLower calls messageId →
        (indexedTokens toLower calls messageId).count first = 1 ∧
          ∀ token ∈ rest,
            token ∈ indexedTokens toLower calls messageId := by
  intro service
  have counted : ∀ messageId,
      (findMessageIds sodium toLower service query true).count messageId =
        (indexedTokens toLower calls messageId).count first :=
    count_findMessageIds collisionFree succeeded tokenized
  have found : ∀ messageId,
      messageId ∈ findMessageIds sodium toLower service query true ↔
        first ∈ indexedTokens toLower calls messageId := by
    intro messageId
    rw [← List.count_pos_iff, counted, List.count_pos_iff]
  simp only [List.nodup_iff_count_le_one, counted, found, tokenized,
    List.forall_mem_cons]
  constructor
  · rintro ⟨once, complete⟩ messageId has
    have occurs := List.count_pos_iff.mpr has
    exact ⟨Nat.le_antisymm (once messageId) occurs,
      ((complete messageId).mp has).2⟩
  · intro condition
    refine ⟨fun messageId => ?_, fun messageId => ⟨fun has =>
      ⟨has, (condition messageId has).2⟩, And.left⟩⟩
    by_cases has : first ∈ indexedTokens toLower calls messageId
    · exact (condition messageId has).1.le
    · rw [List.count_eq_zero.mpr has]
      exact Nat.zero_le 1

/-! ## Three messages -/

section Examples

/-- `QString::toLower` on ASCII letters. -/
def asciiLower (text : QString) : QString :=
  text.map fun unit =>
    if 0x41 ≤ unit ∧ unit ≤ 0x5A then unit + 0x20 else unit

/-- Indexing a text for the message `msg_1`. -/
def indexing (plaintext : String) : IndexCall where
  conversationId := QString.literal "conv_1"
  messageId := QString.literal "msg_1"
  plaintext := QString.literal plaintext
  executed := fun _ => true

def exampleKey : QByteArray := List.replicate 32 0x6B

theorem collisionFree_of_forall
    {calls : List IndexCall} {query : QString}
    (distinct :
      let tokens :=
        tokenize asciiLower query ++
          calls.flatMap fun call => tokenize asciiLower call.plaintext
      ∀ token ∈ tokens, ∀ other ∈ tokens,
        tokenDigest ReferenceSodium.sodium exampleKey token =
            tokenDigest ReferenceSodium.sodium exampleKey other →
          token = other) :
    Set.InjOn (tokenDigest ReferenceSodium.sodium exampleKey)
      (tokensInPlay asciiLower calls query) := by
  have listed : ∀ token ∈ tokensInPlay asciiLower calls query,
      token ∈ tokenize asciiLower query ++
        calls.flatMap fun call => tokenize asciiLower call.plaintext := by
    rintro token (ofQuery | ⟨call, within, ofText⟩)
    · exact List.mem_append_left _ ofQuery
    · exact List.mem_append_right _
        (List.mem_flatMap.mpr ⟨call, within, ofText⟩)
  intro token inPlay other otherInPlay
  exact distinct token (listed token inPlay) other (listed other otherInPlay)

/-- A message with distinct words is found under two of them. -/
theorem findMessageIds_two_words :
    let calls := [indexing "Hello Vox Search"]
    let service :=
      Machine.run (indexMessage ReferenceSodium.sodium asciiLower)
        ⟨[], exampleKey⟩ calls
    (findMessageIds ReferenceSodium.sodium asciiLower service
        (QString.literal "vox search") true).Nodup ∧
      ∀ messageId,
        messageId ∈ findMessageIds ReferenceSodium.sodium asciiLower service
            (QString.literal "vox search") true ↔
          ∀ token ∈ tokenize asciiLower (QString.literal "vox search"),
            token ∈ indexedTokens asciiLower calls messageId := by
  intro calls service
  refine (findMessageIds_iff ReferenceSodium.sodium asciiLower exampleKey
    calls (QString.literal "vox search") (QString.literal "vox")
    [QString.literal "search"]
    (collisionFree_of_forall (by decide +kernel)) (by decide +kernel)
    (by decide +kernel)).mpr ?_
  intro messageId has
  by_cases same : QString.literal "msg_1" = messageId
  · subst same
    exact ⟨by decide +kernel, by decide +kernel⟩
  · rw [indexedTokens, List.filter_cons_of_neg
      (by simp [indexing, same])] at has
    exact absurd has List.not_mem_nil

/-- A repeated word finds its message twice, and the second word of a query is
not looked up. -/
theorem findMessageIds_repeats_and_ignores :
    let index := indexMessage ReferenceSodium.sodium asciiLower
    let find := findMessageIds ReferenceSodium.sodium asciiLower
    let repeated := [indexing "Vox vox"]
    let other := [indexing "Hello Vox"]
    (Set.InjOn (tokenDigest ReferenceSodium.sodium exampleKey)
        (tokensInPlay asciiLower repeated (QString.literal "vox")) ∧
      Machine.trace index ⟨[], exampleKey⟩ repeated = [true] ∧
      find (Machine.run index ⟨[], exampleKey⟩ repeated)
          (QString.literal "vox") true =
        [QString.literal "msg_1", QString.literal "msg_1"]) ∧
      Set.InjOn (tokenDigest ReferenceSodium.sodium exampleKey)
        (tokensInPlay asciiLower other (QString.literal "vox search")) ∧
      Machine.trace index ⟨[], exampleKey⟩ other = [true] ∧
      find (Machine.run index ⟨[], exampleKey⟩ other)
          (QString.literal "vox search") true = [QString.literal "msg_1"] ∧
      QString.literal "search" ∉
        indexedTokens asciiLower other (QString.literal "msg_1") := by
  intro index find repeated other
  exact ⟨⟨collisionFree_of_forall (by decide +kernel), by decide +kernel,
      by decide +kernel⟩,
    collisionFree_of_forall (by decide +kernel), by decide +kernel,
    by decide +kernel, by decide +kernel⟩

end Examples

end SearchService
end Services
end VoxDesktop
