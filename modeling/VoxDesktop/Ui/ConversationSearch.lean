import Mathlib.Data.List.Infix
import Mathlib.Data.List.TakeWhile
import VoxDesktop.Domain.Conversations
import VoxDesktop.Library.Machine
import VoxDesktop.Qt.Text

/-!
# Searching the listed conversations

The tabs and the search field of `ui/conversations/ConversationListPane` over
the rows of `ConversationListModel`.  The text of the field is escaped for a
regular expression, but what is searched for is the pattern itself: a text of
ASCII letters, digits and underscores is found where it occurs, and any other
text only in titles with a backslash.
-/

namespace VoxDesktop
namespace Ui

open Library Qt Domain

/-! ## The pane -/

/-- What `QRegularExpression::escape` leaves as it is. -/
def isWordUnit (unit : UInt16) : Bool :=
  (0x61 ≤ unit && unit ≤ 0x7A) || (0x41 ≤ unit && unit ≤ 0x5A) ||
    (0x30 ≤ unit && unit ≤ 0x39) || unit = 0x5F

def backslash : UInt16 := 0x5C

/-- Escaping loop; the first argument counts the units that are appended as
they are, behind a high surrogate. -/
def escapeLoop : ℕ → QString → QString
  | _, [] => []
  | plain + 1, unit :: rest => unit :: escapeLoop plain rest
  | 0, unit :: rest =>
      if unit = 0 then backslash :: 0x30 :: escapeLoop 0 rest
      else if isWordUnit unit then unit :: escapeLoop 0 rest
      else
        backslash :: unit ::
          escapeLoop (if isHighSurrogate unit then 1 else 0) rest

/-- `QRegularExpression::escape`. -/
def escape (text : QString) : QString := escapeLoop 0 text

/-- The role `TypeLabelRole` of a row. -/
def typeLabel : ConversationType → QString
  | .dm => QString.literal "DM"
  | .group => QString.literal "GROUP"
  | .channel => QString.literal "CHANNEL"
  | .other _ => QString.literal "DM"

structure ConversationListPane where
  /-- The rows of `m_model`. -/
  conversations : List Conversation := []
  m_typeFilter : ConversationType := .dm
  /-- The pattern of the filter's regular expression. -/
  pattern : QString := []

section Pane

variable (toCaseFolded : QString → QString)

/-- `text.contains(needle, Qt::CaseInsensitive)`. -/
def containsFolded (text needle : QString) : Bool :=
  decide (toCaseFolded needle <:+: toCaseFolded text)

/-- A row in which a text is found. -/
def isFoundIn (needle : QString) (conversation : Conversation) : Bool :=
  containsFolded toCaseFolded conversation.title needle ||
    containsFolded toCaseFolded (typeLabel conversation.type) needle

namespace ConversationListPane

variable (pane : ConversationListPane)

def filterAcceptsRow (conversation : Conversation) : Bool :=
  if conversation.type.toString ≠ pane.m_typeFilter.toString then false
  else
    let needle := trimmed pane.pattern
    if needle = [] then true else isFoundIn toCaseFolded needle conversation

/-- The rows of the view. -/
def listed : List Conversation :=
  pane.conversations.filter (pane.filterAcceptsRow toCaseFolded)

end ConversationListPane

inductive PaneEvent
  | setConversations (conversations : List Conversation)
  | textChanged (text : QString)
  | currentChanged (index : ℤ)
  | clicked (row : ℕ)

/-- The type of a tab. -/
def tabType (index : ℤ) : ConversationType :=
  if index = 0 then .dm else if index = 1 then .group else .channel

/-- An event, with the conversation that it selects. -/
def paneStep (pane : ConversationListPane) :
    PaneEvent → Option QString × ConversationListPane
  | .setConversations conversations =>
      (none, { pane with conversations := conversations })
  | .textChanged text => (none, { pane with pattern := escape text })
  | .currentChanged index => (none, { pane with m_typeFilter := tabType index })
  | .clicked row =>
      ((pane.listed toCaseFolded)[row]?.map Conversation.conversationId, pane)

/-- The pane after events, from its construction on. -/
def paneAfter (events : List PaneEvent) : ConversationListPane :=
  Machine.run (paneStep toCaseFolded) {} events

end Pane

/-! ## Patterns -/

theorem escape_of_word
    {text : QString} (word : ∀ unit ∈ text, isWordUnit unit) :
    escape text = text := by
  rw [escape]
  induction text with
  | nil => rfl
  | cons unit rest inductionHypothesis =>
      obtain ⟨isWord, others⟩ := List.forall_mem_cons.mp word
      have nonzero : unit ≠ 0 := by
        rintro rfl
        exact absurd isWord (by decide)
      rw [escapeLoop, if_neg nonzero, if_pos isWord,
        inductionHypothesis others]

/-- Whatever is escaped is escaped by a backslash. -/
theorem backslash_mem_escape
    {text : QString} {unit : UInt16} (member : unit ∈ text)
    (escaped : isWordUnit unit = false) : backslash ∈ escape text := by
  rw [escape]
  induction text with
  | nil => contradiction
  | cons first rest inductionHypothesis =>
      rw [escapeLoop]
      split
      · exact List.mem_cons_self
      split
      · rename_i isWord
        rcases List.mem_cons.mp member with rfl | within
        · rw [isWord] at escaped
          contradiction
        · exact List.mem_cons_of_mem _ (inductionHypothesis within)
      · exact List.mem_cons_self

/-- Trimming drops blanks only. -/
theorem mem_trimmed
    {text : QString} {unit : UInt16} (member : unit ∈ text)
    (visible : isSpace unit = false) : unit ∈ trimmed text := by
  have kept : ∀ {units : QString}, unit ∈ units →
      unit ∈ units.dropWhile isSpace := by
    intro units within
    rw [← List.takeWhile_append_dropWhile (p := isSpace) (l := units)] at within
    rcases List.mem_append.mp within with taken | dropped
    · rw [List.mem_takeWhile_imp taken] at visible
      contradiction
    · exact dropped
  rw [trimmed, List.mem_reverse]
  exact kept (List.mem_reverse.mpr (kept member))

theorem isSpace_of_word {unit : UInt16} (word : isWordUnit unit) :
    isSpace unit = false := by
  rw [Bool.eq_false_iff]
  intro space
  simp only [isWordUnit, isSpace, Bool.or_eq_true, Bool.and_eq_true,
    decide_eq_true_eq, ← UInt16.toNat_inj, UInt16.le_iff_toNat_le,
    UInt16.reduceToNat] at word space
  omega

theorem trimmed_of_word
    {text : QString} (word : ∀ unit ∈ text, isWordUnit unit) :
    trimmed text = text := by
  have kept : ∀ units : QString, (∀ unit ∈ units, isWordUnit unit) →
      units.dropWhile isSpace = units := by
    intro units isWord
    cases units with
    | nil => rfl
    | cons unit units =>
        apply List.dropWhile_cons_of_neg
        rw [isSpace_of_word (isWord unit List.mem_cons_self)]
        decide
  rw [trimmed, kept text word, kept text.reverse fun unit member =>
    word unit (List.mem_reverse.mp member), List.reverse_reverse]

/-! ## Results -/

/-- What the last event that tells something tells. -/
def lastTold
    {α : Type} (told : PaneEvent → Option α) (events : List PaneEvent)
    (start : α) : α :=
  (events.filterMap told).getLast?.getD start

/-- The rows that the last of some events has set. -/
def shownRows (events : List PaneEvent) : List Conversation :=
  lastTold
    (fun
      | .setConversations conversations => some conversations
      | _ => none) events []

/-- The type of the tab that the last of some events has shown. -/
def shownTab (events : List PaneEvent) : ConversationType :=
  lastTold
    (fun
      | .currentChanged index => some (tabType index)
      | _ => none) events .dm

/-- The text that the last of some events has put into the search field. -/
def searchedText (events : List PaneEvent) : QString :=
  lastTold
    (fun
      | .textChanged text => some text
      | _ => none) events []

theorem lastTold_concat
    {α : Type} (told : PaneEvent → Option α) (events : List PaneEvent)
    (event : PaneEvent) (start : α) :
    lastTold told (events ++ [event]) start =
      (told event).getD (lastTold told events start) := by
  rw [lastTold, List.filterMap_append, List.getLast?_append, lastTold]
  cases isTold : told event <;> simp [isTold]

section Runs

variable {toCaseFolded : QString → QString}

/-- Rows, tab and text are the last ones. -/
theorem paneAfter_eq (events : List PaneEvent) :
    paneAfter toCaseFolded events =
      { conversations := shownRows events
        m_typeFilter := shownTab events
        pattern := escape (searchedText events) } := by
  induction events using List.reverseRecOn with
  | nil => rfl
  | append_singleton earlier event inductionHypothesis =>
      rw [paneAfter] at inductionHypothesis
      rw [paneAfter, Machine.run_append, inductionHypothesis]
      simp only [shownRows, shownTab, searchedText, lastTold_concat]
      cases event with
      | setConversations conversations => rfl
      | textChanged text => rfl
      | currentChanged index => rfl
      | clicked row => rfl

theorem backslash_notMem_typeLabel (type : ConversationType) :
    backslash ∉ typeLabel type := by
  cases type with
  | dm => decide
  | group => decide
  | channel => decide
  | other number => exact (by decide : backslash ∉ QString.literal "DM")

/-- A text with a backslash is found in titles with a backslash only. -/
theorem backslash_mem_title
    (folds : ∀ text, backslash ∈ toCaseFolded text ↔ backslash ∈ text)
    {needle : QString} (member : backslash ∈ needle)
    {conversation : Conversation}
    (found : isFoundIn toCaseFolded needle conversation) :
    backslash ∈ conversation.title := by
  have within : ∀ text, containsFolded toCaseFolded text needle →
      backslash ∈ text := by
    intro text contains
    have isInfix : toCaseFolded needle <:+: toCaseFolded text :=
      of_decide_eq_true contains
    exact (folds text).mp (isInfix.subset ((folds needle).mpr member))
  rw [isFoundIn, Bool.or_eq_true] at found
  rcases found with inTitle | inLabel
  · exact within _ inTitle
  · exact absurd (within _ inLabel) (backslash_notMem_typeLabel _)

/-- The rows that are set last and have the type of the tab that is shown
last. -/
def rowsOfTab (events : List PaneEvent) : List Conversation :=
  (shownRows events).filter fun conversation =>
    conversation.type.toString = (shownTab events).toString

/-- After any events: for a text of ASCII letters, digits and underscores, the
rows of the tab are listed in which it occurs; for any other text, only rows of
the tab with a backslash in their title are. -/
theorem search_lists_rows
    (folds : ∀ text, backslash ∈ toCaseFolded text ↔ backslash ∈ text)
    (events : List PaneEvent) :
    let listed := (paneAfter toCaseFolded events).listed toCaseFolded
    let text := searchedText events
    ((∀ unit ∈ text, isWordUnit unit) →
      listed =
        (rowsOfTab events).filter fun conversation =>
          text = [] ∨ isFoundIn toCaseFolded text conversation) ∧
      ((∃ unit ∈ text, isWordUnit unit = false) →
        ∀ conversation ∈ listed,
          conversation ∈ rowsOfTab events ∧
            backslash ∈ conversation.title) := by
  intro listed text
  unfold listed
  rw [paneAfter_eq]
  constructor
  · intro word
    rw [rowsOfTab, List.filter_filter, ConversationListPane.listed]
    apply List.filter_congr
    intro conversation _
    rw [ConversationListPane.filterAcceptsRow, escape_of_word word,
      trimmed_of_word word]
    by_cases ofTab :
        conversation.type.toString = (shownTab events).toString
    · by_cases empty : text = []
      · simp [ofTab, empty]
      · simp [ofTab, empty]
    · simp [ofTab]
  · rintro ⟨unit, member, escaped⟩ conversation isListed
    obtain ⟨isRow, accepted⟩ := List.mem_filter.mp isListed
    have needle : backslash ∈ trimmed (escape text) :=
      mem_trimmed (backslash_mem_escape member escaped) (by decide)
    rw [ConversationListPane.filterAcceptsRow] at accepted
    split at accepted
    · contradiction
    rename_i ofTab
    rw [if_neg (List.ne_nil_of_mem needle)] at accepted
    exact ⟨List.mem_filter.mpr ⟨isRow, decide_eq_true (not_not.mp ofTab)⟩,
      backslash_mem_title folds needle accepted⟩

end Runs

/-- In the tab of the groups, a group is found by its name, and not by its
name and a blank. -/
theorem search_of_two_texts :
    let titled : Conversation :=
      { conversationId := QString.literal "c1"
        serverId := []
        type := .group
        title := QString.literal "bob"
        lastMessageAt := 0 }
    (paneAfter id [.setConversations [titled], .currentChanged 1,
      .textChanged (QString.literal "bob")]).listed id = [titled] ∧
    (paneAfter id [.setConversations [titled], .currentChanged 1,
      .textChanged (QString.literal "bob ")]).listed id = [] := by
  intro titled
  have folds : ∀ text : QString, backslash ∈ id text ↔ backslash ∈ text :=
    fun _ => Iff.rfl
  have onlyWords :
      ∀ unit ∈ searchedText [.setConversations [titled], .currentChanged 1,
        .textChanged (QString.literal "bob")], isWordUnit unit :=
    List.all_eq_true.mp (by decide)
  constructor
  · rw [(search_lists_rows folds [.setConversations [titled],
      .currentChanged 1, .textChanged (QString.literal "bob")]).1 onlyWords]
    decide
  · apply List.eq_nil_iff_forall_not_mem.mpr
    intro conversation isListed
    obtain ⟨ofTab, named⟩ := (search_lists_rows folds
      [.setConversations [titled], .currentChanged 1,
        .textChanged (QString.literal "bob ")]).2
      ⟨0x20, by decide, by decide⟩ conversation isListed
    rw [List.mem_singleton.mp (List.mem_filter.mp ofTab).1] at named
    exact absurd named (by decide)

end Ui
end VoxDesktop
