import VoxDesktop.Qt.StringList
import VoxDesktop.Services.SearchService

/-!
# Adding conversations

The menu of `ui/conversations/ConversationListPane`: what the user types into
its dialogs and which signal is emitted for it.
-/

namespace VoxDesktop
namespace Ui

open Qt

/-! ## Typed texts -/

/-- The replacements of `SplitUsernames`. -/
def commaForBreak (unit : UInt16) : UInt16 :=
  if unit = 0x0A ∨ unit = 0x0D then 0x2C else unit

/-- `SplitUsernames`. -/
def splitUsernames (raw : QString) : List QString :=
  removeDuplicates
    (((splitSkipEmpty 0x2C (raw.map commaForBreak)).map trimmed).filter
      (· ≠ []))

/-- What the class of `conv_[A-Za-z0-9_-]+` matches. -/
def isConversationIdUnit (unit : UInt16) : Bool :=
  (0x41 ≤ unit && unit ≤ 0x5A) || (0x61 ≤ unit && unit ≤ 0x7A) ||
    (0x30 ≤ unit && unit ≤ 0x39) || unit = 0x5F || unit = 0x2D

def conversationIdPrefix : QString := QString.literal "conv_"

/-- The first match of `conv_[A-Za-z0-9_-]+` in a valid text. -/
def conversationIdIn : QString → Option QString
  | [] => none
  | unit :: rest =>
      let ending :=
        ((unit :: rest).drop conversationIdPrefix.length).takeWhile
          isConversationIdUnit
      if conversationIdPrefix.isPrefixOf (unit :: rest) ∧ ending ≠ [] then
        some (conversationIdPrefix ++ ending)
      else conversationIdIn rest

/-! ## Signals -/

inductive PaneSignal
  | createDmRequested (username : QString)
  | createGroupRequested (usernames : List QString)
  | createChannelRequested (adminUsernames : List QString)
  | subscribeChannelRequested (conversationIdOrText : QString)
deriving DecidableEq

/-- The actions of the menu, with the text and the button of their dialogs. -/
inductive MenuAction
  | dm (ok : Bool) (text : QString)
  | group (ok : Bool) (text : QString)
  | channel (ok : Bool) (text : QString)
  | subscribe (ok : Bool) (text : QString)

/-- The signal of an action, if any. -/
def MenuAction.triggered : MenuAction → Option PaneSignal
  | .dm ok text =>
      let username := trimmed text
      if ok = false ∨ username = [] then none
      else some (.createDmRequested username)
  | .group ok text =>
      let raw := trimmed text
      if ok = false ∨ raw = [] then none
      else
        let usernames := splitUsernames raw
        if usernames = [] then none
        else some (.createGroupRequested usernames)
  | .channel ok text =>
      let raw := trimmed text
      if ok = false then none
      else some (.createChannelRequested (splitUsernames raw))
  | .subscribe ok text =>
      let raw := trimmed text
      if ok = false ∨ raw = [] then none
      else
        let found :=
          if Services.isValidUtf16 raw then conversationIdIn raw else none
        some (.subscribeChannelRequested (found.getD raw))

/-! ## Names -/

/-- The names are the parts between commas and line breaks, without the
blanks around them. -/
theorem mem_splitUsernames {raw name : QString} :
    name ∈ splitUsernames raw ↔
      name ≠ [] ∧ ∃ part ∈ (raw.map commaForBreak).splitOn 0x2C,
        trimmed part = name := by
  rw [splitUsernames, mem_removeDuplicates, List.mem_filter, List.mem_map]
  simp only [splitSkipEmpty, List.mem_filter, decide_eq_true_eq]
  constructor
  · rintro ⟨⟨part, ⟨within, _⟩, rfl⟩, nonempty⟩
    exact ⟨nonempty, part, within, rfl⟩
  · rintro ⟨nonempty, part, within, rfl⟩
    refine ⟨⟨part, ⟨within, ?_⟩, rfl⟩, nonempty⟩
    rintro rfl
    exact nonempty rfl

theorem isUtf16_of_mem_splitUsernames
    {raw name : QString} (wellFormed : IsUtf16 raw)
    (member : name ∈ splitUsernames raw) : IsUtf16 name := by
  obtain ⟨_, part, within, rfl⟩ := mem_splitUsernames.mp member
  apply isUtf16_trimmed
  have plainComma : ∀ unit, IsPlainUnit unit →
      IsPlainUnit (commaForBreak unit) := by
    intro unit plain
    rw [commaForBreak]
    split
    · decide
    · exact plain
  have sameSurrogate : ∀ unit, ¬IsPlainUnit unit →
      commaForBreak unit = unit := by
    intro unit surrogate
    rw [commaForBreak, if_neg]
    rintro (rfl | rfl)
    · exact surrogate (by decide)
    · exact surrogate (by decide)
  exact isUtf16_splitOn (by decide)
    (isUtf16_map plainComma sameSurrogate wellFormed) part within

end Ui
end VoxDesktop
