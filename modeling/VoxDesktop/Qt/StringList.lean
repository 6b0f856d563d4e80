import Mathlib.Data.List.TakeWhile
import VoxDesktop.Qt.AsciiText

/-!
# Lists of texts

`QString::split`, `QStringList::removeDuplicates`, and which pieces of a
well-formed text are well formed: those between units that are no surrogates.
-/

namespace VoxDesktop
namespace Qt

/-! ## Duplicates -/

/-- `removeDuplicates`: the first occurrence of each element stays. -/
def removeDuplicates {α : Type*} [DecidableEq α] : List α → List α
  | [] => []
  | element :: elements =>
      element :: (removeDuplicates elements).filter (· ≠ element)

section Duplicates

variable {α : Type*} [DecidableEq α]

@[simp] theorem mem_removeDuplicates {element : α} {elements : List α} :
    element ∈ removeDuplicates elements ↔ element ∈ elements := by
  induction elements with
  | nil => rfl
  | cons first elements inductionHypothesis =>
      simp only [removeDuplicates, List.mem_cons, List.mem_filter,
        inductionHypothesis, decide_eq_true_eq]
      by_cases same : element = first
      · simp [same]
      · simp [same]

theorem nodup_removeDuplicates (elements : List α) :
    (removeDuplicates elements).Nodup := by
  induction elements with
  | nil => exact List.nodup_nil
  | cons first elements inductionHypothesis =>
      rw [removeDuplicates, List.nodup_cons]
      refine ⟨?_, inductionHypothesis.filter _⟩
      simp

end Duplicates

/-! ## Pieces of a text -/

/-- `split(separator, Qt::SkipEmptyParts)`. -/
def splitSkipEmpty (separator : UInt16) (text : QString) : List QString :=
  (text.splitOn separator).filter (· ≠ [])

/-- A unit that is no surrogate. -/
def IsPlainUnit (unit : UInt16) : Prop :=
  unit.toNat < 0xD800 ∨ 0xE000 ≤ unit.toNat

instance : DecidablePred IsPlainUnit :=
  fun _ => inferInstanceAs (Decidable (_ ∨ _))

/-- The units of a code point: one, or two surrogates. -/
theorem utf16Units_cases {codePoint : ℕ} (scalar : IsScalar codePoint) :
    (∃ unit, IsPlainUnit unit ∧ utf16Units codePoint = [unit]) ∨
      ∃ high low, ¬IsPlainUnit high ∧ ¬IsPlainUnit low ∧
        utf16Units codePoint = [high, low] := by
  obtain ⟨bound, notSurrogate⟩ := scalar
  rw [utf16Units]
  split
  · rename_i small
    refine Or.inl ⟨_, ?_, rfl⟩
    rw [IsPlainUnit, UInt16.toNat_ofNat_of_lt' (show _ < 65536 by omega)]
    omega
  · rename_i large
    refine Or.inr ⟨_, _, ?_, ?_, rfl⟩
    · rw [IsPlainUnit, UInt16.toNat_ofNat_of_lt' (show _ < 65536 by omega)]
      omega
    · rw [IsPlainUnit, UInt16.toNat_ofNat_of_lt' (show _ < 65536 by omega)]
      omega

theorem isUtf16_singleton {unit : UInt16} (plain : IsPlainUnit unit) :
    IsUtf16 [unit] := by
  have below := unit.toNat_lt
  refine ⟨[unit.toNat], ?_, ?_⟩
  · rw [List.forall_mem_singleton]
    rcases plain with low | high
    · exact ⟨by omega, by omega⟩
    · exact ⟨by omega, by omega⟩
  · rw [List.flatMap_singleton, utf16Units, if_pos (by omega)]
    simp

/-- A unit that is no surrogate separates the code points before it from those
after it. -/
theorem isUtf16_of_append_cons
    {unit : UInt16} (plain : IsPlainUnit unit) {first rest : QString}
    (whole : IsUtf16 (first ++ unit :: rest)) :
    IsUtf16 first ∧ IsUtf16 rest := by
  obtain ⟨codePoints, scalars, units⟩ := whole
  induction codePoints generalizing first with
  | nil => simp at units
  | cons codePoint codePoints inductionHypothesis =>
      obtain ⟨scalar, others⟩ := List.forall_mem_cons.mp scalars
      rw [List.flatMap_cons] at units
      have start : IsUtf16 (utf16Units codePoint) :=
        ⟨[codePoint], by simpa using scalar, by simp⟩
      rcases utf16Units_cases scalar with
        ⟨single, _, isSingle⟩ | ⟨high, low, notHigh, notLow, isPair⟩
      · rw [isSingle, List.singleton_append] at units
        cases first with
        | nil =>
            obtain ⟨_, rfl⟩ := List.cons.inj units
            exact ⟨⟨[], by simp, rfl⟩, codePoints, others, rfl⟩
        | cons head first =>
            obtain ⟨rfl, tail⟩ := List.cons.inj units
            obtain ⟨before, after⟩ := inductionHypothesis others tail
            refine ⟨?_, after⟩
            have joined := isUtf16_append start before
            rwa [isSingle] at joined
      · rw [isPair] at units
        cases first with
        | nil =>
            obtain ⟨rfl, _⟩ := List.cons.inj units
            exact absurd plain notHigh
        | cons head first =>
            obtain ⟨rfl, tail⟩ := List.cons.inj units
            cases first with
            | nil =>
                obtain ⟨rfl, _⟩ := List.cons.inj tail
                exact absurd plain notLow
            | cons second first =>
                obtain ⟨rfl, further⟩ := List.cons.inj
                  (show second :: (first ++ _) = low :: _ from tail)
                obtain ⟨before, after⟩ := inductionHypothesis others further
                refine ⟨?_, after⟩
                have joined := isUtf16_append start before
                rwa [isPair] at joined

/-- Units that are no surrogates may be replaced by others. -/
theorem isUtf16_map
    {replaced : UInt16 → UInt16}
    (plain : ∀ unit, IsPlainUnit unit → IsPlainUnit (replaced unit))
    (same : ∀ unit, ¬IsPlainUnit unit → replaced unit = unit)
    {text : QString} (wellFormed : IsUtf16 text) :
    IsUtf16 (text.map replaced) := by
  obtain ⟨codePoints, scalars, rfl⟩ := wellFormed
  induction codePoints with
  | nil => exact ⟨[], by simp, rfl⟩
  | cons codePoint codePoints inductionHypothesis =>
      obtain ⟨scalar, others⟩ := List.forall_mem_cons.mp scalars
      rw [List.flatMap_cons, List.map_append]
      apply isUtf16_append _ (inductionHypothesis others)
      rcases utf16Units_cases scalar with
        ⟨single, isPlain, isSingle⟩ | ⟨high, low, notHigh, notLow, isPair⟩
      · rw [isSingle]
        exact isUtf16_singleton (plain single isPlain)
      · refine ⟨[codePoint], by simpa using scalar, ?_⟩
        rw [List.flatMap_singleton, isPair, List.map_cons, List.map_cons,
          List.map_nil, same high notHigh, same low notLow]

theorem isUtf16_splitOn
    {separator : UInt16} (plain : IsPlainUnit separator) {text : QString}
    (wellFormed : IsUtf16 text) :
    ∀ part ∈ text.splitOn separator, IsUtf16 part := by
  induction size : text.length using Nat.strong_induction_on
    generalizing text with
  | _ size inductionHypothesis =>
      by_cases divided : separator ∈ text
      · obtain ⟨first, rest, rfl, undivided⟩ :=
          List.eq_append_cons_of_mem divided
        obtain ⟨before, after⟩ := isUtf16_of_append_cons plain wellFormed
        rw [List.splitOn_append_cons_self_of_not_mem undivided,
          List.forall_mem_cons]
        refine ⟨before, inductionHypothesis rest.length ?_ after rfl⟩
        rw [← size, List.length_append, List.length_cons]
        omega
      · rw [List.splitOn_eq_singleton divided, List.forall_mem_singleton]
        exact wellFormed

theorem isUtf16_of_append_plain
    {first rest : QString} (plain : ∀ unit ∈ first, IsPlainUnit unit)
    (whole : IsUtf16 (first ++ rest)) : IsUtf16 rest := by
  induction first with
  | nil => exact whole
  | cons unit first inductionHypothesis =>
      obtain ⟨isPlain, others⟩ := List.forall_mem_cons.mp plain
      rw [List.cons_append, ← List.nil_append (unit :: _)] at whole
      exact inductionHypothesis others
        (isUtf16_of_append_cons isPlain whole).2

theorem isUtf16_of_append_plain_right
    {first rest : QString} (plain : ∀ unit ∈ rest, IsPlainUnit unit)
    (whole : IsUtf16 (first ++ rest)) : IsUtf16 first := by
  cases rest with
  | nil => rwa [List.append_nil] at whole
  | cons unit rest =>
      exact (isUtf16_of_append_cons (plain unit List.mem_cons_self) whole).1

theorem isPlainUnit_of_isSpace {unit : UInt16} (space : isSpace unit) :
    IsPlainUnit unit := by
  left
  simp only [isSpace, Bool.or_eq_true, Bool.and_eq_true, decide_eq_true_eq,
    ← UInt16.toNat_inj, UInt16.le_iff_toNat_le, UInt16.reduceToNat] at space
  omega

theorem isUtf16_dropWhile_isSpace
    {text : QString} (wellFormed : IsUtf16 text) :
    IsUtf16 (text.dropWhile isSpace) := by
  rw [← List.takeWhile_append_dropWhile (p := isSpace) (l := text)]
    at wellFormed
  exact isUtf16_of_append_plain
    (fun _ member => isPlainUnit_of_isSpace (List.mem_takeWhile_imp member))
    wellFormed

theorem isUtf16_trimmed
    {text : QString} (wellFormed : IsUtf16 text) :
    IsUtf16 (trimmed text) := by
  have start := isUtf16_dropWhile_isSpace wellFormed
  rw [trimmed]
  generalize text.dropWhile isSpace = kept at start
  have split : kept = (kept.reverse.dropWhile isSpace).reverse ++
      (kept.reverse.takeWhile isSpace).reverse := by
    rw [← List.reverse_append, List.takeWhile_append_dropWhile,
      List.reverse_reverse]
  rw [split] at start
  refine isUtf16_of_append_plain_right (fun unit member => ?_) start
  exact isPlainUnit_of_isSpace
    (List.mem_takeWhile_imp (List.mem_reverse.mp member))

end Qt
end VoxDesktop
