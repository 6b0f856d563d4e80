import VoxDesktop.Qt.ByteArray
import VoxDesktop.Qt.Utf8

/-!
# Well-formed texts

Which texts are well formed: those of code units below the surrogates, and in
particular the ASCII texts, which numbers, hexadecimal and base-64 forms are.
-/

namespace VoxDesktop
namespace Qt

/-- A text of code units below the surrogates is well formed. -/
theorem isUtf16_of_lt
    {text : QString} (below : ∀ unit ∈ text, unit.toNat < 0xD800) :
    IsUtf16 text := by
  induction text with
  | nil => exact ⟨[], by simp, rfl⟩
  | cons unit text inductionHypothesis =>
      obtain ⟨unitBelow, textBelow⟩ := List.forall_mem_cons.mp below
      obtain ⟨codePoints, scalars, same⟩ := inductionHypothesis textBelow
      refine ⟨unit.toNat :: codePoints, ?_, ?_⟩
      · rw [List.forall_mem_cons]
        exact ⟨⟨by omega, by omega⟩, scalars⟩
      · have single : utf16Units unit.toNat = [unit] := by
          rw [utf16Units, if_pos (by omega)]
          simp
        rw [List.flatMap_cons, single, ← same, List.singleton_append]

theorem isUtf16_append
    {first second : QString}
    (firstWellFormed : IsUtf16 first) (secondWellFormed : IsUtf16 second) :
    IsUtf16 (first ++ second) := by
  obtain ⟨codePoints, scalars, rfl⟩ := firstWellFormed
  obtain ⟨others, otherScalars, rfl⟩ := secondWellFormed
  refine ⟨codePoints ++ others, ?_, List.flatMap_append.symm⟩
  intro codePoint member
  rcases List.mem_append.mp member with member | member
  · exact scalars codePoint member
  · exact otherScalars codePoint member

/-! ## ASCII texts -/

def IsAsciiText (text : QString) : Prop := ∀ unit ∈ text, unit.toNat < 0x80

instance (text : QString) : Decidable (IsAsciiText text) :=
  List.decidableBAll (fun unit : UInt16 => unit.toNat < 0x80) text

theorem IsAsciiText.append
    {first second : QString}
    (firstAscii : IsAsciiText first) (secondAscii : IsAsciiText second) :
    IsAsciiText (first ++ second) := by
  intro unit member
  rcases List.mem_append.mp member with member | member
  · exact firstAscii unit member
  · exact secondAscii unit member

theorem IsAsciiText.isUtf16
    {text : QString} (ascii : IsAsciiText text) : IsUtf16 text :=
  isUtf16_of_lt fun unit member => by
    have bound := ascii unit member
    omega

/-- The octets of an ASCII text are its code units. -/
theorem IsAsciiText.toUtf8_eq
    {text : QString} (ascii : IsAsciiText text) :
    toUtf8 text = text.map fun unit => UInt8.ofNat unit.toNat := by
  induction text with
  | nil => rfl
  | cons unit text inductionHypothesis =>
      obtain ⟨unitAscii, textAscii⟩ := List.forall_mem_cons.mp ascii
      rw [toUtf8_cons_ascii _ unitAscii, inductionHypothesis textAscii,
        List.map_cons]

/-- ASCII texts come back from their octets. -/
theorem IsAsciiText.fromUtf8_toUtf8
    {text : QString} (ascii : IsAsciiText text) :
    fromUtf8 (toUtf8 text) = text := by
  have octets : ∀ unit ∈ text, (UInt8.ofNat unit.toNat).toNat = unit.toNat := by
    intro unit member
    have bound := ascii unit member
    rw [UInt8.toNat_ofNat', Nat.mod_eq_of_lt (by omega)]
  rw [ascii.toUtf8_eq, fromUtf8_ascii, List.map_map]
  · refine (List.map_congr_left fun unit member => ?_).trans (List.map_id _)
    rw [Function.comp_apply, octets unit member, UInt16.ofNat_toNat, id]
  · intro octet member
    obtain ⟨unit, within, rfl⟩ := List.mem_map.mp member
    rw [octets unit within]
    exact ascii unit within

theorem isAsciiText_fromUtf8
    {bytes : QByteArray} (ascii : IsAscii bytes) :
    IsAsciiText (fromUtf8 bytes) := by
  rw [fromUtf8_ascii ascii]
  intro unit member
  obtain ⟨octet, within, rfl⟩ := List.mem_map.mp member
  have bound := ascii octet within
  rw [UInt16.toNat_ofNat_of_lt' (show octet.toNat < 65536 by omega)]
  exact bound

theorem isAsciiText_fromLatin1
    {bytes : QByteArray} (ascii : IsAscii bytes) :
    IsAsciiText (fromLatin1 bytes) := by
  rw [fromLatin1, ← fromUtf8_ascii ascii]
  exact isAsciiText_fromUtf8 ascii

theorem isAscii_number (value : ℕ) : IsAscii (number value) := by
  intro octet member
  rw [number_natCast] at member
  obtain ⟨digit, within, rfl⟩ := List.mem_map.mp member
  have isDigit := Nat.isDigit_of_mem_toDigits (by decide) (by decide) within
  simp only [Char.isDigit, Bool.and_eq_true, decide_eq_true_eq] at isDigit
  have upper : digit.toNat ≤ 57 := UInt32.le_iff_toNat_le.mp isDigit.2
  rw [UInt8.toNat_ofNat', Nat.mod_eq_of_lt (by omega)]
  omega

theorem isAsciiText_number (value : ℕ) :
    IsAsciiText (QString.number value) := by
  intro unit member
  obtain ⟨octet, within, rfl⟩ := List.mem_map.mp member
  have bound := isAscii_number value octet within
  rwa [UInt8.toNat_toUInt16]

theorem isAscii_toHex (bytes : QByteArray) : IsAscii (toHex bytes) := by
  have digits : ∀ value < 16, (hexDigit value).toNat < 0x80 := by decide
  intro octet member
  obtain ⟨source, _, isDigit⟩ := List.mem_flatMap.mp member
  have bound := source.toNat_lt
  simp only [List.mem_cons, List.not_mem_nil, or_false] at isDigit
  rcases isDigit with rfl | rfl
  · exact digits _ (by omega)
  · exact digits _ (by omega)

end Qt
end VoxDesktop
