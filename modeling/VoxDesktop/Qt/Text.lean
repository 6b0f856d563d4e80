import Mathlib.Data.List.Basic

/-!
# Byte strings and text

`QByteArray` is a list of octets.  `QString` is a list of UTF-16 code units,
as in Qt, so that unpaired surrogates exist as values.  The conversions follow
Qt: `toUtf8` writes `?` for an unpaired surrogate, `fromUtf8` drops a leading
byte order mark and writes U+FFFD for every octet that starts no well-formed
sequence.
-/

namespace VoxDesktop
namespace Qt

/-- Qt's byte string. -/
abbrev QByteArray := List UInt8

/-- Qt's text: UTF-16 code units. -/
abbrev QString := List UInt16

/-- A byte string written as an ASCII literal in the source. -/
def QByteArray.literal (text : String) : QByteArray :=
  text.toList.map fun char => UInt8.ofNat char.toNat

/-- A text written as an ASCII literal in the source. -/
def QString.literal (text : String) : QString :=
  text.toList.map fun char => UInt16.ofNat char.toNat

/-- `QChar::isSpace`. -/
def isSpace (unit : UInt16) : Bool :=
  unit = 0x20 || (0x09 ≤ unit && unit ≤ 0x0D) || unit = 0x85 ||
    unit = 0xA0 || unit = 0x1680 || (0x2000 ≤ unit && unit ≤ 0x200A) ||
    unit = 0x2028 || unit = 0x2029 || unit = 0x202F || unit = 0x205F ||
    unit = 0x3000

/-- `QString::trimmed`. -/
def trimmed (text : QString) : QString :=
  ((text.dropWhile isSpace).reverse.dropWhile isSpace).reverse

/-! ## UTF-8 -/

def isHighSurrogate (unit : UInt16) : Bool :=
  0xD800 ≤ unit.toNat && unit.toNat < 0xDC00

def isLowSurrogate (unit : UInt16) : Bool :=
  0xDC00 ≤ unit.toNat && unit.toNat < 0xE000

/-- Octets of one code point. -/
def utf8Octets (codePoint : ℕ) : QByteArray :=
  if codePoint < 0x80 then
    [UInt8.ofNat codePoint]
  else if codePoint < 0x800 then
    [UInt8.ofNat (0xC0 + codePoint / 64),
      UInt8.ofNat (0x80 + codePoint % 64)]
  else if codePoint < 0x10000 then
    [UInt8.ofNat (0xE0 + codePoint / 4096),
      UInt8.ofNat (0x80 + codePoint / 64 % 64),
      UInt8.ofNat (0x80 + codePoint % 64)]
  else
    [UInt8.ofNat (0xF0 + codePoint / 262144),
      UInt8.ofNat (0x80 + codePoint / 4096 % 64),
      UInt8.ofNat (0x80 + codePoint / 64 % 64),
      UInt8.ofNat (0x80 + codePoint % 64)]

/-- Encoding loop; the first argument counts the code units that the surrogate
pair encoded last has already used. -/
def toUtf8Loop : ℕ → QString → QByteArray
  | _, [] => []
  | used + 1, _ :: rest => toUtf8Loop used rest
  | 0, unit :: rest =>
      if isHighSurrogate unit then
        match rest.head? with
        | some low =>
            if isLowSurrogate low then
              utf8Octets (0x10000 + (unit.toNat - 0xD800) * 1024 +
                (low.toNat - 0xDC00)) ++ toUtf8Loop 1 rest
            else
              0x3F :: toUtf8Loop 0 rest
        | none => 0x3F :: toUtf8Loop 0 rest
      else if isLowSurrogate unit then
        0x3F :: toUtf8Loop 0 rest
      else
        utf8Octets unit.toNat ++ toUtf8Loop 0 rest

/-- `QString::toUtf8`. -/
def toUtf8 (text : QString) : QByteArray := toUtf8Loop 0 text

theorem utf8Octets_ne_nil (codePoint : ℕ) : utf8Octets codePoint ≠ [] := by
  unfold utf8Octets
  split_ifs <;> exact List.cons_ne_nil _ _

/-- Every text but the empty one has octets. -/
theorem toUtf8_ne_nil {text : QString} (nonempty : text ≠ []) :
    toUtf8 text ≠ [] := by
  cases text with
  | nil => exact absurd rfl nonempty
  | cons unit rest =>
      rw [toUtf8, toUtf8Loop]
      split_ifs
      · split
        · split_ifs
          · exact List.append_ne_nil_of_left_ne_nil (utf8Octets_ne_nil _) _
          · exact List.cons_ne_nil _ _
        · exact List.cons_ne_nil _ _
      · exact List.cons_ne_nil _ _
      · exact List.append_ne_nil_of_left_ne_nil (utf8Octets_ne_nil _) _

theorem toUtf8_eq_nil_iff {text : QString} : toUtf8 text = [] ↔ text = [] := by
  constructor
  · intro empty
    by_contra nonempty
    exact toUtf8_ne_nil nonempty empty
  · rintro rfl
    rfl

/-- Code units of one code point. -/
def utf16Units (codePoint : ℕ) : QString :=
  if codePoint < 0x10000 then
    [UInt16.ofNat codePoint]
  else
    [UInt16.ofNat (0xD800 + (codePoint - 0x10000) / 1024),
      UInt16.ofNat (0xDC00 + (codePoint - 0x10000) % 1024)]

def isContinuation (octet : UInt8) : Bool :=
  0x80 ≤ octet.toNat && octet.toNat < 0xC0

/-- The code point made of the payload of a lead octet and of `count`
continuation octets, unless it is overlong, a surrogate or out of range. -/
def continueSequence
    (count payload least : ℕ)
    (rest : QByteArray) : Option (ℕ × ℕ) :=
  let tail := rest.take count
  let codePoint := tail.foldl
    (fun value octet => value * 64 + octet.toNat % 64) payload
  if tail.length = count ∧
      tail.all isContinuation ∧
      least ≤ codePoint ∧ codePoint ≤ 0x10FFFF ∧
      ¬(0xD800 ≤ codePoint ∧ codePoint < 0xE000) then
    some (codePoint, count)
  else
    none

/-- Decode the sequence started by a non-ASCII octet: its code point and the
number of continuation octets it uses. -/
def decodeSequence
    (lead : UInt8)
    (rest : QByteArray) : Option (ℕ × ℕ) :=
  if lead.toNat < 0xC2 then none
  else if lead.toNat < 0xE0 then
    continueSequence 1 (lead.toNat - 0xC0) 0x80 rest
  else if lead.toNat < 0xF0 then
    continueSequence 2 (lead.toNat - 0xE0) 0x800 rest
  else if lead.toNat < 0xF5 then
    continueSequence 3 (lead.toNat - 0xF0) 0x10000 rest
  else none

/-- Decoding loop; the first argument counts the continuation octets that the
sequence decoded last has already used. -/
def fromUtf8Loop : ℕ → QByteArray → QString
  | _, [] => []
  | used + 1, _ :: rest => fromUtf8Loop used rest
  | 0, octet :: rest =>
      if octet.toNat < 0x80 then
        UInt16.ofNat octet.toNat :: fromUtf8Loop 0 rest
      else
        match decodeSequence octet rest with
        | some (codePoint, count) =>
            utf16Units codePoint ++ fromUtf8Loop count rest
        | none => 0xFFFD :: fromUtf8Loop 0 rest

/-- `QString::fromUtf8`. -/
def fromUtf8 (bytes : QByteArray) : QString :=
  match bytes with
  | 0xEF :: 0xBB :: 0xBF :: rest => fromUtf8Loop 0 rest
  | _ => fromUtf8Loop 0 bytes

/-- `QString::fromLatin1`. -/
def fromLatin1 (bytes : QByteArray) : QString :=
  bytes.map fun octet => UInt16.ofNat octet.toNat

/-! ## ASCII text

Base-64 and hexadecimal texts are ASCII, where both conversions only change
the width of the code units. -/

def IsAscii (bytes : QByteArray) : Prop :=
  ∀ octet ∈ bytes, octet.toNat < 0x80

theorem fromUtf8Loop_ascii
    {bytes : QByteArray}
    (ascii : IsAscii bytes) :
    fromUtf8Loop 0 bytes =
      bytes.map fun octet => UInt16.ofNat octet.toNat := by
  induction bytes with
  | nil => rfl
  | cons octet rest inductionHypothesis =>
      obtain ⟨octetAscii, restAscii⟩ := List.forall_mem_cons.mp ascii
      rw [fromUtf8Loop, if_pos octetAscii, inductionHypothesis restAscii,
        List.map_cons]

theorem fromUtf8_ascii
    {bytes : QByteArray}
    (ascii : IsAscii bytes) :
    fromUtf8 bytes = bytes.map fun octet => UInt16.ofNat octet.toNat := by
  unfold fromUtf8
  split
  · exact absurd (ascii 0xEF List.mem_cons_self) (by decide)
  · exact fromUtf8Loop_ascii ascii

theorem toUtf8_cons_ascii
    {unit : UInt16} (rest : QString)
    (ascii : unit.toNat < 0x80) :
    toUtf8 (unit :: rest) = UInt8.ofNat unit.toNat :: toUtf8 rest := by
  have notHigh : isHighSurrogate unit = false := by
    simp only [isHighSurrogate, Bool.and_eq_false_iff, decide_eq_false_iff_not]
    omega
  have notLow : isLowSurrogate unit = false := by
    simp only [isLowSurrogate, Bool.and_eq_false_iff, decide_eq_false_iff_not]
    omega
  simp [toUtf8, toUtf8Loop, notHigh, notLow, utf8Octets, ascii]

/-- ASCII bytes read as text and written back are unchanged. -/
theorem toUtf8_fromUtf8_ascii
    {bytes : QByteArray}
    (ascii : IsAscii bytes) :
    toUtf8 (fromUtf8 bytes) = bytes := by
  rw [fromUtf8_ascii ascii]
  induction bytes with
  | nil => rfl
  | cons octet rest inductionHypothesis =>
      obtain ⟨octetAscii, restAscii⟩ := List.forall_mem_cons.mp ascii
      have width : (UInt16.ofNat octet.toNat).toNat = octet.toNat :=
        UInt16.toNat_ofNat_of_lt' (show _ < 65536 by omega)
      rw [List.map_cons, toUtf8_cons_ascii _ (by omega), width,
        UInt8.ofNat_toNat, inductionHypothesis restAscii]

end Qt
end VoxDesktop
