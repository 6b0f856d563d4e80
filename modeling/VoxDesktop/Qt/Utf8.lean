import VoxDesktop.Qt.Text

/-!
# Byte strings that are UTF-8

A byte string survives being read as text and written back exactly if it is
the encoding of code points and does not begin with a byte order mark.
Reading always gives the units of code points, so whatever is written back is
UTF-8; and a byte order mark is dropped.
-/

namespace VoxDesktop
namespace Qt

/-- A code point that is no surrogate. -/
def IsScalar (codePoint : ℕ) : Prop :=
  codePoint ≤ 0x10FFFF ∧ ¬(0xD800 ≤ codePoint ∧ codePoint < 0xE000)

/-- The octets of some code points, one after the other. -/
def IsUtf8 (bytes : QByteArray) : Prop :=
  ∃ codePoints : List ℕ,
    (∀ codePoint ∈ codePoints, IsScalar codePoint) ∧
      bytes = codePoints.flatMap utf8Octets

/-- A well-formed text: the units of some code points. -/
def IsUtf16 (text : QString) : Prop :=
  ∃ codePoints : List ℕ,
    (∀ codePoint ∈ codePoints, IsScalar codePoint) ∧
      text = codePoints.flatMap utf16Units

def byteOrderMark : QByteArray := [0xEF, 0xBB, 0xBF]

section CodePoints

variable {codePoint : ℕ}

/-- The units of a code point are written as its octets. -/
theorem toUtf8Loop_utf16Units
    (scalar : IsScalar codePoint) (units : QString) :
    toUtf8Loop 0 (utf16Units codePoint ++ units) =
      utf8Octets codePoint ++ toUtf8Loop 0 units := by
  obtain ⟨bound, notSurrogate⟩ := scalar
  rw [utf16Units]
  split
  · rename_i small
    have unit : (UInt16.ofNat codePoint).toNat = codePoint :=
      UInt16.toNat_ofNat_of_lt' (show _ < 65536 by omega)
    have notHigh : isHighSurrogate (UInt16.ofNat codePoint) = false := by
      simp only [isHighSurrogate, unit, Bool.and_eq_false_iff,
        decide_eq_false_iff_not]
      omega
    have notLow : isLowSurrogate (UInt16.ofNat codePoint) = false := by
      simp only [isLowSurrogate, unit, Bool.and_eq_false_iff,
        decide_eq_false_iff_not]
      omega
    simp only [List.cons_append, List.nil_append, toUtf8Loop, notHigh,
      notLow, Bool.false_eq_true, if_false, unit]
  · rename_i large
    have high :
        (UInt16.ofNat (0xD800 + (codePoint - 0x10000) / 1024)).toNat =
          0xD800 + (codePoint - 0x10000) / 1024 :=
      UInt16.toNat_ofNat_of_lt' (show _ < 65536 by omega)
    have low :
        (UInt16.ofNat (0xDC00 + (codePoint - 0x10000) % 1024)).toNat =
          0xDC00 + (codePoint - 0x10000) % 1024 :=
      UInt16.toNat_ofNat_of_lt' (show _ < 65536 by omega)
    have isHigh :
        isHighSurrogate
          (UInt16.ofNat (0xD800 + (codePoint - 0x10000) / 1024)) = true := by
      simp only [isHighSurrogate, high, Bool.and_eq_true, decide_eq_true_eq]
      omega
    have isLow :
        isLowSurrogate
          (UInt16.ofNat (0xDC00 + (codePoint - 0x10000) % 1024)) = true := by
      simp only [isLowSurrogate, low, Bool.and_eq_true, decide_eq_true_eq]
      omega
    have whole :
        0x10000 + (0xD800 + (codePoint - 0x10000) / 1024 - 0xD800) * 1024 +
            (0xDC00 + (codePoint - 0x10000) % 1024 - 0xDC00) =
          codePoint := by
      omega
    simp only [List.cons_append, List.nil_append, toUtf8Loop, isHigh, isLow,
      List.head?_cons, if_true, high, low, whole]

/-- The continuation octet with the low bits of a value. -/
def continuationOctet (value : ℕ) : UInt8 :=
  UInt8.ofNat (0x80 + value % 64)

theorem toNat_continuationOctet (value : ℕ) :
    (continuationOctet value).toNat = 0x80 + value % 64 :=
  UInt8.toNat_ofNat_of_lt' (show _ < 256 by omega)

theorem isContinuation_continuationOctet (value : ℕ) :
    isContinuation (continuationOctet value) = true := by
  simp only [isContinuation, toNat_continuationOctet, Bool.and_eq_true,
    decide_eq_true_eq]
  omega

/-- Continuation octets that complete a payload to a code point. -/
theorem continueSequence_octets
    {payload least : ℕ} (values : List ℕ)
    (scalar : IsScalar codePoint)
    (completes :
      values.foldl (fun total value => total * 64 + value % 64) payload =
        codePoint)
    (notOverlong : least ≤ codePoint) (bytes : QByteArray) :
    continueSequence values.length payload least
        (values.map continuationOctet ++ bytes) =
      some (codePoint, values.length) := by
  have size : (values.map continuationOctet).length = values.length :=
    List.length_map _
  have total :
      (values.map continuationOctet).foldl
          (fun total octet => total * 64 + octet.toNat % 64) payload =
        codePoint := by
    have bits : ∀ value : ℕ, (0x80 + value % 64) % 64 = value % 64 := by
      omega
    simp only [List.foldl_map, toNat_continuationOctet, bits, completes]
  have continuations :
      (values.map continuationOctet).all isContinuation = true := by
    rw [List.all_map, List.all_eq_true]
    exact fun value _ => isContinuation_continuationOctet value
  unfold continueSequence
  dsimp only
  rw [List.take_left' size, total]
  exact if_pos ⟨size, continuations, notOverlong, scalar.1, scalar.2⟩

/-- Continuation octets that a sequence has used are skipped. -/
theorem fromUtf8Loop_used (octets bytes : QByteArray) :
    fromUtf8Loop octets.length (octets ++ bytes) = fromUtf8Loop 0 bytes := by
  induction octets with
  | nil => rfl
  | cons octet octets inductionHypothesis => exact inductionHypothesis

/-- A lead octet and its continuation octets are read as one code point. -/
theorem fromUtf8Loop_sequence
    {lead : UInt8} {bytes : QByteArray} (values : List ℕ)
    (notAscii : ¬lead.toNat < 0x80)
    (decoded :
      decodeSequence lead (values.map continuationOctet ++ bytes) =
        some (codePoint, values.length)) :
    fromUtf8Loop 0 (lead :: values.map continuationOctet ++ bytes) =
      utf16Units codePoint ++ fromUtf8Loop 0 bytes := by
  rw [List.cons_append, fromUtf8Loop, if_neg notAscii, decoded]
  dsimp only
  rw [← fromUtf8Loop_used (values.map continuationOctet) bytes,
    List.length_map]

/-- The octets of a code point are read as its units. -/
theorem fromUtf8Loop_utf8Octets
    (scalar : IsScalar codePoint) (bytes : QByteArray) :
    fromUtf8Loop 0 (utf8Octets codePoint ++ bytes) =
      utf16Units codePoint ++ fromUtf8Loop 0 bytes := by
  have bound := scalar.1
  rw [utf8Octets]
  split
  · rename_i ascii
    rw [List.singleton_append, fromUtf8Loop,
      UInt8.toNat_ofNat_of_lt' (show codePoint < 256 by omega), if_pos ascii,
      utf16Units, if_pos (by omega)]
    rfl
  split
  · have lead : (UInt8.ofNat (0xC0 + codePoint / 64)).toNat =
        0xC0 + codePoint / 64 :=
      UInt8.toNat_ofNat_of_lt' (show _ < 256 by omega)
    refine fromUtf8Loop_sequence [codePoint] (by rw [lead]; omega) ?_
    rw [decodeSequence, lead, if_neg (by omega), if_pos (by omega),
      Nat.add_sub_cancel_left]
    exact continueSequence_octets [codePoint] scalar
      (by simp only [List.foldl]; omega) (by omega) bytes
  split
  · have lead : (UInt8.ofNat (0xE0 + codePoint / 4096)).toNat =
        0xE0 + codePoint / 4096 :=
      UInt8.toNat_ofNat_of_lt' (show _ < 256 by omega)
    refine fromUtf8Loop_sequence [codePoint / 64, codePoint]
      (by rw [lead]; omega) ?_
    rw [decodeSequence, lead, if_neg (by omega), if_neg (by omega),
      if_pos (by omega), Nat.add_sub_cancel_left]
    exact continueSequence_octets [codePoint / 64, codePoint] scalar
      (by simp only [List.foldl]; omega) (by omega) bytes
  · have lead : (UInt8.ofNat (0xF0 + codePoint / 262144)).toNat =
        0xF0 + codePoint / 262144 :=
      UInt8.toNat_ofNat_of_lt' (show _ < 256 by omega)
    refine fromUtf8Loop_sequence
      [codePoint / 4096, codePoint / 64, codePoint]
      (by rw [lead]; omega) ?_
    rw [decodeSequence, lead, if_neg (by omega), if_neg (by omega),
      if_neg (by omega), if_pos (by omega), Nat.add_sub_cancel_left]
    exact continueSequence_octets
      [codePoint / 4096, codePoint / 64, codePoint] scalar
      (by simp only [List.foldl]; omega) (by omega) bytes

/-- What a sequence decodes to is no surrogate. -/
theorem decodeSequence_isScalar
    {lead : UInt8} {rest : QByteArray} {count : ℕ}
    (decoded : decodeSequence lead rest = some (codePoint, count)) :
    IsScalar codePoint := by
  have continued : ∀ {length payload least : ℕ},
      continueSequence length payload least rest =
        some (codePoint, count) → IsScalar codePoint := by
    intro length payload least found
    rw [continueSequence] at found
    split at found
    · rename_i valid
      obtain ⟨rfl, -⟩ := Prod.mk.inj (Option.some.inj found)
      obtain ⟨-, -, -, bound, notSurrogate⟩ := valid
      exact ⟨bound, notSurrogate⟩
    · cases found
  rw [decodeSequence] at decoded
  split at decoded
  · cases decoded
  split at decoded
  · exact continued decoded
  split at decoded
  · exact continued decoded
  split at decoded
  · exact continued decoded
  · cases decoded

end CodePoints

/-! ## Whole texts -/

section Texts

variable {codePoints : List ℕ}

theorem toUtf8Loop_flatMap
    (scalars : ∀ codePoint ∈ codePoints, IsScalar codePoint) :
    toUtf8Loop 0 (codePoints.flatMap utf16Units) =
      codePoints.flatMap utf8Octets := by
  induction codePoints with
  | nil => rfl
  | cons codePoint rest inductionHypothesis =>
      obtain ⟨scalar, scalarsRest⟩ := List.forall_mem_cons.mp scalars
      rw [List.flatMap_cons, List.flatMap_cons,
        toUtf8Loop_utf16Units scalar, inductionHypothesis scalarsRest]

theorem fromUtf8Loop_flatMap
    (scalars : ∀ codePoint ∈ codePoints, IsScalar codePoint) :
    fromUtf8Loop 0 (codePoints.flatMap utf8Octets) =
      codePoints.flatMap utf16Units := by
  induction codePoints with
  | nil => rfl
  | cons codePoint rest inductionHypothesis =>
      obtain ⟨scalar, scalarsRest⟩ := List.forall_mem_cons.mp scalars
      rw [List.flatMap_cons, List.flatMap_cons,
        fromUtf8Loop_utf8Octets scalar, inductionHypothesis scalarsRest]

/-- A well-formed text is what the decoding loop makes of its octets. -/
theorem fromUtf8Loop_toUtf8
    {text : QString} (wellFormed : IsUtf16 text) :
    fromUtf8Loop 0 (toUtf8 text) = text := by
  obtain ⟨codePoints, scalars, rfl⟩ := wellFormed
  rw [toUtf8, toUtf8Loop_flatMap scalars, fromUtf8Loop_flatMap scalars]

/-- Any octets are read as the units of code points. -/
theorem exists_fromUtf8Loop_eq (used : ℕ) (bytes : QByteArray) :
    ∃ codePoints : List ℕ,
      (∀ codePoint ∈ codePoints, IsScalar codePoint) ∧
        fromUtf8Loop used bytes = codePoints.flatMap utf16Units := by
  induction bytes generalizing used with
  | nil => exact ⟨[], by simp, by rw [fromUtf8Loop]; rfl⟩
  | cons octet rest inductionHypothesis =>
      cases used with
      | succ used => exact inductionHypothesis used
      | zero =>
          rw [fromUtf8Loop]
          split
          · rename_i ascii
            obtain ⟨codePoints, scalars, decoded⟩ := inductionHypothesis 0
            refine ⟨octet.toNat :: codePoints,
              List.forall_mem_cons.mpr ⟨⟨by omega, by omega⟩, scalars⟩, ?_⟩
            rw [List.flatMap_cons, decoded, utf16Units, if_pos (by omega)]
            rfl
          split
          · rename_i codePoint count decodedLead
            obtain ⟨codePoints, scalars, decoded⟩ :=
              inductionHypothesis count
            refine ⟨codePoint :: codePoints, List.forall_mem_cons.mpr
              ⟨decodeSequence_isScalar decodedLead, scalars⟩, ?_⟩
            rw [List.flatMap_cons, decoded]
          · obtain ⟨codePoints, scalars, decoded⟩ := inductionHypothesis 0
            refine ⟨0xFFFD :: codePoints, List.forall_mem_cons.mpr
              ⟨⟨by decide, by decide⟩, scalars⟩, ?_⟩
            rw [List.flatMap_cons, decoded]
            rfl

/-- Without a byte order mark the octets are decoded from the first on. -/
theorem fromUtf8_of_noMark
    {bytes : QByteArray} (noMark : ¬byteOrderMark <+: bytes) :
    fromUtf8 bytes = fromUtf8Loop 0 bytes := by
  unfold fromUtf8
  split
  · rename_i rest
    exact absurd (List.prefix_append byteOrderMark rest) noMark
  · rfl

/-- A byte order mark in front of other octets is a code point of its own to
the decoding loop. -/
theorem fromUtf8Loop_byteOrderMark (rest : QByteArray) :
    fromUtf8Loop 0 (byteOrderMark ++ rest) =
      0xFEFF :: fromUtf8Loop 0 rest :=
  @fromUtf8Loop_utf8Octets 0xFEFF ⟨by decide, by decide⟩ rest

/-- A byte order mark in front of a text is written as its octets. -/
theorem toUtf8_byteOrderMark (rest : QString) :
    toUtf8 (0xFEFF :: rest) = byteOrderMark ++ toUtf8 rest :=
  @toUtf8Loop_utf16Units 0xFEFF ⟨by decide, by decide⟩ rest

/-- A well-formed text is read back from its octets unless it begins with a
byte order mark. -/
theorem fromUtf8_toUtf8_iff
    {text : QString} (wellFormed : IsUtf16 text) :
    fromUtf8 (toUtf8 text) = text ↔ text.head? ≠ some 0xFEFF := by
  constructor
  · intro readBack marked
    obtain ⟨rest, rfl⟩ := List.head?_eq_some_iff.mp marked
    have markDropped :
        fromUtf8 (toUtf8 (0xFEFF :: rest)) = fromUtf8Loop 0 (toUtf8 rest) := by
      rw [toUtf8_byteOrderMark]
      rfl
    have readFully := fromUtf8Loop_toUtf8 wellFormed
    rw [toUtf8_byteOrderMark, fromUtf8Loop_byteOrderMark,
      ← markDropped, readBack] at readFully
    exact List.cons_ne_self _ _ readFully
  · intro unmarked
    rw [fromUtf8_of_noMark, fromUtf8Loop_toUtf8 wellFormed]
    rintro ⟨rest, marked⟩
    have readFully := fromUtf8Loop_toUtf8 wellFormed
    rw [← marked, fromUtf8Loop_byteOrderMark] at readFully
    exact unmarked (readFully ▸ rfl)

/-- Octets are read and written back unchanged exactly if they are UTF-8 and
do not begin with a byte order mark. -/
theorem toUtf8_fromUtf8_iff (bytes : QByteArray) :
    toUtf8 (fromUtf8 bytes) = bytes ↔
      IsUtf8 bytes ∧ ¬byteOrderMark <+: bytes := by
  constructor
  · intro unchanged
    obtain ⟨rest, read⟩ : ∃ rest, fromUtf8 bytes = fromUtf8Loop 0 rest := by
      unfold fromUtf8
      split
      · exact ⟨_, rfl⟩
      · exact ⟨_, rfl⟩
    obtain ⟨codePoints, scalars, decoded⟩ := exists_fromUtf8Loop_eq 0 rest
    have written : bytes = codePoints.flatMap utf8Octets := by
      rw [← toUtf8Loop_flatMap scalars, ← decoded, ← read]
      exact unchanged.symm
    refine ⟨⟨codePoints, scalars, written⟩, ?_⟩
    rintro ⟨afterMark, marked⟩
    -- The mark has been dropped, so it would have to be read again.
    have withMark : codePoints.flatMap utf16Units =
        0xFEFF :: fromUtf8Loop 0 afterMark := by
      rw [← fromUtf8Loop_byteOrderMark, marked, written,
        fromUtf8Loop_flatMap scalars]
    have withoutMark :
        codePoints.flatMap utf16Units = fromUtf8Loop 0 afterMark := by
      rw [← decoded, ← read, ← marked]
      rfl
    exact List.cons_ne_self _ _ (withMark.symm.trans withoutMark)
  · rintro ⟨⟨codePoints, scalars, written⟩, noMark⟩
    rw [fromUtf8_of_noMark noMark, written, fromUtf8Loop_flatMap scalars,
      toUtf8, toUtf8Loop_flatMap scalars]

/-- An overlong form and a surrogate are replaced octet by octet, and a mark
is dropped. -/
example :
    fromUtf8 [0xC0, 0x80] = [0xFFFD, 0xFFFD] ∧
      fromUtf8 [0xED, 0xA0, 0x80] = [0xFFFD, 0xFFFD, 0xFFFD] ∧
      fromUtf8 [0xEF, 0xBB, 0xBF, 0x61] = [0x61] := by
  decide

end Texts
end Qt
end VoxDesktop
