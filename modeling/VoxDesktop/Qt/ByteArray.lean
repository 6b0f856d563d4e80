import VoxDesktop.Library.Radix64
import VoxDesktop.Qt.Text

/-!
# Byte string formatting

The `QByteArray` operations the client uses to format numbers and binary data:
decimal numbers, lower-case hexadecimal and base-64 in the standard and the
URL-safe alphabet.
-/

namespace VoxDesktop
namespace Qt

/-! ## Decimal numbers -/

/-- `QByteArray::number(int)`. -/
def number (value : ℤ) : QByteArray :=
  (if value < 0 then [0x2D] else []) ++
    (Nat.toDigits 10 value.natAbs).map fun digit => UInt8.ofNat digit.toNat

theorem number_ne_nil (value : ℤ) : number value ≠ [] := by
  intro empty
  rw [number, List.append_eq_nil_iff, List.map_eq_nil_iff] at empty
  exact Nat.toDigits_ne_nil empty.2

/-- `QString::number(int)`. -/
def QString.number (value : ℤ) : QString :=
  (Qt.number value).map UInt8.toUInt16

private theorem ofNat_toNat_digit
    {digit : Char}
    (isDigit : digit.isDigit) :
    Char.ofNat (UInt8.ofNat digit.toNat).toNat = digit := by
  have bound : digit.toNat < 2 ^ 8 := by
    simp only [Char.isDigit, Bool.and_eq_true, decide_eq_true_eq] at isDigit
    have upper : digit.val.toNat ≤ 57 :=
      UInt32.le_iff_toNat_le.mp isDigit.2
    exact lt_of_le_of_lt upper (by decide)
  rw [UInt8.toNat_ofNat', Nat.mod_eq_of_lt bound, Char.ofNat_toNat]

/-- The natural number written by decimal digits. -/
def toNatural (digits : QByteArray) : ℕ :=
  Nat.ofDigitChars 10 (digits.map fun octet => Char.ofNat octet.toNat) 0

theorem number_natCast (value : ℕ) :
    number value =
      (Nat.toDigits 10 value).map fun digit => UInt8.ofNat digit.toNat := by
  have nonneg : ¬((value : ℤ) < 0) := by omega
  simp only [number, nonneg, if_false, List.nil_append, Int.natAbs_natCast]

/-- Decimal forms are read back. -/
theorem toNatural_number (value : ℕ) : toNatural (number value) = value := by
  have restored :
      ((Nat.toDigits 10 value).map
        fun digit => UInt8.ofNat digit.toNat).map
          (fun octet : UInt8 => Char.ofNat octet.toNat) =
        Nat.toDigits 10 value := by
    rw [List.map_map]
    refine (List.map_congr_left ?_).trans (List.map_id _)
    intro digit member
    exact ofNat_toNat_digit
      (Nat.isDigit_of_mem_toDigits (by decide) (by decide) member)
  rw [toNatural, number_natCast, restored]
  simp

/-- Distinct natural numbers have distinct decimal forms. -/
theorem number_natCast_injective :
    Function.Injective fun value : ℕ => number value :=
  Function.LeftInverse.injective toNatural_number

/-! ## Hexadecimal -/

def hexDigit (value : ℕ) : UInt8 :=
  UInt8.ofNat (if value < 10 then 0x30 + value else 0x61 + (value - 10))

/-- `QByteArray::toHex`: two lower-case digits an octet. -/
def toHex (bytes : QByteArray) : QByteArray :=
  bytes.flatMap fun octet =>
    [hexDigit (octet.toNat / 16), hexDigit (octet.toNat % 16)]

/-! ## Base-64 -/

/-- `QByteArray::Base64Options`. -/
structure Base64Options where
  base64UrlEncoding : Bool
  omitTrailingEquals : Bool

/-- Letter of a sextet in the selected alphabet. -/
def base64Letter (urlEncoding : Bool) (sextet : ℕ) : UInt8 :=
  UInt8.ofNat <|
    if sextet < 26 then 0x41 + sextet
    else if sextet < 52 then 0x61 + (sextet - 26)
    else if sextet < 62 then 0x30 + (sextet - 52)
    else if sextet = 62 then (if urlEncoding then 0x2D else 0x2B)
    else (if urlEncoding then 0x5F else 0x2F)

/-- Sextet of a letter; nothing for an octet outside the alphabet, which the
decoder skips. -/
def base64Sextet (urlEncoding : Bool) (letter : UInt8) : Option ℕ :=
  let code := letter.toNat
  if 0x41 ≤ code ∧ code ≤ 0x5A then some (code - 0x41)
  else if 0x61 ≤ code ∧ code ≤ 0x7A then some (code - 0x61 + 26)
  else if 0x30 ≤ code ∧ code ≤ 0x39 then some (code - 0x30 + 52)
  else if code = (if urlEncoding then 0x2D else 0x2B) then some 62
  else if code = (if urlEncoding then 0x5F else 0x2F) then some 63
  else none

/-- `QByteArray::toBase64`. -/
def toBase64 (options : Base64Options) (bytes : QByteArray) : QByteArray :=
  (Library.Radix64.toSextets bytes).map
      (base64Letter options.base64UrlEncoding) ++
    if options.omitTrailingEquals then []
    else List.replicate ((3 - bytes.length % 3) % 3) 0x3D

/-- `QByteArray::fromBase64` with errors ignored. -/
def fromBase64 (urlEncoding : Bool) (text : QByteArray) : QByteArray :=
  Library.Radix64.ofSextets (text.filterMap (base64Sextet urlEncoding))

theorem base64Sextet_letter (urlEncoding : Bool) :
    ∀ sextet < 64,
      base64Sextet urlEncoding (base64Letter urlEncoding sextet) =
        some sextet := by
  cases urlEncoding <;> decide

theorem base64Letter_ascii (urlEncoding : Bool) :
    ∀ sextet < 64, (base64Letter urlEncoding sextet).toNat < 0x80 := by
  cases urlEncoding <;> decide

theorem base64Sextet_equals (urlEncoding : Bool) :
    base64Sextet urlEncoding 0x3D = none := by
  cases urlEncoding <;> rfl

/-- Decoding undoes encoding in the same alphabet, padded or not. -/
@[simp] theorem fromBase64_toBase64
    (options : Base64Options)
    (bytes : QByteArray) :
    fromBase64 options.base64UrlEncoding (toBase64 options bytes) =
      bytes := by
  have letters :
      ((Library.Radix64.toSextets bytes).map
        (base64Letter options.base64UrlEncoding)).filterMap
          (base64Sextet options.base64UrlEncoding) =
        Library.Radix64.toSextets bytes := by
    rw [List.filterMap_map]
    refine (List.filterMap_congr ?_).trans List.filterMap_some
    intro sextet member
    exact base64Sextet_letter _ sextet
      (Library.Radix64.toSextets_lt bytes sextet member)
  have padding : ∀ count : ℕ,
      (List.replicate count (0x3D : UInt8)).filterMap
        (base64Sextet options.base64UrlEncoding) = [] := by
    intro count
    simp [base64Sextet_equals]
  unfold fromBase64 toBase64
  rw [List.filterMap_append, letters]
  split
  · rw [List.filterMap_nil, List.append_nil,
      Library.Radix64.ofSextets_toSextets]
  · rw [padding, List.append_nil, Library.Radix64.ofSextets_toSextets]

theorem toBase64_ascii
    (options : Base64Options)
    (bytes : QByteArray) :
    IsAscii (toBase64 options bytes) := by
  intro octet member
  rcases List.mem_append.mp member with letter | equals
  · obtain ⟨sextet, sextetMember, rfl⟩ := List.mem_map.mp letter
    exact base64Letter_ascii _ sextet
      (Library.Radix64.toSextets_lt bytes sextet sextetMember)
  · split at equals
    · exact absurd equals List.not_mem_nil
    · rw [List.eq_of_mem_replicate equals]
      decide

/-- Bytes that travel as base-64 text come back. -/
@[simp] theorem fromBase64_text
    (options : Base64Options)
    (bytes : QByteArray) :
    fromBase64 options.base64UrlEncoding
        (toUtf8 (fromUtf8 (toBase64 options bytes))) = bytes := by
  rw [toUtf8_fromUtf8_ascii (toBase64_ascii options bytes),
    fromBase64_toBase64]

example :
    toBase64 ⟨false, false⟩ (QByteArray.literal "Vox!") =
      QByteArray.literal "Vm94IQ==" := by decide

end Qt
end VoxDesktop
