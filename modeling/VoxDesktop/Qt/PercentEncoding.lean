import VoxDesktop.Qt.Text

/-!
# Percent encoding

An escape in a URL is a percent sign before two hexadecimal digits.  Decoding
replaces each escape by its octet and keeps every other octet, so a byte string
is its own decoding exactly if there is no escape in it.

A text with a percent sign that begins no escape is no URL.  `QUrl` corrects it
in its tolerant mode: it takes every percent sign of the text for itself.
-/

namespace VoxDesktop
namespace Qt

/-- The value of a hexadecimal digit of either case. -/
def hexDigitValue (digit : UInt8) : Option ℕ :=
  if 0x30 ≤ digit.toNat ∧ digit.toNat < 0x3A then some (digit.toNat - 0x30)
  else if 0x41 ≤ digit.toNat ∧ digit.toNat < 0x47 then
    some (digit.toNat - 0x37)
  else if 0x61 ≤ digit.toNat ∧ digit.toNat < 0x67 then
    some (digit.toNat - 0x57)
  else none

/-- The octet that an escape stands for, if an octet and what follows it begin
with an escape. -/
def escapedOctet (octet : UInt8) (rest : QByteArray) : Option UInt8 :=
  if octet = 0x25 then
    match rest with
    | high :: low :: _ =>
        (hexDigitValue high).bind fun high =>
          (hexDigitValue low).map fun low => UInt8.ofNat (16 * high + low)
    | _ => none
  else none

/-- Decoding loop; the first argument counts the digits that the escape
decoded last has already used. -/
def percentDecodeLoop : ℕ → QByteArray → QByteArray
  | _, [] => []
  | used + 1, _ :: rest => percentDecodeLoop used rest
  | 0, octet :: rest =>
      match escapedOctet octet rest with
      | some decoded => decoded :: percentDecodeLoop 2 rest
      | none => octet :: percentDecodeLoop 0 rest

/-- The octets that the receiver of a component reads, each escape by
itself. -/
def percentDecode (bytes : QByteArray) : QByteArray :=
  percentDecodeLoop 0 bytes

/-- Some octet begins an escape. -/
def hasEscape : QByteArray → Bool
  | [] => false
  | octet :: rest => (escapedOctet octet rest).isSome || hasEscape rest

theorem two_le_length_of_escapedOctet
    {octet decoded : UInt8} {rest : QByteArray}
    (escape : escapedOctet octet rest = some decoded) :
    2 ≤ rest.length := by
  unfold escapedOctet at escape
  split at escape
  · split at escape
    · simp
    · cases escape
  · cases escape

theorem length_percentDecodeLoop_le (used : ℕ) (bytes : QByteArray) :
    (percentDecodeLoop used bytes).length ≤ bytes.length - used := by
  induction bytes generalizing used with
  | nil => simp [percentDecodeLoop]
  | cons octet rest inductionHypothesis =>
      cases used with
      | succ used =>
          have shorter := inductionHypothesis used
          simp only [percentDecodeLoop, List.length_cons]
          omega
      | zero =>
          rw [percentDecodeLoop]
          split
          · have shorter := inductionHypothesis 2
            simp only [List.length_cons]
            omega
          · have shorter := inductionHypothesis 0
            simp only [List.length_cons]
            omega

theorem percentDecode_of_no_escape
    {bytes : QByteArray} (plain : hasEscape bytes = false) :
    percentDecode bytes = bytes := by
  induction bytes with
  | nil => rfl
  | cons octet rest inductionHypothesis =>
      rw [hasEscape, Bool.or_eq_false_iff, Option.isSome_eq_false_iff,
        Option.isNone_iff_eq_none] at plain
      rw [percentDecode] at inductionHypothesis
      simp only [percentDecode, percentDecodeLoop, plain.1,
        inductionHypothesis plain.2]

/-- An escape makes three octets one. -/
theorem length_percentDecode_lt
    {bytes : QByteArray} (escaped : hasEscape bytes = true) :
    (percentDecode bytes).length < bytes.length := by
  induction bytes with
  | nil => cases escaped
  | cons octet rest inductionHypothesis =>
      rw [percentDecode, percentDecodeLoop]
      split
      · rename_i decoded escape
        have room := two_le_length_of_escapedOctet escape
        have shorter := length_percentDecodeLoop_le 2 rest
        simp only [List.length_cons]
        omega
      · rename_i plain
        rw [hasEscape, plain, Option.isSome_none, Bool.false_or] at escaped
        exact Nat.succ_lt_succ (inductionHypothesis escaped)

theorem percentDecode_eq_self_iff (bytes : QByteArray) :
    percentDecode bytes = bytes ↔ hasEscape bytes = false := by
  refine ⟨fun unchanged => ?_, percentDecode_of_no_escape⟩
  cases escaped : hasEscape bytes with
  | false => rfl
  | true =>
      have shorter := length_percentDecode_lt escaped
      rw [unchanged] at shorter
      exact absurd shorter (Nat.lt_irrefl _)

/-! ## Correction -/

def isHexDigitUnit (unit : UInt16) : Bool :=
  decide (unit.toNat < 0x80) &&
    (hexDigitValue (UInt8.ofNat unit.toNat)).isSome

/-- A code unit is a percent sign, and no escape begins in it. -/
def isLonePercent (unit : UInt16) (rest : QString) : Bool :=
  decide (unit = 0x25) &&
    match rest with
    | high :: low :: _ => !(isHexDigitUnit high && isHexDigitUnit low)
    | _ => true

def hasLonePercent : QString → Bool
  | [] => false
  | unit :: rest => isLonePercent unit rest || hasLonePercent rest

/-- What the receiver reads in a component of a URL that `QUrl` parses in its
tolerant mode: one lone percent sign makes `QUrl` escape all of them. -/
def readInUrl (url component : QString) : QByteArray :=
  if hasLonePercent url then toUtf8 component
  else percentDecode (toUtf8 component)

theorem readInUrl_eq_iff (url component : QString) :
    readInUrl url component = toUtf8 component ↔
      hasLonePercent url = true ∨ hasEscape (toUtf8 component) = false := by
  rw [readInUrl]
  cases hasLonePercent url with
  | true => simp
  | false => simp [percentDecode_eq_self_iff]

/-- A slash ends what could be an escape. -/
theorem isLonePercent_append_slash (unit : UInt16) (rest after : QString) :
    isLonePercent unit (rest ++ 0x2F :: after) = isLonePercent unit rest := by
  have noDigit : isHexDigitUnit 0x2F = false := by decide
  match rest with
  | [] => cases after <;> simp [isLonePercent, noDigit]
  | [high] => simp [isLonePercent, noDigit]
  | high :: low :: rest => rfl

theorem hasLonePercent_append_slash (before after : QString) :
    hasLonePercent (before ++ 0x2F :: after) =
      (hasLonePercent before || hasLonePercent after) := by
  induction before with
  | nil => simp [hasLonePercent, isLonePercent]
  | cons unit before inductionHypothesis =>
      rw [List.cons_append, hasLonePercent, isLonePercent_append_slash,
        inductionHypothesis, hasLonePercent, Bool.or_assoc]

end Qt
end VoxDesktop
