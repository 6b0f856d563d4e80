import Mathlib.Data.List.Sort
import VoxDesktop.Qt.ByteArray
import VoxDesktop.Qt.Json

/-!
# A reference instance of the document codec

An executable codec for flat objects: compact text with sorted keys, as Qt
writes it, except that every UTF-16 unit outside printable ASCII is written as
an escape.  It shows that the round trip asked of the codec parameter can be
met, and lets concrete files be evaluated.
-/

namespace VoxDesktop
namespace Qt
namespace ReferenceJson

/-! ## Strings -/

/-- Units written as themselves: printable ASCII but quote and backslash. -/
def isPlain (unit : UInt16) : Bool :=
  0x20 ≤ unit.toNat && unit.toNat < 0x7F && unit != 0x22 && unit != 0x5C

/-- The value of a hexadecimal digit. -/
def hexValue (digit : UInt8) : ℕ :=
  if digit.toNat < 0x3A then digit.toNat - 0x30 else digit.toNat - 0x57

def printUnit (unit : UInt16) : QByteArray :=
  if isPlain unit then [unit.toUInt8]
  else
    [0x5C, 0x75, hexDigit (unit.toNat / 4096),
      hexDigit (unit.toNat / 256 % 16), hexDigit (unit.toNat / 16 % 16),
      hexDigit (unit.toNat % 16)]

/-- A string with its closing quote. -/
def printString (text : QString) : QByteArray :=
  text.flatMap printUnit ++ [0x22]

/-- Read a string up to its closing quote. -/
def parseString : QByteArray → Option (QString × QByteArray)
  | [] => none
  | octet :: rest =>
      if octet = 0x22 then some ([], rest)
      else if octet = 0x5C then
        match rest with
        | _ :: first :: second :: third :: fourth :: rest =>
            (parseString rest).map fun parsed =>
              (UInt16.ofNat (hexValue first * 4096 + hexValue second * 256 +
                hexValue third * 16 + hexValue fourth) :: parsed.1, parsed.2)
        | _ => none
      else
        (parseString rest).map fun parsed =>
          (octet.toUInt16 :: parsed.1, parsed.2)

theorem parseString_quote (rest : QByteArray) :
    parseString (0x22 :: rest) = some ([], rest) := by
  rw [parseString.eq_def]
  rfl

theorem parseString_plain
    {octet : UInt8}
    (notQuote : octet ≠ 0x22)
    (notBackslash : octet ≠ 0x5C)
    (rest : QByteArray) :
    parseString (octet :: rest) =
      (parseString rest).map fun parsed =>
        (octet.toUInt16 :: parsed.1, parsed.2) := by
  rw [parseString.eq_def]
  simp only [if_neg notQuote, if_neg notBackslash]

theorem parseString_escape
    (marker first second third fourth : UInt8) (rest : QByteArray) :
    parseString
        (0x5C :: marker :: first :: second :: third :: fourth :: rest) =
      (parseString rest).map fun parsed =>
        (UInt16.ofNat (hexValue first * 4096 + hexValue second * 256 +
          hexValue third * 16 + hexValue fourth) :: parsed.1, parsed.2) := by
  rw [parseString.eq_def]
  rfl

theorem hexValue_hexDigit
    {value : ℕ}
    (isDigit : value < 16) :
    hexValue (hexDigit value) = value := by
  revert isDigit
  have all : ∀ digit : Fin 16, hexValue (hexDigit digit) = digit := by decide
  intro isDigit
  exact all ⟨value, isDigit⟩

theorem parseString_printUnit (unit : UInt16) (rest : QByteArray) :
    parseString (printUnit unit ++ rest) =
      (parseString rest).map fun parsed => (unit :: parsed.1, parsed.2) := by
  have bound : unit.toNat < 65536 := unit.toNat_lt
  by_cases plain : isPlain unit = true
  · have units := plain
    simp only [isPlain, Bool.and_eq_true, decide_eq_true_eq, bne_iff_ne,
      ne_eq] at units
    obtain ⟨⟨⟨_, below⟩, notQuote⟩, notBackslash⟩ := units
    have restored : unit.toUInt8.toUInt16 = unit := by
      apply UInt16.toNat_inj.mp
      simp only [UInt8.toNat_toUInt16, UInt16.toNat_toUInt8]
      omega
    have octetNotQuote : unit.toUInt8 ≠ 0x22 := by
      intro equal
      rw [equal] at restored
      exact notQuote restored.symm
    have octetNotBackslash : unit.toUInt8 ≠ 0x5C := by
      intro equal
      rw [equal] at restored
      exact notBackslash restored.symm
    rw [printUnit, if_pos plain, List.singleton_append,
      parseString_plain octetNotQuote octetNotBackslash, restored]
  · have restored :
        UInt16.ofNat (unit.toNat / 4096 * 4096 +
          unit.toNat / 256 % 16 * 256 + unit.toNat / 16 % 16 * 16 +
            unit.toNat % 16) = unit := by
      apply UInt16.toNat_inj.mp
      rw [UInt16.toNat_ofNat']
      omega
    rw [printUnit, if_neg plain]
    simp only [List.cons_append, List.nil_append, parseString_escape]
    rw [hexValue_hexDigit (by omega), hexValue_hexDigit (by omega),
      hexValue_hexDigit (by omega), hexValue_hexDigit (by omega), restored]

theorem parseString_printString (text : QString) (rest : QByteArray) :
    parseString (printString text ++ rest) = some (text, rest) := by
  induction text with
  | nil => exact parseString_quote rest
  | cons unit text inductionHypothesis =>
      simp only [printString, List.flatMap_cons, List.append_assoc]
        at inductionHypothesis ⊢
      rw [parseString_printUnit, inductionHypothesis]
      rfl

/-! ## Members -/

def printValue : QJsonValue → QByteArray
  | .string text => 0x22 :: printString text
  | .double value => number value.num
  | _ => []

def isDigit (octet : UInt8) : Bool :=
  0x30 ≤ octet.toNat && octet.toNat ≤ 0x39

/-- Read a string or a natural number. -/
def parseValue : QByteArray → Option (QJsonValue × QByteArray)
  | [] => none
  | octet :: rest =>
      if octet = 0x22 then
        (parseString rest).map fun parsed => (.string parsed.1, parsed.2)
      else
        some (.double (toNatural ((octet :: rest).takeWhile isDigit)),
          (octet :: rest).dropWhile isDigit)

theorem number_isDigit
    (natural : ℕ) :
    ∀ octet ∈ number natural, isDigit octet = true := by
  intro octet member
  rw [number_natCast] at member
  obtain ⟨digit, digitMember, rfl⟩ := List.mem_map.mp member
  have decimal :=
    Nat.isDigit_of_mem_toDigits (by decide) (by decide) digitMember
  simp only [Char.isDigit, Bool.and_eq_true, decide_eq_true_eq] at decimal
  have lower : 48 ≤ digit.val.toNat := UInt32.le_iff_toNat_le.mp decimal.1
  have upper : digit.val.toNat ≤ 57 := UInt32.le_iff_toNat_le.mp decimal.2
  have octetValue : (UInt8.ofNat digit.toNat).toNat = digit.val.toNat := by
    rw [UInt8.toNat_ofNat']
    exact Nat.mod_eq_of_lt (lt_of_le_of_lt upper (by decide))
  simp only [isDigit, octetValue, Bool.and_eq_true, decide_eq_true_eq]
  omega

/-- Members after the opening brace or a comma, up to the closing brace. -/
def printMembers : QJsonObject → QByteArray
  | [] => [0x7D]
  | [member] =>
      0x22 :: printString member.1 ++ 0x3A :: printValue member.2 ++ [0x7D]
  | member :: members =>
      0x22 :: printString member.1 ++ 0x3A :: printValue member.2 ++
        0x2C :: printMembers members

/-- Read as many members as the fuel allows. -/
def parseMembers : ℕ → QByteArray → Option QJsonObject
  | 0, _ => none
  | fuel + 1, bytes => do
      let (name, afterName) ← parseString (bytes.drop 1)
      let (value, afterValue) ← parseValue (afterName.drop 1)
      if afterValue.take 1 = [0x2C] then
        let members ← parseMembers fuel (afterValue.drop 1)
        return (name, value) :: members
      else return [(name, value)]

/-- A value reads back before a comma or a closing brace. -/
theorem parseValue_printValue
    {value : QJsonValue}
    (flat : (∃ text, value = .string text) ∨
      ∃ number : ℕ, value = .double number)
    (stop : UInt8)
    (stops : isDigit stop = false)
    (rest : QByteArray) :
    parseValue (printValue value ++ stop :: rest) =
      some (value, stop :: rest) := by
  rcases flat with ⟨text, rfl⟩ | ⟨natural, rfl⟩
  · simp only [printValue, List.cons_append, parseValue, if_true,
      parseString_printString, Option.map_some]
  · have printed : printValue (.double natural) = number natural := rfl
    have digits := number_isDigit natural
    obtain ⟨first, rest', shape⟩ :=
      List.exists_cons_of_ne_nil (number_ne_nil natural)
    have notQuote : first ≠ 0x22 := by
      rintro rfl
      have isDigitQuote := digits 0x22 (by rw [shape]; exact List.mem_cons_self)
      exact absurd isDigitQuote (by decide)
    have digitsThenStop :
        (number natural ++ stop :: rest).takeWhile isDigit =
            number natural ∧
          (number natural ++ stop :: rest).dropWhile isDigit =
            stop :: rest := by
      rw [List.takeWhile_append_of_pos digits,
        List.dropWhile_append_of_pos digits]
      simp [stops]
    rw [printed]
    rw [shape] at digitsThenStop ⊢
    rw [List.cons_append] at digitsThenStop ⊢
    rw [parseValue, if_neg notQuote, digitsThenStop.1, digitsThenStop.2,
      ← shape, toNatural_number]

theorem parseMembers_printMembers
    {members : QJsonObject}
    (flat : members.Flat)
    (nonempty : members ≠ [])
    (fuel : ℕ)
    (enough : members.length ≤ fuel) :
    parseMembers fuel (printMembers members) = some members := by
  induction members generalizing fuel with
  | nil => exact absurd rfl nonempty
  | cons member members inductionHypothesis =>
      obtain ⟨name, value⟩ := member
      obtain ⟨fuel, rfl⟩ : ∃ less, fuel = less + 1 :=
        ⟨fuel - 1, by rw [List.length_cons] at enough; omega⟩
      have flatValue := flat (name, value) List.mem_cons_self
      have flatRest : QJsonObject.Flat members :=
        fun other later => flat other (List.mem_cons_of_mem _ later)
      rw [List.length_cons] at enough
      cases members with
      | nil =>
          have shape :
              printMembers [(name, value)] =
                0x22 :: (printString name ++
                  0x3A :: (printValue value ++ 0x7D :: [])) := by
            simp [printMembers]
          rw [shape, parseMembers]
          simp only [List.drop_succ_cons, List.drop_zero,
            parseString_printString, Option.bind_eq_bind, Option.bind_some,
            parseValue_printValue flatValue 0x7D (by decide)]
          rfl
      | cons next members =>
          have shape :
              printMembers ((name, value) :: next :: members) =
                0x22 :: (printString name ++
                  0x3A :: (printValue value ++
                    0x2C :: printMembers (next :: members))) := by
            simp [printMembers]
          rw [shape, parseMembers]
          simp only [List.drop_succ_cons, List.drop_zero,
            parseString_printString, Option.bind_eq_bind, Option.bind_some,
            parseValue_printValue flatValue 0x2C (by decide),
            List.take_succ_cons, List.take_zero, if_true,
            inductionHypothesis flatRest (List.cons_ne_nil _ _) fuel
              (show (next :: members).length ≤ fuel by omega)]
          rfl

/-! ## Objects -/

def keyOrder (first second : QString × QJsonValue) : Prop :=
  ¬ second.1 < first.1

instance : DecidableRel keyOrder := fun first second =>
  inferInstanceAs (Decidable (¬ second.1 < first.1))

/-- The text of the empty object. -/
def emptyText : QByteArray := [0x7B, 0x7D]

def json : QJsonDocument where
  toJson object :=
    if object = [] then emptyText
    else 0x7B :: printMembers (object.insertionSort keyOrder)
  parse bytes :=
    match parseMembers bytes.length (bytes.drop 1) with
    | some members => .ok members
    | none =>
        if bytes = emptyText then .ok []
        else .error (QString.literal "illegal value")

theorem length_le_length_printMembers (members : QJsonObject) :
    members.length ≤ (printMembers members).length := by
  induction members with
  | nil => simp
  | cons member members inductionHypothesis =>
      cases members with
      | nil => simp [printMembers]
      | cons next members =>
          simp only [printMembers, List.length_append, List.length_cons]
            at inductionHypothesis ⊢
          omega

/-- The reference codec reads flat objects back, with their keys sorted. -/
theorem json_roundTrips : json.RoundTrips := by
  intro object flat _
  have sorted := List.perm_insertionSort keyOrder object
  by_cases empty : object = []
  · subst empty
    exact ⟨[], rfl, List.Perm.refl _⟩
  · have sortedNonempty : object.insertionSort keyOrder ≠ [] := by
      intro sortedEmpty
      rw [sortedEmpty] at sorted
      exact empty (List.nil_perm.mp sorted)
    have sortedFlat : QJsonObject.Flat (object.insertionSort keyOrder) :=
      fun member within => flat member (sorted.mem_iff.mp within)
    have readBack := parseMembers_printMembers sortedFlat sortedNonempty
      (0x7B :: printMembers (object.insertionSort keyOrder)).length
      ((length_le_length_printMembers _).trans (Nat.le_succ _))
    refine ⟨object.insertionSort keyOrder, ?_, sorted⟩
    simp only [json, if_neg empty, List.drop_succ_cons, List.drop_zero,
      readBack]

example :
    json.toJson [(QString.literal "b", .double 1),
        (QString.literal "a", .string (QString.literal "x\"y"))] =
      QByteArray.literal "\x7b\"a\":\"x\\u0022y\",\"b\":1\x7d" := by
  decide +kernel

/-! ## Arrays -/

/-- Elements after the opening bracket or a comma, up to the closing
bracket. -/
def printElements : List QJsonValue → QByteArray
  | [] => [0x5D]
  | [element] => printValue element ++ [0x5D]
  | element :: elements => printValue element ++ 0x2C :: printElements elements

/-- Read as many elements as the fuel allows. -/
def parseElements : ℕ → QByteArray → Option (List QJsonValue)
  | 0, _ => none
  | fuel + 1, bytes => do
      let (element, afterElement) ← parseValue bytes
      if afterElement.take 1 = [0x2C] then
        let elements ← parseElements fuel (afterElement.drop 1)
        return element :: elements
      else return [element]

theorem parseElements_printElements
    {texts : List QString}
    (nonempty : texts ≠ [])
    (fuel : ℕ)
    (enough : texts.length ≤ fuel) :
    parseElements fuel (printElements (texts.map .string)) =
      some (texts.map .string) := by
  induction texts generalizing fuel with
  | nil => exact absurd rfl nonempty
  | cons text texts inductionHypothesis =>
      obtain ⟨fuel, rfl⟩ : ∃ less, fuel = less + 1 :=
        ⟨fuel - 1, by rw [List.length_cons] at enough; omega⟩
      have isString :
          (∃ read, QJsonValue.string text = .string read) ∨
            ∃ number : ℕ, QJsonValue.string text = .double number :=
        Or.inl ⟨text, rfl⟩
      rw [List.length_cons] at enough
      cases texts with
      | nil =>
          have shape :
              printElements [QJsonValue.string text] =
                printValue (.string text) ++ 0x5D :: [] := rfl
          rw [List.map_cons, List.map_nil, shape, parseElements]
          simp only [Option.bind_eq_bind, Option.bind_some,
            parseValue_printValue isString 0x5D (by decide)]
          rfl
      | cons next texts =>
          have shape :
              printElements
                  (QJsonValue.string text :: (next :: texts).map .string) =
                printValue (.string text) ++
                  0x2C :: printElements ((next :: texts).map .string) := rfl
          rw [List.map_cons, shape, parseElements]
          simp only [Option.bind_eq_bind, Option.bind_some,
            parseValue_printValue isString 0x2C (by decide),
            List.take_succ_cons, List.take_zero, if_true,
            List.drop_succ_cons, List.drop_zero,
            inductionHypothesis (List.cons_ne_nil _ _) fuel
              (show (next :: texts).length ≤ fuel by omega)]
          rfl

theorem length_le_length_printElements (values : List QJsonValue) :
    values.length ≤ (printElements values).length := by
  induction values with
  | nil => simp
  | cons value values inductionHypothesis =>
      cases values with
      | nil => simp [printElements]
      | cons next values =>
          simp only [printElements, List.length_append, List.length_cons]
            at inductionHypothesis ⊢
          omega

/-- The reference codec with arrays. -/
def arrays : QJsonArrayDocument where
  toQJsonDocument := json
  arrayToJson elements :=
    if elements.isEmpty then [0x5B, 0x5D] else 0x5B :: printElements elements
  fromJsonArray bytes :=
    if bytes = [0x5B, 0x5D] then []
    else (parseElements bytes.length (bytes.drop 1)).getD []

/-- The reference codec reads arrays of strings back. -/
theorem arrays_roundTrips : arrays.RoundTripsArrays := by
  intro texts _
  by_cases empty : texts = []
  · subst empty
    exact ⟨by decide, rfl⟩
  · have printed :
        arrays.arrayToJson (texts.map .string) =
          0x5B :: printElements (texts.map .string) := by
      simp [arrays, empty]
    have fuel :
        texts.length ≤
          (0x5B :: printElements (texts.map .string)).length := by
      have bound := length_le_length_printElements
        (texts.map QJsonValue.string)
      rw [List.length_map] at bound
      exact bound.trans (Nat.le_succ _)
    have readBack := parseElements_printElements empty
      (0x5B :: printElements (texts.map .string)).length fuel
    have notClosed :
        0x5B :: printElements (texts.map .string) ≠ [0x5B, 0x5D] := by
      intro closed
      obtain ⟨text, texts, rfl⟩ := List.exists_cons_of_ne_nil empty
      cases texts <;> simp [printElements, printValue] at closed
    rw [printed]
    refine ⟨List.cons_ne_nil _ _, ?_⟩
    simp only [arrays, if_neg notClosed, List.drop_succ_cons,
      List.drop_zero, readBack, Option.getD_some]

/-! ## One text -/

/-- A codec that knows one text and the object it stands for. -/
def readsOnly (text : QByteArray) (object : QJsonObject) : QJsonDocument where
  toJson _ := text
  parse bytes :=
    if bytes = text then .ok object
    else .error (QString.literal "illegal value")

end ReferenceJson
end Qt
end VoxDesktop
