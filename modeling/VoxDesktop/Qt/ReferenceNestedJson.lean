import VoxDesktop.Library.Delimited
import VoxDesktop.Qt.NestedJson
import VoxDesktop.Qt.ReferenceJson

/-!
# A reference instance for nested values

An executable codec for objects of any depth: compact text with sorted keys,
as Qt writes it, and strings as the codec for flat objects writes them.
-/

namespace VoxDesktop
namespace Qt
namespace ReferenceNestedJson

open Library ReferenceJson

mutual

def printNested : QJsonValue → QByteArray
  | .string text => 0x22 :: printString text
  | .double value => number value.num
  | .bool true => QByteArray.literal "true"
  | .bool false => QByteArray.literal "false"
  | .array elements =>
      0x5B :: Delimited.write 0x2C 0x5D (printEach elements)
  | .object members =>
      0x7B :: Delimited.write 0x2C 0x7D (printEachMember members)
  | .null => QByteArray.literal "null"
  | .undefined => QByteArray.literal "null"

def printEach : List QJsonValue → List QByteArray
  | [] => []
  | element :: elements => printNested element :: printEach elements

def printEachMember : List (QString × QJsonValue) → List QByteArray
  | [] => []
  | (key, value) :: members =>
      (0x22 :: (printString key ++ 0x3A :: printNested value)) ::
        printEachMember members

end

/-- A member: a name in quotes, a colon and a value. -/
def printMember (member : QString × QJsonValue) : QByteArray :=
  0x22 :: (printString member.1 ++ 0x3A :: printNested member.2)

theorem printEach_eq_map (elements : List QJsonValue) :
    printEach elements = elements.map printNested := by
  induction elements with
  | nil => rfl
  | cons element elements inductionHypothesis =>
      rw [printEach, inductionHypothesis, List.map_cons]

theorem printEachMember_eq_map (members : List (QString × QJsonValue)) :
    printEachMember members = members.map printMember := by
  induction members with
  | nil => rfl
  | cons member members inductionHypothesis =>
      rw [printEachMember, inductionHypothesis, List.map_cons, printMember]

/-- Read a member with a reader for its value. -/
def parseMember
    (value : QByteArray → Option (QJsonValue × QByteArray))
    (bytes : QByteArray) :
    Option ((QString × QJsonValue) × QByteArray) := do
  let (name, afterName) ← parseString (bytes.drop 1)
  let (found, rest) ← value (afterName.drop 1)
  return ((name, found), rest)

/-- Read a value of less than some depth. -/
def parseNested : ℕ → QByteArray → Option (QJsonValue × QByteArray)
  | 0, _ => none
  | _ + 1, [] => none
  | depth + 1, octet :: rest =>
      if octet = 0x22 then
        (parseString rest).map fun parsed => (.string parsed.1, parsed.2)
      else if octet = 0x5B then
        (Delimited.read 0x2C 0x5D (parseNested depth) rest.length rest).map
          fun parsed => (.array parsed.1, parsed.2)
      else if octet = 0x7B then
        (Delimited.read 0x2C 0x7D (parseMember (parseNested depth))
          rest.length rest).map fun parsed => (.object parsed.1, parsed.2)
      else if octet = 0x74 then some (.bool true, rest.drop 3)
      else if octet = 0x66 then some (.bool false, rest.drop 4)
      else
        some (.double (toNatural ((octet :: rest).takeWhile isDigit)),
          (octet :: rest).dropWhile isDigit)

/-- The leaves of the reference codec: any text, any natural number and the
truth values. -/
inductive IsLeaf : QJsonValue → Prop
  | string (text : QString) : IsLeaf (.string text)
  | double (number : ℕ) : IsLeaf (.double number)
  | bool (value : Bool) : IsLeaf (.bool value)

/-- A number starts with a digit. -/
theorem exists_number_cons (natural : ℕ) :
    ∃ first rest, number natural = first :: rest ∧ isDigit first = true := by
  obtain ⟨first, rest, shape⟩ :=
    List.exists_cons_of_ne_nil (number_ne_nil natural)
  refine ⟨first, rest, shape, number_isDigit natural first ?_⟩
  rw [shape]
  exact List.mem_cons_self

/-- The first octet of a value is no closing bracket. -/
theorem printNested_starts
    {depth : ℕ} {value : QJsonValue}
    (composed : Composed IsLeaf depth value) (close : UInt8)
    (isClose : close = 0x5D ∨ close = 0x7D) :
    ∃ octet octets, printNested value = octet :: octets ∧ octet ≠ close := by
  cases composed with
  | leaf allowed =>
      cases allowed with
      | string text =>
          refine ⟨_, _, by rw [printNested], ?_⟩
          rcases isClose with rfl | rfl <;> decide
      | double natural =>
          obtain ⟨first, rest, shape, digit⟩ := exists_number_cons natural
          refine ⟨first, rest, by rw [printNested]; exact shape, ?_⟩
          rintro rfl
          rcases isClose with rfl | rfl <;> exact absurd digit (by decide)
      | bool truth =>
          cases truth <;> rcases isClose with rfl | rfl <;>
            exact ⟨_, _, rfl, by decide⟩
  | array within =>
      refine ⟨_, _, by rw [printNested], ?_⟩
      rcases isClose with rfl | rfl <;> decide
  | object distinct named within =>
      refine ⟨_, _, by rw [printNested], ?_⟩
      rcases isClose with rfl | rfl <;> decide

/-- A number reads back before an octet that is no digit. -/
theorem parseNested_number
    (depth natural : ℕ) {stop : UInt8} (stops : isDigit stop = false)
    (rest : QByteArray) :
    parseNested (depth + 1) (number natural ++ stop :: rest) =
      some (.double natural, stop :: rest) := by
  have digits := number_isDigit natural
  obtain ⟨first, others, shape, digit⟩ := exists_number_cons natural
  have apart : ∀ octet : UInt8, isDigit octet = false → first ≠ octet := by
    rintro octet noDigit rfl
    rw [digit] at noDigit
    contradiction
  have spans :
      (number natural ++ stop :: rest).takeWhile isDigit = number natural ∧
        (number natural ++ stop :: rest).dropWhile isDigit =
          stop :: rest := by
    rw [List.takeWhile_append_of_pos digits,
      List.dropWhile_append_of_pos digits]
    simp [stops]
  rw [shape, List.cons_append] at spans ⊢
  rw [parseNested, if_neg (apart _ (by decide)), if_neg (apart _ (by decide)),
    if_neg (apart _ (by decide)), if_neg (apart _ (by decide)),
    if_neg (apart _ (by decide)), spans.1, spans.2, ← shape,
    toNatural_number]

theorem parseMember_printMember
    {value : QByteArray → Option (QJsonValue × QByteArray)}
    {member : QString × QJsonValue} {rest : QByteArray}
    (reads : value (printNested member.2 ++ rest) = some (member.2, rest)) :
    parseMember value (printMember member ++ rest) = some (member, rest) := by
  have shape :
      (printMember member ++ rest).drop 1 =
        printString member.1 ++ 0x3A :: (printNested member.2 ++ rest) := by
    simp [printMember]
  rw [parseMember, shape, parseString_printString]
  simp [reads]

/-- A composed value reads back before an octet that ends it. -/
theorem parseNested_printNested
    {depth : ℕ} {value : QJsonValue}
    (composed : Composed IsLeaf depth value) {stop : UInt8}
    (stops : isDigit stop = false) (rest : QByteArray) :
    parseNested (depth + 1) (printNested value ++ stop :: rest) =
      some (value, stop :: rest) := by
  have ends : ∀ close : UInt8, close = 0x5D ∨ close = 0x7D →
      ∀ stop, stop = 0x2C ∨ stop = close → isDigit stop = false := by
    rintro close (rfl | rfl) stop (rfl | rfl) <;> decide
  induction composed generalizing stop rest with
  | leaf allowed =>
      cases allowed with
      | string text =>
          rw [printNested, List.cons_append, parseNested, if_pos rfl,
            parseString_printString, Option.map_some]
      | double natural =>
          rw [printNested]
          exact parseNested_number _ natural stops rest
      | bool truth => cases truth <;> rfl
  | @array depth elements within inductionHypothesis =>
      rw [printNested, printEach_eq_map, List.cons_append, parseNested,
        if_neg (by decide), if_pos rfl,
        Delimited.read_write (by decide)
          (fun element member stop isStop rest =>
            inductionHypothesis element member
              (ends 0x5D (Or.inl rfl) stop isStop) rest)
          (fun element member =>
            printNested_starts (within element member) 0x5D (Or.inl rfl)),
        Option.map_some]
      have bound :=
        Delimited.length_le_length_write 0x2C 0x5D (elements.map printNested)
      rw [List.length_map] at bound
      exact bound.trans (by rw [List.length_append]; exact Nat.le_add_right _ _)
  | @object depth members distinct named within inductionHypothesis =>
      rw [printNested, printEachMember_eq_map, List.cons_append, parseNested,
        if_neg (by decide), if_neg (by decide), if_pos rfl,
        Delimited.read_write (by decide)
          (fun member included stop isStop rest =>
            parseMember_printMember
              (inductionHypothesis member included
                (ends 0x7D (Or.inr rfl) stop isStop) rest))
          (fun member included => ⟨0x22, _, rfl, by decide⟩),
        Option.map_some]
      have bound :=
        Delimited.length_le_length_write 0x2C 0x7D (members.map printMember)
      rw [List.length_map] at bound
      exact bound.trans (by rw [List.length_append]; exact Nat.le_add_right _ _)

/-! ## Documents -/

def json : QJsonDocument where
  toJson object := printNested (.object object.sorted)
  parse bytes :=
    match parseNested (kNestingLimit + 1) (bytes ++ [0x20]) with
    | some (.object members, _) => .ok members
    | _ => .error (QString.literal "illegal value")

/-- Every object of leaves reads back, with the members of its objects
sorted. -/
theorem json_parse_toJson
    {object : QJsonObject}
    (composed : Composed IsLeaf kNestingLimit (.object object)) :
    json.parse (json.toJson object) = .ok object.sorted := by
  have leaves : ∀ value, IsLeaf value → IsLeaf value.sorted := by
    intro value isLeaf
    cases isLeaf <;> rw [QJsonValue.sorted] <;> constructor
  have sorted := composed.sorted leaves
  rw [QJsonValue.sorted] at sorted
  have readBack := parseNested_printNested sorted
    (by decide : isDigit 0x20 = false) []
  rw [json]
  dsimp only
  rw [QJsonObject.sorted, readBack]

theorem json_roundTripsNested : json.RoundTripsNested := by
  intro object composed
  apply json_parse_toJson
  exact composed.of_leaves fun value writable => by
    cases writable <;> constructor

/-- Flat objects read back up to the order of their members. -/
theorem json_roundTrips : json.RoundTrips := by
  intro object flat distinct
  have composed : Composed IsLeaf kNestingLimit (.object object) := by
    apply Composed.object distinct
    · exact fun key _ => .string key
    · intro member within
      apply Composed.leaf
      rcases flat member within with ⟨text, same⟩ | ⟨number, same⟩
      · rw [same]
        exact .string text
      · rw [same]
        exact .double number
  refine ⟨object.sorted, json_parse_toJson composed, ?_⟩
  have same : (object.map fun member => (member.1, member.2.sorted)) =
      object := by
    conv_rhs => rw [← List.map_id object]
    apply List.map_congr_left
    intro member within
    obtain ⟨key, value⟩ := member
    rcases flat _ within with ⟨text, same⟩ | ⟨number, same⟩
    · simp only at same
      rw [same, QJsonValue.sorted, id]
    · simp only at same
      rw [same, QJsonValue.sorted, id]
  have perm := QJsonObject.sorted_perm object
  rwa [same] at perm

end ReferenceNestedJson
end Qt
end VoxDesktop
