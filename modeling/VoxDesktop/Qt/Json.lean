import Mathlib.Data.List.Induction
import Mathlib.Data.List.Nodup
import Mathlib.Data.Int.Notation
import Mathlib.Data.Rat.Init
import VoxDesktop.Qt.Text

/-!
# JSON values

`QJsonValue` and `QJsonObject` as the client uses them.  An object is its list
of members; `insert` keeps the keys distinct, and no function of the client
depends on the order of members.  The text format is a parameter: a document
codec that reads back the members it has written.
-/

namespace VoxDesktop
namespace Qt

inductive QJsonValue
  | undefined
  | null
  | bool (value : Bool)
  | double (value : ℚ)
  | string (value : QString)
  | array (elements : List QJsonValue)
  | object (members : List (QString × QJsonValue))

abbrev QJsonObject := List (QString × QJsonValue)

namespace QJsonValue

def isString : QJsonValue → Bool
  | string _ => true
  | _ => false

def isDouble : QJsonValue → Bool
  | double _ => true
  | _ => false

/-- `toString()`: the empty string for anything but a string. -/
def toString : QJsonValue → QString
  | string value => value
  | _ => []

/-- `toObject()`: the empty object for anything but an object. -/
def toObject : QJsonValue → QJsonObject
  | object members => members
  | _ => []

/-- `toArray()`: the empty array for anything but an array. -/
def toArray : QJsonValue → List QJsonValue
  | array elements => elements
  | _ => []

/-- `toBool(defaultValue)`: the default for anything but a truth value. -/
def toBool (value : QJsonValue) (defaultValue : Bool) : Bool :=
  match value with
  | bool truth => truth
  | _ => defaultValue

/-- `toInt(defaultValue)`: the default for anything but a number that is an
`int`. -/
def toInt (value : QJsonValue) (defaultValue : ℤ) : ℤ :=
  match value with
  | double number =>
      if number.den = 1 ∧ -2147483648 ≤ number.num ∧
          number.num < 2147483648 then number.num
      else defaultValue
  | _ => defaultValue

/-- `toInteger()`: zero for anything but a number that is a `qint64`. -/
def toInteger : QJsonValue → ℤ
  | double number =>
      if number.den = 1 ∧ -9223372036854775808 ≤ number.num ∧
          number.num < 9223372036854775808 then number.num
      else 0
  | _ => 0

/-- An integer in the range of `int` is read back. -/
theorem toInt_double
    {number : ℤ} (defaultValue : ℤ)
    (lower : -2147483648 ≤ number)
    (upper : number < 2147483648) :
    toInt (.double number) defaultValue = number := by
  simp [toInt, lower, upper]

/-- A text that a reader of the value sees, at any depth. -/
inductive Shows (text : QString) : QJsonValue → Prop
  | string : Shows text (.string text)
  | element {elements : List QJsonValue} {value : QJsonValue} :
      value ∈ elements → Shows text value → Shows text (.array elements)
  | member {members : QJsonObject} {key : QString} {value : QJsonValue} :
      (key, value) ∈ members → Shows text value →
        Shows text (.object members)

end QJsonValue

namespace QJsonObject

def keys (object : QJsonObject) : List QString := object.map Prod.fst

/-- Replace the member of a key or add one. -/
def insert :
    (object : QJsonObject) → (key : QString) → (value : QJsonValue) →
      QJsonObject
  | [], key, value => [(key, value)]
  | member :: members, key, value =>
      if member.1 = key then (key, value) :: members
      else member :: insert members key value

/-- Value of a key; undefined when there is no such member. -/
def value : (object : QJsonObject) → (key : QString) → QJsonValue
  | [], _ => .undefined
  | member :: members, key =>
      if member.1 = key then member.2 else value members key

theorem insert_of_notMem
    {object : QJsonObject} {key : QString}
    (absent : key ∉ keys object) (inserted : QJsonValue) :
    insert object key inserted = object ++ [(key, inserted)] := by
  induction object with
  | nil => rfl
  | cons member members inductionHypothesis =>
      simp only [keys, List.map_cons, List.mem_cons, not_or] at absent
      rw [insert, if_neg (Ne.symm absent.1), inductionHypothesis absent.2,
        List.cons_append]

/-- The object that results from inserting members one after the other. -/
def ofMembers (members : List (QString × QJsonValue)) : QJsonObject :=
  members.foldl (fun object member => insert object member.1 member.2) []

theorem ofMembers_of_nodup
    {members : List (QString × QJsonValue)}
    (distinct : (members.map Prod.fst).Nodup) :
    ofMembers members = members := by
  induction members using List.reverseRecOn with
  | nil => rfl
  | append_singleton members last inductionHypothesis =>
      rw [List.map_append, List.nodup_append] at distinct
      obtain ⟨distinctMembers, _, separate⟩ := distinct
      have absent : last.1 ∉ keys members := fun present =>
        separate last.1 present last.1 (List.mem_singleton.mpr rfl) rfl
      have inserted := inductionHypothesis distinctMembers
      rw [ofMembers] at inserted ⊢
      rw [List.foldl_append, inserted, List.foldl_cons, List.foldl_nil,
        insert_of_notMem absent]

/-- The value of a member, when keys are distinct. -/
theorem value_of_mem
    {object : QJsonObject} {key : QString} {found : QJsonValue}
    (distinct : (keys object).Nodup)
    (member : (key, found) ∈ object) :
    value object key = found := by
  induction object with
  | nil => simp at member
  | cons first members inductionHypothesis =>
      simp only [keys, List.map_cons, List.nodup_cons] at distinct
      rcases List.mem_cons.mp member with rfl | later
      · rw [value, if_pos rfl]
      · have differs : first.1 ≠ key := by
          rintro rfl
          exact distinct.1 (List.mem_map.mpr ⟨_, later, rfl⟩)
        rw [value, if_neg differs]
        exact inductionHypothesis distinct.2 later

/-- Members holding only strings and natural numbers. -/
def Flat (object : QJsonObject) : Prop :=
  ∀ member ∈ object,
    (∃ text, member.2 = .string text) ∨
      ∃ number : ℕ, member.2 = .double number

end QJsonObject

/-- The text format: `QJsonDocument(object).toJson(Compact)` and
`QJsonDocument::fromJson(bytes, &error)`, which reads an object or ends with
the text of the parse error. -/
structure QJsonDocument where
  toJson : QJsonObject → QByteArray
  parse : QByteArray → Except QString QJsonObject

namespace QJsonDocument

/-- `QJsonDocument::fromJson(bytes).object()`: the empty object for anything
that is not an object. -/
def fromJson (json : QJsonDocument) (bytes : QByteArray) : QJsonObject :=
  match json.parse bytes with
  | .ok object => object
  | .error _ => []

/-- Flat objects with distinct keys are read back as they were written, up to
the order of members. -/
def RoundTrips (json : QJsonDocument) : Prop :=
  ∀ object : QJsonObject,
    object.Flat → object.keys.Nodup →
      ∃ members, json.parse (json.toJson object) = .ok members ∧
        members.Perm object

theorem RoundTrips.fromJson
    {json : QJsonDocument} {object : QJsonObject}
    (roundTrips : json.RoundTrips)
    (flat : object.Flat)
    (distinct : object.keys.Nodup) :
    (json.fromJson (json.toJson object)).Perm object := by
  obtain ⟨members, parsed, readBack⟩ := roundTrips object flat distinct
  rw [QJsonDocument.fromJson, parsed]
  exact readBack

end QJsonDocument

/-- The text format with arrays at the top as well:
`QJsonDocument(array).toJson(Compact)` and
`QJsonDocument::fromJson(bytes).array()`, which is the empty array for
anything that is not an array. -/
structure QJsonArrayDocument extends QJsonDocument where
  arrayToJson : List QJsonValue → QByteArray
  fromJsonArray : QByteArray → List QJsonValue

/-- Arrays of ASCII strings are read back as they were written, from a text
that is not empty. -/
def QJsonArrayDocument.RoundTripsArrays (json : QJsonArrayDocument) : Prop :=
  ∀ texts : List QString,
    (∀ text ∈ texts, ∀ unit ∈ text, unit.toNat < 0x80) →
      json.arrayToJson (texts.map .string) ≠ [] ∧
        json.fromJsonArray (json.arrayToJson (texts.map .string)) =
          texts.map .string

end Qt
end VoxDesktop
