import VoxDesktop.Qt.Json
import VoxDesktop.Qt.Utf8
import Mathlib.Data.List.Sort

/-!
# Nested JSON values

Objects and arrays inside of each other.  The document format gives back what
was written with the members of every object in the order of their keys, and
what the client reads of a value does not depend on that order.
-/

namespace VoxDesktop
namespace Qt

/-! ## Members in the order of their keys -/

def memberOrder (first second : QString × QJsonValue) : Prop :=
  ¬ second.1 < first.1

instance : DecidableRel memberOrder := fun first second =>
  inferInstanceAs (Decidable (¬ second.1 < first.1))

mutual

/-- The value with the members of its objects sorted, at every depth. -/
def QJsonValue.sorted : QJsonValue → QJsonValue
  | .array elements => .array (sortedElements elements)
  | .object members =>
      .object ((sortedMembers members).insertionSort memberOrder)
  | .undefined => .undefined
  | .null => .null
  | .bool value => .bool value
  | .double value => .double value
  | .string value => .string value

def sortedElements : List QJsonValue → List QJsonValue
  | [] => []
  | element :: elements => element.sorted :: sortedElements elements

/-- The members in their order, with their values sorted. -/
def sortedMembers :
    List (QString × QJsonValue) → List (QString × QJsonValue)
  | [] => []
  | (key, value) :: members => (key, value.sorted) :: sortedMembers members

end

def QJsonObject.sorted (object : QJsonObject) : QJsonObject :=
  (sortedMembers object).insertionSort memberOrder

theorem sortedElements_eq_map (elements : List QJsonValue) :
    sortedElements elements = elements.map QJsonValue.sorted := by
  induction elements with
  | nil => rfl
  | cons element elements inductionHypothesis =>
      rw [sortedElements, inductionHypothesis, List.map_cons]

theorem sortedMembers_eq_map (members : QJsonObject) :
    sortedMembers members =
      members.map fun member => (member.1, member.2.sorted) := by
  induction members with
  | nil => rfl
  | cons member members inductionHypothesis =>
      rw [sortedMembers, inductionHypothesis, List.map_cons]

namespace QJsonValue

variable (value : QJsonValue)

@[simp] theorem isString_sorted : value.sorted.isString = value.isString := by
  cases value <;> simp [sorted, isString]

@[simp] theorem isDouble_sorted : value.sorted.isDouble = value.isDouble := by
  cases value <;> simp [sorted, isDouble]

@[simp] theorem toString_sorted : value.sorted.toString = value.toString := by
  cases value <;> simp [sorted, toString]

@[simp] theorem toInteger_sorted :
    value.sorted.toInteger = value.toInteger := by
  cases value <;> simp [sorted, toInteger]

@[simp] theorem toInt_sorted (defaultValue : ℤ) :
    value.sorted.toInt defaultValue = value.toInt defaultValue := by
  cases value <;> simp [sorted, toInt]

@[simp] theorem toBool_sorted (defaultValue : Bool) :
    value.sorted.toBool defaultValue = value.toBool defaultValue := by
  cases value <;> simp [sorted, toBool]

@[simp] theorem toArray_sorted :
    value.sorted.toArray = value.toArray.map sorted := by
  cases value <;> simp [sorted, toArray, sortedElements_eq_map]

@[simp] theorem toObject_sorted :
    value.sorted.toObject = QJsonObject.sorted value.toObject := by
  cases value <;>
    simp [sorted, toObject, QJsonObject.sorted, sortedMembers]

end QJsonValue

namespace QJsonObject

theorem sorted_perm (object : QJsonObject) :
    (sorted object).Perm
      (object.map fun member => (member.1, member.2.sorted)) := by
  rw [sorted, sortedMembers_eq_map]
  exact List.perm_insertionSort memberOrder _

theorem keys_sorted_perm (object : QJsonObject) :
    (keys (sorted object)).Perm (keys object) := by
  have perm := (sorted_perm object).map Prod.fst
  rwa [List.map_map] at perm

theorem nodup_keys_sorted
    {object : QJsonObject} (distinct : (keys object).Nodup) :
    (keys (sorted object)).Nodup :=
  (keys_sorted_perm object).nodup_iff.mpr distinct

theorem value_of_notMem
    {object : QJsonObject} {key : QString} (absent : key ∉ keys object) :
    value object key = .undefined := by
  induction object with
  | nil => rfl
  | cons member members inductionHypothesis =>
      simp only [keys, List.map_cons, List.mem_cons, not_or] at absent
      rw [value, if_neg (Ne.symm absent.1), inductionHypothesis absent.2]

/-- The value of a key that is there belongs to a member. -/
theorem mem_of_mem_keys
    {object : QJsonObject} {key : QString} (present : key ∈ keys object) :
    (key, value object key) ∈ object := by
  induction object with
  | nil => simp [keys] at present
  | cons member members inductionHypothesis =>
      rw [value]
      split
      · rename_i same
        rw [← same]
        exact List.mem_cons_self
      · rename_i differs
        simp only [keys, List.map_cons, List.mem_cons] at present
        have later := present.resolve_left fun same => differs same.symm
        exact List.mem_cons_of_mem _ (inductionHypothesis later)

/-- Sorting an object sorts the values of its keys. -/
theorem value_sorted
    {object : QJsonObject} (distinct : (keys object).Nodup)
    (key : QString) :
    value (sorted object) key = (value object key).sorted := by
  by_cases present : key ∈ keys object
  · have within := mem_of_mem_keys present
    apply value_of_mem (nodup_keys_sorted distinct)
    rw [(sorted_perm object).mem_iff]
    exact List.mem_map.mpr ⟨_, within, rfl⟩
  · have absent : key ∉ keys (sorted object) := by
      rwa [(keys_sorted_perm object).mem_iff]
    rw [value_of_notMem absent, value_of_notMem present, QJsonValue.sorted]

end QJsonObject

/-! ## Composed values -/

/-- A value that is composed of leaves by arrays and by objects with distinct
keys, in at most some depth. -/
inductive Composed (leaf : QJsonValue → Prop) : ℕ → QJsonValue → Prop
  | leaf {depth : ℕ} {value : QJsonValue} (allowed : leaf value) :
      Composed leaf depth value
  | array {depth : ℕ} {elements : List QJsonValue}
      (within : ∀ element ∈ elements, Composed leaf depth element) :
      Composed leaf (depth + 1) (.array elements)
  | object {depth : ℕ} {members : QJsonObject}
      (distinct : members.keys.Nodup)
      (named : ∀ key ∈ members.keys, leaf (.string key))
      (within : ∀ member ∈ members, Composed leaf depth member.2) :
      Composed leaf (depth + 1) (.object members)

/-- The leaves that are written without loss: well-formed texts, numbers that
a double holds and truth values. -/
inductive IsWritable : QJsonValue → Prop
  | string {text : QString} (wellFormed : IsUtf16 text) :
      IsWritable (.string text)
  | double {number : ℕ} (exact : number < 9007199254740992) :
      IsWritable (.double number)
  | bool (value : Bool) : IsWritable (.bool value)

/-- The depth that the parser of documents reads. -/
def kNestingLimit : ℕ := 1024

/-- Objects of writable leaves are read back with their members sorted. -/
def QJsonDocument.RoundTripsNested (json : QJsonDocument) : Prop :=
  ∀ object : QJsonObject,
    Composed IsWritable kNestingLimit (.object object) →
      json.parse (json.toJson object) = .ok object.sorted

namespace Composed

variable {leaf : QJsonValue → Prop} {depth : ℕ} {value : QJsonValue}

theorem mono
    (composed : Composed leaf depth value) {deeper : ℕ}
    (below : depth ≤ deeper) : Composed leaf deeper value := by
  induction composed generalizing deeper with
  | leaf allowed => exact .leaf allowed
  | array within inductionHypothesis =>
      obtain ⟨deeper, rfl⟩ := Nat.exists_eq_succ_of_ne_zero
        (show deeper ≠ 0 by omega)
      exact .array fun element member =>
        inductionHypothesis element member (by omega)
  | object distinct named within inductionHypothesis =>
      obtain ⟨deeper, rfl⟩ := Nat.exists_eq_succ_of_ne_zero
        (show deeper ≠ 0 by omega)
      exact .object distinct named fun member included =>
        inductionHypothesis member included (by omega)

theorem of_leaves
    {leaf' : QJsonValue → Prop}
    (leaves : ∀ value, leaf value → leaf' value)
    (composed : Composed leaf depth value) :
    Composed leaf' depth value := by
  induction composed with
  | leaf allowed => exact .leaf (leaves _ allowed)
  | array within inductionHypothesis => exact .array inductionHypothesis
  | object distinct named within inductionHypothesis =>
      exact .object distinct (fun key member => leaves _ (named key member))
        inductionHypothesis

/-- Sorting keeps the composition, where it keeps the leaves. -/
theorem sorted
    (leaves : ∀ value, leaf value → leaf value.sorted)
    (composed : Composed leaf depth value) :
    Composed leaf depth value.sorted := by
  induction composed with
  | leaf allowed => exact .leaf (leaves _ allowed)
  | array within inductionHypothesis =>
      rw [QJsonValue.sorted, sortedElements_eq_map]
      apply array
      intro element member
      obtain ⟨source, included, rfl⟩ := List.mem_map.mp member
      exact inductionHypothesis source included
  | @object depth members distinct named within inductionHypothesis =>
      have perm := QJsonObject.sorted_perm members
      have keys := QJsonObject.keys_sorted_perm members
      rw [QJsonValue.sorted]
      apply object
      · exact QJsonObject.nodup_keys_sorted distinct
      · intro key member
        exact named key (keys.mem_iff.mp member)
      · intro member included
        obtain ⟨source, within, rfl⟩ :=
          List.mem_map.mp (perm.mem_iff.mp included)
        exact inductionHypothesis source within

end Composed

end Qt
end VoxDesktop
