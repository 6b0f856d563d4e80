import Mathlib.Data.Option.Basic
import Mathlib.Data.Rat.Defs
import VoxDesktop.Network.ConversationQueries

/-!
# Numbers of parsed objects

The parsers of envelopes, of answers to a sent envelope and of conversations
ask of a member that it is a number and read it with `toInteger` or `toInt`,
which give zero for a number that is not whole or not in their range.
-/

namespace VoxDesktop
namespace Network

open Qt

/-! ## Numbers in a range -/

/-- If a value is a number, it is a whole one in a range. -/
def NumberFits (lower upper : ℤ) (value : QJsonValue) : Prop :=
  ∀ number, value = .double number →
    number.den = 1 ∧ lower ≤ number.num ∧ number.num < upper

def FitsQint64 : QJsonValue → Prop :=
  NumberFits (-9223372036854775808) 9223372036854775808

def FitsInt : QJsonValue → Prop :=
  NumberFits (-2147483648) 2147483648

section Numbers

variable {lower upper : ℤ} {value : QJsonValue}

theorem numberFits_double
    {number : ℚ}
    (fits : number.den = 1 ∧ lower ≤ number.num ∧ number.num < upper) :
    NumberFits lower upper (.double number) := by
  intro other equal
  rwa [← QJsonValue.double.inj equal]

theorem numberFits_double_iff (number : ℚ) :
    NumberFits lower upper (.double number) ↔
      number.den = 1 ∧ lower ≤ number.num ∧ number.num < upper :=
  ⟨fun fits => fits number rfl, numberFits_double⟩

theorem exists_double (isNumber : value.isDouble = true) :
    ∃ number, value = .double number := by
  cases value with
  | double number => exact ⟨number, rfl⟩
  | _ => contradiction

/-- What stands for a number that does not fit is not that number. -/
theorem double_eq_iff_fits
    (number : ℚ) (lowerNonpos : lower ≤ 0) (upperPos : 0 < upper) :
    number =
        ((if number.den = 1 ∧ lower ≤ number.num ∧ number.num < upper then
            number.num
          else 0 : ℤ) : ℚ) ↔
      number.den = 1 ∧ lower ≤ number.num ∧ number.num < upper := by
  split
  next fits =>
    simp only [fits, and_self, iff_true]
    exact (Rat.coe_int_num_of_den_eq_one fits.1).symm
  next fails =>
    simp only [fails, iff_false]
    rintro rfl
    exact fails ⟨rfl, lowerNonpos, upperPos⟩

theorem eq_toInteger_iff (isNumber : value.isDouble = true) :
    value = .double value.toInteger ↔ FitsQint64 value := by
  obtain ⟨number, rfl⟩ := exists_double isNumber
  rw [QJsonValue.double.injEq, FitsQint64, numberFits_double_iff]
  exact double_eq_iff_fits number (by decide) (by decide)

theorem eq_toInt_iff (isNumber : value.isDouble = true) :
    value = .double (value.toInt 0) ↔ FitsInt value := by
  obtain ⟨number, rfl⟩ := exists_double isNumber
  rw [QJsonValue.double.injEq, FitsInt, numberFits_double_iff]
  exact double_eq_iff_fits number (by decide) (by decide)

end Numbers

/-! ## What the parsers have read -/

section Parsers

variable {object : QJsonObject}

theorem getInteger_eq_some
    {field : String} {parsed : ℤ}
    (accepted : getInteger object field = some parsed) :
    (object.value (QString.literal field)).isDouble = true ∧
      parsed = (object.value (QString.literal field)).toInteger := by
  rw [getInteger] at accepted
  split at accepted
  next isNumber => exact ⟨isNumber, (Option.some.inj accepted).symm⟩
  next => contradiction

theorem of_parseSendEnvelopeResponse
    {response : SendEnvelopeResponse}
    (accepted : parseSendEnvelopeResponse object = some response) :
    getInteger object "server_timestamp" = some response.serverTimestamp := by
  simp only [parseSendEnvelopeResponse, Option.bind_eq_bind,
    Option.bind_eq_some_iff, Option.pure_def, Option.some.injEq]
    at accepted
  obtain ⟨_, _, timestamp, read, rfl⟩ := accepted
  exact read

theorem of_parseEnvelopeDto
    {dto : ListedEnvelopeDto}
    (accepted : parseEnvelopeDto object = some dto) :
    getInteger object "server_timestamp" = some dto.serverTimestamp ∧
      dto.orderingEpoch =
        if QString.literal "ordering_epoch" ∈ object.keys ∧
            (object.value (QString.literal "ordering_epoch")).isDouble then
          some ((object.value (QString.literal "ordering_epoch")).toInt 0)
        else none := by
  simp only [parseEnvelopeDto, Option.bind_eq_bind,
    Option.bind_eq_some_iff, Option.pure_def, Option.some.injEq]
    at accepted
  obtain ⟨_, _, _, _, _, _, _, _, _, _, timestamp, read, rfl⟩ := accepted
  exact ⟨read, rfl⟩

theorem of_parseConversationSummaryDto
    {dto : ListedConversationDto}
    (accepted : parseConversationSummaryDto object = some dto) :
    getInteger object "created_at" = some dto.createdAt ∧
      (object.value (QString.literal "membership_version")).isDouble = true ∧
      dto.membershipVersion =
        (object.value (QString.literal "membership_version")).toInt 0 := by
  simp only [parseConversationSummaryDto, Option.bind_eq_bind,
    Option.bind_eq_some_iff, Option.pure_def, Option.some.injEq]
    at accepted
  obtain ⟨_, _, _, _, createdAt, read, _, isNumber, rfl⟩ := accepted
  exact ⟨read, (Option.guard_eq_some' ()).mp isNumber, rfl⟩

theorem mem_keys_of_isDouble
    {key : QString} (isNumber : (object.value key).isDouble = true) :
    key ∈ object.keys := by
  induction object with
  | nil => contradiction
  | cons member object inductionHypothesis =>
      rw [QJsonObject.keys, List.map_cons, List.mem_cons]
      by_cases same : member.1 = key
      · exact Or.inl same.symm
      · rw [QJsonObject.value, if_neg same] at isNumber
        exact Or.inr (inductionHypothesis isNumber)

end Parsers

/-! ## Numbers that are kept -/

/-- The numbers of an envelope are those of the object it was parsed from. -/
def ListedEnvelopeDto.KeepsNumbers
    (dto : ListedEnvelopeDto) (object : QJsonObject) : Prop :=
  object.value (QString.literal "server_timestamp") =
      .double dto.serverTimestamp ∧
    ∀ number,
      object.value (QString.literal "ordering_epoch") = .double number →
        ∃ epoch : ℤ, dto.orderingEpoch = some epoch ∧ number = epoch

def SendEnvelopeResponse.KeepsNumbers
    (response : SendEnvelopeResponse) (object : QJsonObject) : Prop :=
  object.value (QString.literal "server_timestamp") =
    .double response.serverTimestamp

def ListedConversationDto.KeepsNumbers
    (dto : ListedConversationDto) (object : QJsonObject) : Prop :=
  object.value (QString.literal "created_at") = .double dto.createdAt ∧
    object.value (QString.literal "membership_version") =
      .double dto.membershipVersion

section Kept

variable {object : QJsonObject}

/-- A member that is read with `GetInteger`. -/
theorem value_eq_iff_of_getInteger
    {field : String} {parsed : ℤ}
    (accepted : getInteger object field = some parsed) :
    object.value (QString.literal field) = .double parsed ↔
      FitsQint64 (object.value (QString.literal field)) := by
  obtain ⟨isNumber, rfl⟩ := getInteger_eq_some accepted
  exact eq_toInteger_iff isNumber

/-- The epoch of an envelope is its number exactly when that fits. -/
theorem orderingEpoch_kept_iff
    {dto : ListedEnvelopeDto}
    (accepted : parseEnvelopeDto object = some dto) :
    (∀ number,
        object.value (QString.literal "ordering_epoch") = .double number →
          ∃ epoch : ℤ, dto.orderingEpoch = some epoch ∧ number = epoch) ↔
      FitsInt (object.value (QString.literal "ordering_epoch")) := by
  have epochRead := (of_parseEnvelopeDto accepted).2
  cases isNumber :
      (object.value (QString.literal "ordering_epoch")).isDouble with
  | false =>
      have absent : ∀ number,
          object.value (QString.literal "ordering_epoch") ≠
            .double number := by
        intro number same
        rw [same] at isNumber
        contradiction
      exact iff_of_true (fun number same => absurd same (absent number))
        fun number same => absurd same (absent number)
  | true =>
      rw [if_pos ⟨mem_keys_of_isDouble isNumber, isNumber⟩] at epochRead
      rw [← eq_toInt_iff isNumber, epochRead]
      constructor
      · intro kept
        obtain ⟨number, same⟩ := exists_double isNumber
        obtain ⟨epoch, read, rfl⟩ := kept number same
        rw [Option.some.inj read]
        exact same
      · intro same number here
        rw [same] at here
        exact ⟨_, rfl, (QJsonValue.double.inj here).symm⟩

/-- The parsers keep the numbers of an object they accept exactly when each of
them is whole and in the range of its field. -/
theorem numbers_kept_iff (object : QJsonObject) :
    (∀ dto, parseEnvelopeDto object = some dto →
      (dto.KeepsNumbers object ↔
        FitsQint64 (object.value (QString.literal "server_timestamp")) ∧
          FitsInt (object.value (QString.literal "ordering_epoch")))) ∧
      (∀ response, parseSendEnvelopeResponse object = some response →
        (response.KeepsNumbers object ↔
          FitsQint64 (object.value (QString.literal "server_timestamp")))) ∧
      ∀ dto, parseConversationSummaryDto object = some dto →
        (dto.KeepsNumbers object ↔
          FitsQint64 (object.value (QString.literal "created_at")) ∧
            FitsInt
              (object.value (QString.literal "membership_version"))) := by
  refine ⟨fun dto accepted => ?_, fun response accepted => ?_,
    fun dto accepted => ?_⟩
  · exact and_congr
      (value_eq_iff_of_getInteger (of_parseEnvelopeDto accepted).1)
      (orderingEpoch_kept_iff accepted)
  · exact value_eq_iff_of_getInteger (of_parseSendEnvelopeResponse accepted)
  · obtain ⟨created, isNumber, version⟩ :=
      of_parseConversationSummaryDto accepted
    rw [ListedConversationDto.KeepsNumbers, version]
    exact and_congr (value_eq_iff_of_getInteger created)
      (eq_toInt_iff isNumber)

end Kept

/-! ## Objects of a server -/

section Examples

/-- An envelope with a timestamp and an epoch. -/
def exampleEnvelope (timestamp epoch : ℚ) : QJsonObject :=
  [stringMember "envelope_id" (QString.literal "e"),
    stringMember "conversation_id" (QString.literal "c"),
    stringMember "sender_user_id" (QString.literal "u"),
    stringMember "sender_device_id" (QString.literal "d"),
    stringMember "ciphertext" (QString.literal "hi"),
    (QString.literal "server_timestamp", .double timestamp),
    (QString.literal "ordering_epoch", .double epoch)]

def exampleSent (timestamp : ℚ) : QJsonObject :=
  [stringMember "envelope_id" (QString.literal "e"),
    (QString.literal "server_timestamp", .double timestamp)]

def exampleSummary (createdAt version : ℚ) : QJsonObject :=
  [stringMember "conversation_id" (QString.literal "c"),
    stringMember "created_by" (QString.literal "u"),
    (QString.literal "created_at", .double createdAt),
    (QString.literal "membership_version", .double version)]

/-- Whole numbers in range are kept. -/
theorem numbers_kept_whole :
    (∃ dto, parseEnvelopeDto (exampleEnvelope 100 7) = some dto ∧
        dto.KeepsNumbers (exampleEnvelope 100 7)) ∧
      (∃ response, parseSendEnvelopeResponse (exampleSent 100) =
          some response ∧
        response.KeepsNumbers (exampleSent 100)) ∧
      ∃ dto, parseConversationSummaryDto (exampleSummary 100 3) = some dto ∧
        dto.KeepsNumbers (exampleSummary 100 3) := by
  refine ⟨⟨_, rfl, ?_⟩, ⟨_, rfl, ?_⟩, ⟨_, rfl, ?_⟩⟩
  · exact ((numbers_kept_iff _).1 _ rfl).mpr
      ⟨numberFits_double (by decide), numberFits_double (by decide)⟩
  · exact ((numbers_kept_iff _).2.1 _ rfl).mpr
      (numberFits_double (by decide))
  · exact ((numbers_kept_iff _).2.2 _ rfl).mpr
      ⟨numberFits_double (by decide), numberFits_double (by decide)⟩

/-- Fractions and numbers out of range are accepted and become zero. -/
theorem numbers_become_zero :
    (parseEnvelopeDto (exampleEnvelope (3 / 2) 2147483648)).map
          (fun dto => (dto.serverTimestamp, dto.orderingEpoch)) =
        some (0, some 0) ∧
      (parseSendEnvelopeResponse (exampleSent 9223372036854775808)).map
          SendEnvelopeResponse.serverTimestamp = some 0 ∧
      (parseConversationSummaryDto
          (exampleSummary (-1 / 2) 2147483648)).map
          (fun dto => (dto.createdAt, dto.membershipVersion)) =
        some (0, 0) ∧
      ∃ dto,
        parseEnvelopeDto (exampleEnvelope (3 / 2) 7) = some dto ∧
          ¬dto.KeepsNumbers (exampleEnvelope (3 / 2) 7) := by
  refine ⟨by decide +kernel, by decide +kernel, by decide +kernel,
    _, rfl, fun kept => ?_⟩
  have same := QJsonValue.double.inj kept.1
  exact absurd same (by decide +kernel)

end Examples

end Network
end VoxDesktop
