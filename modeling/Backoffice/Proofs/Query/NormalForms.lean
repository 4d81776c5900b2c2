import Backoffice.Proofs.Calendar.Rereading
import Backoffice.Proofs.Uuid
import Backoffice.Query.Coercion
import Mathlib.Data.List.DropRight

/-!
Normal forms of the texts of filters.

A text that is read as a value of the type of its field becomes the normal form of that value, and
a normal form is read as itself, or not at all: a moment that lies outside the years of four
digits is written with a sign, which keeps it from being read as a moment again. So coercing a
filter once more changes nothing.
-/

namespace Backoffice

theorem Text.trim_trim (chars : List Char) : trim (trim chars) = trim chars := by
  have trimmed : trim = fun chars => (chars.dropWhile isBlank).rdropWhile isBlank := rfl
  have noneAtStart : (trim chars).dropWhile isBlank = trim chars := by
    rw [List.dropWhile_eq_self_iff]
    intro nonempty
    have isPrefix : trim chars <+: chars.dropWhile isBlank := List.rdropWhile_prefix _ _
    have start := isPrefix.getElem nonempty
    have positive : 0 < (chars.dropWhile isBlank).length := nonempty.trans_le isPrefix.length_le
    rw [start]
    exact List.dropWhile_get_zero_not isBlank chars positive
  calc trim (trim chars)
    _ = ((trim chars).dropWhile isBlank).rdropWhile isBlank := rfl
    _ = ((chars.dropWhile isBlank).rdropWhile isBlank).rdropWhile isBlank := by
      rw [noneAtStart, trimmed]
    _ = trim chars := List.rdropWhile_idempotent _ _

namespace FieldType

/-- Values that coercing to a type leaves as they are; there is no array among them. -/
inductive Settled (type : FieldType) : Json → Prop where
  | bool (value : Bool) : Settled type (.bool value)
  | number (value : Number) : Settled type (.number value)
  | text {text : String} : type.coerceText text = .string text → Settled type (.string text)

variable {type : FieldType} {raw text : String} {value : Json}

theorem coerceText_of_read?_eq_none (unread : type.read? text = none) :
    type.coerceText text = .string text := by
  rw [coerceText, unread, Option.getD_none]

theorem coerceText_of_read?_eq_some (reads : type.read? text = some value) :
    type.coerceText text = value := by
  rw [coerceText, reads, Option.getD_some]

/-- The normal form of a moment is read as itself in the years of four digits, and not
at all outside of them. -/
theorem coerceText_momentChars {moment : DateTime} (valid : moment.IsValid) :
    utcDatetime.coerceText (.ofList (Calendar.momentChars moment)) =
      .string (.ofList (Calendar.momentChars moment)) := by
  have reread := Calendar.moment?_momentChars valid
  by_cases fourDigits : 0 ≤ moment.date.year ∧ moment.date.year ≤ 9999
  · rw [if_pos fourDigits] at reread
    apply coerceText_of_read?_eq_some
    rw [read?, String.toList_ofList, reread]
    rfl
  · rw [if_neg fourDigits] at reread
    apply coerceText_of_read?_eq_none
    rw [read?, String.toList_ofList, reread]
    rfl

theorem settled_of_read?_eq_some (reads : type.read? raw = some value) : type.Settled value := by
  cases type with
  | integer =>
    simp only [read?, integer?] at reads
    split at reads
    · obtain ⟨-, same⟩ := Option.ite_none_right_eq_some.1 reads
      cases same
      exact .number _
    · cases reads
  | float =>
    obtain ⟨number, -, rfl⟩ := Option.map_eq_some_iff.1 reads
    exact .number _
  | decimal =>
    obtain ⟨nearest, finite, rfl⟩ := Option.map_eq_some_iff.1 reads
    refine .text (coerceText_of_read?_eq_some ?_)
    rw [read?, decimal?, String.toList_ofList, Text.trim_trim, finite]
    rfl
  | boolean =>
    simp only [read?, boolean?] at reads
    split at reads
    · cases reads
      exact .bool _
    · obtain ⟨-, same⟩ := Option.ite_none_right_eq_some.1 reads
      cases same
      exact .bool _
  | binaryId =>
    obtain ⟨uuid, -, rfl⟩ := Option.map_eq_some_iff.1 reads
    refine .text (coerceText_of_read?_eq_some ?_)
    rw [read?, uuid.ofText?_toText]
    rfl
  | date =>
    obtain ⟨date, readsDate, rfl⟩ := Option.map_eq_some_iff.1 reads
    refine .text (coerceText_of_read?_eq_some ?_)
    rw [read?, String.toList_ofList,
      Calendar.date?_toChars (Calendar.isValid_of_date?_eq_some readsDate)]
    rfl
  | time =>
    obtain ⟨time, readsTime, rfl⟩ := Option.map_eq_some_iff.1 reads
    refine .text (coerceText_of_read?_eq_some ?_)
    rw [read?, String.toList_ofList,
      Calendar.time?_toChars (Calendar.isValid_of_time?_eq_some readsTime)]
    rfl
  | naiveDatetime =>
    obtain ⟨moment, readsMoment, rfl⟩ := Option.map_eq_some_iff.1 reads
    refine .text (coerceText_of_read?_eq_some ?_)
    rw [read?, String.toList_ofList,
      Calendar.dateTime?_toChars (Calendar.isValid_of_dateTime?_eq_some readsMoment)]
    rfl
  | utcDatetime =>
    obtain ⟨moment, readsMoment, rfl⟩ := Option.map_eq_some_iff.1 reads
    exact .text (coerceText_momentChars (Calendar.isValid_of_moment?_eq_some readsMoment))
  | string | binary | map | manyToOne | oneToMany | embedOne | embedMany | undefined | other =>
    cases reads

theorem settled_coerceText (type : FieldType) (raw : String) :
    type.Settled (type.coerceText raw) := by
  cases reads : type.read? raw with
  | none =>
    have kept := coerceText_of_read?_eq_none reads
    rw [kept]
    exact .text kept
  | some value =>
    rw [coerceText_of_read?_eq_some reads]
    exact settled_of_read?_eq_some reads

theorem Settled.coerceScalar (settled : type.Settled value) : type.coerceScalar value = value := by
  cases settled with
  | bool => rfl
  | number => rfl
  | text kept => exact kept

theorem Settled.coerce (settled : type.Settled value) : type.coerce value = value := by
  cases settled with
  | bool => rfl
  | number => rfl
  | text kept => exact kept

theorem coerceScalar_coerceScalar (type : FieldType) (value : Json) :
    type.coerceScalar (type.coerceScalar value) = type.coerceScalar value := by
  cases value with
  | string raw => exact (type.settled_coerceText raw).coerceScalar
  | null | bool | number | array | object => rfl

theorem coerce_coerce (type : FieldType) (value : Json) :
    type.coerce (type.coerce value) = type.coerce value := by
  cases value with
  | string raw => exact (type.settled_coerceText raw).coerce
  | array items => simp only [coerce, List.map_map, Function.comp_def, coerceScalar_coerceScalar]
  | null | bool | number | object => rfl

end FieldType

theorem Condition.coerce_coerce (type : FieldType) (condition : Condition) :
    (condition.coerce type).coerce type = condition.coerce type := by
  cases condition with
  | among values =>
    simp only [coerce, List.map_map, Function.comp_def, FieldType.coerceScalar_coerceScalar]
  | eq | gte | lte => simp only [coerce, FieldType.coerce_coerce]

/-- A text that a text is coerced to is in its normal form, whatever the type; so coercing a value,
or a filter, once more changes nothing. -/
theorem Filter.coerce_settles :
    (∀ (type : FieldType) (raw text : String), type.coerceText raw = .string text →
      type.coerceText text = .string text) ∧
    (∀ (type : FieldType) (value : Json), type.coerce (type.coerce value) = type.coerce value) ∧
    ∀ (field : Field) (filter : Filter),
      (filter.coerce field).coerce field = filter.coerce field := by
  refine ⟨fun type raw text coerced => ?_, FieldType.coerce_coerce, fun field filter => ?_⟩
  · have settled := type.settled_coerceText raw
    rw [coerced] at settled
    exact settled.coerceScalar
  · simp only [coerce, Condition.coerce_coerce]

/-- The first hour of the first year begins in the year before it, which is not read as a moment. -/
theorem FieldType.coerceText_utcDatetime_before_year_zero :
    utcDatetime.coerceText "0000-01-01T00:30:60.5+01:00" =
      .string "-0001-12-31T23:30:60.500+00:00" ∧
      utcDatetime.read? "-0001-12-31T23:30:60.500+00:00" = none ∧
      utcDatetime.coerceText "-0001-12-31T23:30:60.500+00:00" =
        .string "-0001-12-31T23:30:60.500+00:00" := by
  have coerced : utcDatetime.coerceText "0000-01-01T00:30:60.5+01:00" =
      .string "-0001-12-31T23:30:60.500+00:00" := by
    decide +kernel
  exact ⟨coerced, by decide +kernel, Filter.coerce_settles.1 utcDatetime _ _ coerced⟩

end Backoffice
