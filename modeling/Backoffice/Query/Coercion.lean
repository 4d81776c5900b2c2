import Backoffice.Binary64.Numeral
import Backoffice.Calendar.Reader
import Backoffice.Field.Basic
import Backoffice.Text.Ascii
import Backoffice.Uuid

/-!
Typed values from the raw texts of filters, as they come from addresses and forms.

A text that reads as a value of the type of its field becomes that value, or the normal form of its
text. Any other text stays as it is.
-/

namespace Backoffice

namespace FieldType

def integer? (raw : String) : Option Json :=
  match Numeral.integer? (Text.trim raw.toList) with
  | some value =>
    if -0x8000000000000000 ≤ value ∧ value < 0x8000000000000000 then some (.number (.int value))
      else none
  | none => none

def float? (raw : String) : Option Json :=
  ((Numeral.ofChars? (Text.trim raw.toList)).bind Numeral.toBinary64?).map fun value =>
    .number (.float value)

/-- A finite number between blanks; its digits are kept. -/
def decimal? (raw : String) : Option Json :=
  let trimmed := Text.trim raw.toList
  ((Numeral.ofChars? trimmed).bind Numeral.toBinary64?).map fun _ =>
    .string (String.ofList trimmed)

def boolean? (raw : String) : Option Json :=
  if Text.smallLetters raw = "true".toList then some (.bool true)
  else if Text.smallLetters raw = "false".toList then some (.bool false)
  else none

def read? (type : FieldType) (raw : String) : Option Json :=
  let text (chars : List Char) : Json := .string (String.ofList chars)
  match type with
  | integer => integer? raw
  | float => float? raw
  | decimal => decimal? raw
  | boolean => boolean? raw
  | binaryId => (Uuid.ofText? raw).map fun uuid => .string uuid.toText
  | date => (Calendar.date? raw.toList).map fun date => text date.toChars
  | time => (Calendar.time? raw.toList).map fun time => text time.toChars
  | naiveDatetime => (Calendar.dateTime? raw.toList).map fun moment => text moment.toChars
  | utcDatetime =>
    (Calendar.moment? raw.toList).map fun moment => text (Calendar.momentChars moment)
  | _ => none

/-- The value of a raw text in a type, or the text itself. -/
def coerceText (type : FieldType) (raw : String) : Json :=
  (type.read? raw).getD (.string raw)

def coerceScalar (type : FieldType) : Json → Json
  | .string raw => type.coerceText raw
  | value => value

/-- A value, or each item of an array, as values of a type. -/
def coerce (type : FieldType) : Json → Json
  | .array items => .array (items.map type.coerceScalar)
  | value => type.coerceScalar value

end FieldType

namespace Condition

def coerce (type : FieldType) : Condition → Condition
  | eq value => eq (type.coerce value)
  | gte value => gte (type.coerce value)
  | lte value => lte (type.coerce value)
  | among values => among (values.map type.coerceScalar)

end Condition

namespace Filter

def coerce (filter : Filter) (field : Field) : Filter :=
  { filter with condition := filter.condition.coerce field.type }

end Filter

end Backoffice
