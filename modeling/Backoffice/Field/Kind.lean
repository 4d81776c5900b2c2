import Backoffice.Json.Document

/-!
Types of fields and the controls that show them.
-/

namespace Backoffice

/-- What the values of a field are. -/
inductive FieldType where
  | string
  | binaryId
  | integer
  | float
  | decimal
  | boolean
  | date
  | time
  | naiveDatetime
  | utcDatetime
  | binary
  | map
  | manyToOne
  | oneToMany
  | embedOne
  | embedMany
  | undefined
  /-- A type of the backend that has no meaning here. -/
  | other (name : String)
  deriving DecidableEq, Repr

/-- The control that shows a field. -/
inductive HtmlType where
  | text
  | number
  | checkbox
  | select
  | textarea
  | date
  | time
  | datetimeLocal
  | unimplemented
  deriving DecidableEq, Repr

namespace FieldType

def isAssociation : FieldType → Bool
  | manyToOne | oneToMany | embedOne | embedMany => true
  | _ => false

def isNumeric : FieldType → Bool
  | integer | float | decimal => true
  | _ => false

/-- The type that a backend's own name stands for; other names are kept. -/
def ofNative (native : String) : FieldType :=
  match native with
  | "string" | "atom" | "enum" | "ci_string" => string
  | "uuid" | "binary_id" => binaryId
  | "id" | "integer" => integer
  | "float" => float
  | "decimal" => decimal
  | "boolean" => boolean
  | "date" => date
  | "time" | "time_usec" => time
  | "naive_datetime" | "naive_datetime_usec" => naiveDatetime
  | "utc_datetime" | "utc_datetime_usec" | "datetime" => utcDatetime
  | "binary" | "tuple" | "union" | "term" => binary
  | "map" | "keyword" | "struct" => map
  | name => other name

/-- Whether values of a native type can be compared in a filter. -/
def isFilterable (native : String) : Bool :=
  native ∉ ["map", "keyword", "tuple", "struct", "union", "term"]

def htmlType : FieldType → HtmlType
  | string | binaryId => .text
  | integer | float | decimal => .number
  | boolean => .checkbox
  | date => .date
  | time => .time
  | naiveDatetime | utcDatetime => .datetimeLocal
  | binary | map => .textarea
  | manyToOne => .select
  | _ => .unimplemented

def defaultLength : FieldType → Nat
  | string | binary => 255
  | binaryId => 36
  | integer => 10
  | float | decimal => 12
  | boolean => 5
  | date | time => 10
  | naiveDatetime | utcDatetime => 20
  | _ => 0

/-- The number of digits of a number, and how many of them follow the point. -/
def numericConstraints (type : FieldType) : Nat × Nat :=
  if type.isNumeric then (10, 2) else (0, 0)

def ofName? : String → Option FieldType
  | "string" => some string
  | "binary_id" => some binaryId
  | "integer" => some integer
  | "float" => some float
  | "decimal" => some decimal
  | "boolean" => some boolean
  | "date" => some date
  | "time" => some time
  | "naive_datetime" => some naiveDatetime
  | "utc_datetime" => some utcDatetime
  | "binary" => some binary
  | "map" => some map
  | "many_to_one" => some manyToOne
  | "one_to_many" => some oneToMany
  | "embed_one" => some embedOne
  | "embed_many" => some embedMany
  | "undefined" => some undefined
  | _ => none

/-- A name, or an object with the native name of a type that has no meaning here. -/
def ofDocument? : Document → Option FieldType
  | .object [("other", .string name)] => some (other name)
  | document => document.name? ofName?

def toJson : FieldType → Json
  | string => .string "string"
  | binaryId => .string "binary_id"
  | integer => .string "integer"
  | float => .string "float"
  | decimal => .string "decimal"
  | boolean => .string "boolean"
  | date => .string "date"
  | time => .string "time"
  | naiveDatetime => .string "naive_datetime"
  | utcDatetime => .string "utc_datetime"
  | binary => .string "binary"
  | map => .string "map"
  | manyToOne => .string "many_to_one"
  | oneToMany => .string "one_to_many"
  | embedOne => .string "embed_one"
  | embedMany => .string "embed_many"
  | undefined => .string "undefined"
  | other name => .object [("other", .string name)]

end FieldType

namespace HtmlType

def name : HtmlType → String
  | text => "text"
  | number => "number"
  | checkbox => "checkbox"
  | select => "select"
  | textarea => "textarea"
  | date => "date"
  | time => "time"
  | datetimeLocal => "datetime-local"
  | unimplemented => "unimplemented"

def ofName? : String → Option HtmlType
  | "text" => some text
  | "number" => some number
  | "checkbox" => some checkbox
  | "select" => some select
  | "textarea" => some textarea
  | "date" => some date
  | "time" => some time
  | "datetime-local" => some datetimeLocal
  | "unimplemented" => some unimplemented
  | _ => none

@[simp]
theorem ofName?_name (type : HtmlType) : ofName? type.name = some type := by
  cases type <;> rfl

end HtmlType

end Backoffice
