import Backoffice.Query.Statement
import Backoffice.Query.Target

/-!
Listings of a table: the statement that selects the stored fields of a resource.

All names in the statement are names of fields, or given with the table; all values are parameters.
Where the columns are known, filters and sorts on anything else are passed over.
-/

namespace Backoffice

namespace FieldType

/-- The type that placeholders beside a column of the type are cast to. -/
def sqlType? : FieldType → Option SqlType
  | integer => some .bigint
  | float => some .doublePrecision
  | decimal => some .numeric
  | boolean => some .boolean
  | binaryId => some .uuid
  | date => some .date
  | time => some .time
  | naiveDatetime => some .timestamp
  | utcDatetime => some .timestamptz
  | _ => none

end FieldType

/-- A column of the selection. -/
structure Column where
  name : String
  /-- The cast beside placeholders. A column is cast by the type of its field, so
  `FieldType.sqlType?` gives every cast there is, and no other text is written as one. -/
  cast : Option SqlType
  /-- Whether the column is selected as a text, which keeps the digits of numbers. -/
  asText : Bool
  deriving DecidableEq, Repr

namespace Field

/-- Whether the field is stored in the table of its resource. -/
def isColumn (field : Field) : Bool :=
  match field.type with
  | .oneToMany | .embedOne | .embedMany | .undefined => false
  | .manyToOne => field.association?.any (·.ownerKey = field.key)
  | _ => true

def toColumn (field : Field) : Column :=
  { name := field.key, cast := field.type.sqlType?, asText := field.type = .decimal }

end Field

/-- A selection from one table. Without columns all of them are selected. -/
structure SelectQuery where
  schema : Option String := none
  table : String
  columns : List Column := []
  filters : List Filter := []
  order : List OrderTerm := []
  limit : Option Nat := none
  offset : Option Nat := none
  deriving DecidableEq, Repr

namespace SelectQuery

def maxLimit : Nat := 1000

/-- The selection of the stored fields of a resource that are not omitted, in their order. -/
def ofResource (resource : Resource) (table : String) : SelectQuery :=
  { table
    columns :=
      (resource.orderedFields.filter fun field => !field.omitted && field.isColumn).map
        Field.toColumn }

def column? (query : SelectQuery) (name : String) : Option Column :=
  query.columns.find? (·.name = name)

/-- Whether a name may be used; without columns any name may. -/
def isKnown (query : SelectQuery) (name : String) : Bool :=
  query.columns.isEmpty || (query.column? name).isSome

instance : QueryTarget SelectQuery where
  filter query filter :=
    if query.isKnown filter.field then { query with filters := query.filters ++ [filter] }
    else query
  sort query order :=
    { query with order := query.order ++ order.toTerms.filter fun term => query.isKnown term.field }

def parameter (query : SelectQuery) (name : String) (value : Json) : SqlPart :=
  .parameter value ((query.column? name).bind (·.cast))

def selection (query : SelectQuery) : SqlStatement :=
  if query.columns.isEmpty then [.fixed "*"]
  else SqlStatement.separate ", " (query.columns.map fun column =>
    if column.asText then
      [.identifier column.name, .fixed "::text AS ", .identifier column.name]
    else [.identifier column.name])

def source (query : SelectQuery) : SqlStatement :=
  match query.schema with
  | some schema => [.identifier schema, .fixed ".", .identifier query.table]
  | none => [.identifier query.table]

/-- The comparison that a filter makes. Nothing is among no values. -/
def comparison (query : SelectQuery) (filter : Filter) : SqlStatement :=
  let compared (operator : String) (value : Json) : SqlStatement :=
    [.identifier filter.field, .fixed operator, query.parameter filter.field value]
  match filter.condition with
  | .eq value => compared " = " value
  | .gte value => compared " >= " value
  | .lte value => compared " <= " value
  | .among [] => [.fixed "1 = 0"]
  | .among values =>
    [.identifier filter.field, .fixed " IN ("] ++
      SqlStatement.separate ", " (values.map fun value => [query.parameter filter.field value]) ++
      [.fixed ")"]

/-- The part of a statement under a keyword, which is left out when there is nothing to say. -/
def clause (keyword separator : String) (items : List SqlStatement) : SqlStatement :=
  if items.isEmpty then [] else .fixed keyword :: SqlStatement.separate separator items

def sorting (term : OrderTerm) : SqlStatement :=
  [.identifier term.field,
    .fixed (match term.direction with
      | .asc => " ASC"
      | .desc => " DESC")]

def build (query : SelectQuery) : SqlStatement :=
  [.fixed "SELECT "] ++ query.selection ++ [.fixed " FROM "] ++ query.source ++
    clause " WHERE " " AND " (query.filters.map query.comparison) ++
    clause " ORDER BY " ", " (query.order.map sorting) ++
    (query.limit.toList.flatMap fun limit =>
      [.fixed " LIMIT ", .number (min limit maxLimit)]) ++
    query.offset.toList.flatMap fun offset => [.fixed " OFFSET ", .number offset]

def sql (query : SelectQuery) : String := query.build.text

def params (query : SelectQuery) : List Json := query.build.parameters

end SelectQuery

end Backoffice
