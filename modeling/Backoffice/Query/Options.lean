import Backoffice.Catalog.Metadata
import Backoffice.Text.Letter
import Backoffice.Text.Pieces

/-!
Options of a listing: how to sort it and which records to keep.

Options stand in free-form objects beside others, so reading them never fails: what is not an
option is passed over. Clauses are kept as declared, to be written back unchanged, and become
filters when a query is built.
-/

namespace Backoffice

inductive SortDirection where
  | asc
  | desc
  deriving DecidableEq, Repr

structure OrderTerm where
  field : String
  direction : SortDirection
  deriving DecidableEq, Repr

/-- A sort declaration in the shape in which it was declared. -/
inductive OrderBy where
  | field (name : String)
  | terms (listed : List OrderTerm)
  deriving DecidableEq, Repr

/-- A clause as declared: equality, a named comparison, or a range. -/
inductive WhereClause where
  | equals (field : String) (value : Json)
  | compare (field operator : String) (value : Json)
  | between (field : String) (low high : Json)
  deriving DecidableEq, Repr

/-- The comparisons that a filter can make. -/
inductive FilterOp where
  | eq
  | gte
  | lte
  | among
  deriving DecidableEq, Repr

/-- What a filter asks of a value. An `in` filter always holds an array, so what it asks carries the
list and no other document. -/
inductive Condition where
  | eq (value : Json)
  | gte (value : Json)
  | lte (value : Json)
  | among (values : List Json)
  deriving DecidableEq, Repr

structure Filter where
  field : String
  condition : Condition
  deriving DecidableEq, Repr

structure QueryOpts where
  orderBy : Option OrderBy := none
  clauses : List WhereClause := []
  deriving DecidableEq, Repr, Inhabited

namespace SortDirection

def name : SortDirection → String
  | asc => "asc"
  | desc => "desc"

def ofName? (name : String) : Option SortDirection :=
  let small := name.toList.flatMap Text.toSmall
  if small = ['a', 's', 'c'] then some asc
  else if small = ['d', 'e', 's', 'c'] then some desc
  else none

@[simp]
theorem ofName?_name (direction : SortDirection) : ofName? direction.name = some direction := by
  cases direction <;> decide

end SortDirection

namespace OrderTerm

def ofMembers (members : Members) : List OrderTerm :=
  members.filterMap fun (field, direction) =>
    match direction with
    | .string name => (SortDirection.ofName? name).map fun direction => { field, direction }
    | _ => none

/-- The terms that an item of a list stands for: a field, an object, or a field and a direction. -/
def ofItem : Json → List OrderTerm
  | .string field => [{ field, direction := .asc }]
  | .object members => ofMembers members
  | .array [.string field, .string name] =>
    (SortDirection.ofName? name).toList.map fun direction => { field, direction }
  | _ => []

def toJson (term : OrderTerm) : Json :=
  .array [.string term.field, .string term.direction.name]

@[simp]
theorem ofItem_toJson (term : OrderTerm) : ofItem term.toJson = [term] := by
  simp [toJson, ofItem]

end OrderTerm

namespace OrderBy

def ofJson? : Json → Option OrderBy
  | .string name => some (.field name)
  | .object members => some (.terms (OrderTerm.ofMembers members))
  | .array items => some (.terms (items.flatMap OrderTerm.ofItem))
  | _ => none

def toTerms : OrderBy → List OrderTerm
  | .field name => [{ field := name, direction := .asc }]
  | .terms listed => listed

def toJson : OrderBy → Json
  | .field name => .string name
  | .terms listed => .array (listed.map OrderTerm.toJson)

end OrderBy

namespace WhereClause

/-- A clause: `[field, value]`, `[field, operator, value]` or `[field, "between", low, high]`. -/
def ofJson? : Json → Option WhereClause
  | .array [.string field, value] => some (equals field value)
  | .array [.string field, .string operator, value] => some (compare field operator value)
  | .array [.string field, .string operator, low, high] =>
    if operator = "between" then some (between field low high) else none
  | _ => none

def field : WhereClause → String
  | equals field _ | compare field _ _ | between field _ _ => field

def toJson : WhereClause → Json
  | equals field value => .array [.string field, value]
  | compare field operator value => .array [.string field, .string operator, value]
  | between field low high => .array [.string field, .string "between", low, high]

end WhereClause

namespace FilterOp

def name : FilterOp → String
  | eq => "eq"
  | gte => "gte"
  | lte => "lte"
  | among => "in"

/-- The comparison of a name or alias. There is no matching of substrings: `like` is equality. -/
def ofName? : String → Option FilterOp
  | "eq" | "equal_to" | "like" | "ilike" => some eq
  | "gte" | "ge" | "greater_equal_than" => some gte
  | "lte" | "le" | "less_equal_than" => some lte
  | "in" => some among
  | _ => none

end FilterOp

namespace Condition

/-- The values that a list, a text with commas, or a single value stands for. -/
def listed : Json → List Json
  | .string text => (Text.pieces ',' text).map .string
  | .array items => items
  | value => [value]

def make : FilterOp → Json → Condition
  | .eq, value => eq value
  | .gte, value => gte value
  | .lte, value => lte value
  | .among, value => among (listed value)

def op : Condition → FilterOp
  | eq _ => .eq
  | gte _ => .gte
  | lte _ => .lte
  | among _ => .among

def value : Condition → Json
  | eq value | gte value | lte value => value
  | among values => .array values

def values : Condition → List Json
  | eq value | gte value | lte value => [value]
  | among values => values

end Condition

namespace Filter

def make (field : String) (op : FilterOp) (value : Json) : Filter :=
  { field, condition := .make op value }

def toJson (filter : Filter) : Json :=
  .object [
    ("field", .string filter.field),
    ("op", .string filter.condition.op.name),
    ("value", filter.condition.value)]

end Filter

namespace WhereClause

/-- The filters of a clause: a range is two of them, an unknown comparison none. -/
def filters : WhereClause → List Filter
  | equals field value => [.make field .eq value]
  | compare field operator value =>
    (FilterOp.ofName? operator).toList.map fun op => .make field op value
  | between field low high => [.make field .gte low, .make field .lte high]

end WhereClause

namespace QueryOpts

def ofMembers (members : Members) : QueryOpts :=
  { orderBy := ((members.get? "order_by").or (members.get? "orderBy")).bind OrderBy.ofJson?
    clauses :=
      match members.get? "where" with
      | some (.array clauses) => clauses.filterMap WhereClause.ofJson?
      | _ => [] }

def isEmpty (opts : QueryOpts) : Bool :=
  opts.orderBy.isNone && opts.clauses.isEmpty

def filters (opts : QueryOpts) : List Filter :=
  opts.clauses.flatMap WhereClause.filters

def toMembers (opts : QueryOpts) : Members :=
  (opts.orderBy.toList.map fun order => ("order_by", order.toJson)) ++
    if opts.clauses.isEmpty then []
    else [("where", .array (opts.clauses.map WhereClause.toJson))]

def toJson (opts : QueryOpts) : Json := .object opts.toMembers

def ofDocument? (document : Document) : Option QueryOpts :=
  document.members?.map ofMembers

end QueryOpts

end Backoffice
