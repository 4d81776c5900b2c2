import Backoffice.Query.Target

/-!
Queries over records that are at hand: which of them match, and in which order they are listed.

Numbers are compared as doubles, texts by code points, and false comes before true. Values
of different kinds, arrays and objects do not compare: they match no filter and do not
move each other in a sort.
-/

namespace Backoffice

namespace Number

/-- How two numbers compare, as doubles. -/
def compare? (left right : Number) : Option Ordering := do
  let left ← left.toBinary64?
  let right ← right.toBinary64?
  some (compare left.orderKey right.orderKey)

end Number

namespace Json

def compare? : Json → Json → Option Ordering
  | .number left, .number right => left.compare? right
  | .string left, .string right => some (compare left right)
  | .bool left, .bool right => some (compare left right)
  | .null, .null => some .eq
  | _, _ => none

end Json

namespace Condition

def holds : Condition → Json → Bool
  | eq value, actual => actual.compare? value = some .eq
  | gte value, actual => actual.compare? value = some .gt || actual.compare? value = some .eq
  | lte value, actual => actual.compare? value = some .lt || actual.compare? value = some .eq
  | among values, actual => values.any fun value => actual.compare? value = some .eq

end Condition

namespace Filter

/-- Whether a record passes the filter; a missing field counts as null. -/
def admits (filter : Filter) (record : Json) : Bool :=
  filter.condition.holds (record.getOrNull filter.field)

end Filter

namespace SortDirection

def apply : SortDirection → Ordering → Ordering
  | asc, order => order
  | desc, order => order.swap

end SortDirection

namespace OrderTerm

/-- How two records compare under the term. What does not compare counts as equal. -/
def compare (term : OrderTerm) (left right : Json) : Ordering :=
  term.direction.apply
    (((left.getOrNull term.field).compare? (right.getOrNull term.field)).getD .eq)

end OrderTerm

/-- A query over records: filters that all hold, and terms to sort by, the
first one counting most. -/
structure FilterQuery where
  filters : List Filter := []
  sort : List OrderTerm := []
  deriving DecidableEq, Repr

namespace FilterQuery

instance : QueryTarget FilterQuery where
  filter query filter := { query with filters := query.filters ++ [filter] }
  sort query order := { query with sort := query.sort ++ order.toTerms }

def isMatch (query : FilterQuery) (record : Json) : Bool :=
  query.filters.all (·.admits record)

def compareRecords (terms : List OrderTerm) (left right : Json) : Ordering :=
  match terms with
  | [] => .eq
  | term :: rest => (term.compare left right).then (compareRecords rest left right)

def precedes (query : FilterQuery) (left right : Json) : Bool :=
  compareRecords query.sort left right ≠ .gt

/-- The matching records, sorted; equal ones keep their order. -/
def apply (query : FilterQuery) (records : List Json) : List Json :=
  (records.filter query.isMatch).mergeSort query.precedes

def toJson (query : FilterQuery) : Json :=
  .object [
    ("filters", .array (query.filters.map Filter.toJson)),
    ("sort", .array (query.sort.map OrderTerm.toJson))]

end FilterQuery

end Backoffice
