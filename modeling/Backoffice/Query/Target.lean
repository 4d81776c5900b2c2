import Backoffice.Query.Coercion
import Backoffice.Resource.Basic

/-!
Queries that take up the options of a listing.
-/

namespace Backoffice

/-- A kind of queries that can be given filters and sorts. -/
class QueryTarget (Query : Type) where
  filter : Query → Filter → Query
  sort : Query → OrderBy → Query

namespace Resource

/-- What a filter becomes for a resource: its texts get the type of its field. A filter on a field
that is unknown, omitted or not to be filtered on is dropped. -/
def admit? (resource : Resource) (filter : Filter) : Option Filter :=
  match resource.field? filter.field with
  | some field => if field.filterable && !field.omitted then some (filter.coerce field) else none
  | none => none

end Resource

namespace QueryOpts

variable {Query : Type} [QueryTarget Query]

def extend (base : Query) (filters : List Filter) (orderBy : Option OrderBy) : Query :=
  orderBy.elim id (fun order query => QueryTarget.sort query order)
    (filters.foldl QueryTarget.filter base)

def applyTo (opts : QueryOpts) (base : Query) : Query :=
  extend base opts.filters opts.orderBy

def applyFor (opts : QueryOpts) (resource : Resource) (base : Query) : Query :=
  extend base (opts.filters.filterMap resource.admit?) opts.orderBy

end QueryOpts

end Backoffice
