import Backoffice.Catalog.Metadata
import Backoffice.Text.Identifier

/-!
The operations that the screens of a resource need, whatever the backend calls them, and the routes
that need them.
-/

namespace Backoffice

/-- An operation of a resource. -/
inductive LogicalOp where
  | list
  | listPaginated
  | get
  | create
  | update
  | delete
  | change
  | new
  deriving DecidableEq, Repr

/-- A route to a screen of a resource. -/
inductive RouteAction where
  | index
  | new
  | edit
  | detail
  | delete
  deriving DecidableEq, Repr

namespace LogicalOp

def all : List LogicalOp := [list, listPaginated, get, create, update, delete, change, new]

theorem mem_all (op : LogicalOp) : op ∈ all := by
  cases op <;> decide

def name : LogicalOp → String
  | list => "list"
  | listPaginated => "list_paginated"
  | get => "get"
  | create => "create"
  | update => "update"
  | delete => "delete"
  | change => "change"
  | new => "new"

def ofName? (name : String) : Option LogicalOp :=
  all.find? (·.name = name)

/-- The kind of action that carries the operation out; `new` is an initializer. -/
def actionKind? : LogicalOp → Option ActionKind
  | list | listPaginated | get => some .read
  | create => some .create
  | update | change => some .update
  | delete => some .destroy
  | new => none

/-- The keys under which the operation can be overridden, the most general first. -/
def overrideKeys : LogicalOp → List String
  | list => ["list", "list_function", "list_action"]
  | listPaginated => ["list_paginated", "list_function_paginated", "list_paginated_action"]
  | get => ["get", "get_function", "get_action"]
  | create => ["create", "create_function", "create_action"]
  | update => ["update", "update_function", "update_action"]
  | delete => ["delete", "delete_function", "delete_action", "destroy_action"]
  | change => ["change", "change_function", "change_action"]
  | new => ["new", "new_function"]

/-- The operation that a key overrides, in snake case or camel case. -/
def ofOverrideKey? (key : String) : Option LogicalOp :=
  all.find? fun op => op.overrideKeys.contains (Text.snakeCase key)

@[simp]
theorem ofName?_name (op : LogicalOp) : ofName? op.name = some op := by
  cases op <;> decide

end LogicalOp

namespace RouteAction

def all : List RouteAction := [index, new, edit, detail, delete]

theorem mem_all (route : RouteAction) : route ∈ all := by
  cases route <;> decide

def name : RouteAction → String
  | index => "index"
  | new => "new"
  | edit => "edit"
  | detail => "show"
  | delete => "delete"

def ofName? (name : String) : Option RouteAction :=
  all.find? (·.name = name)

/-- The operations that the route needs. Pages of an index are a matter of the resource. -/
def operations : RouteAction → List LogicalOp
  | index => [.list]
  | detail => [.get]
  | new => [.new, .change, .create]
  | edit => [.get, .change, .update]
  | delete => [.delete]

@[simp]
theorem ofName?_name (route : RouteAction) : ofName? route.name = some route := by
  cases route <;> decide

end RouteAction

/-- Which routes a resource has: the ones listed, or all, without the excepted ones. -/
structure Routes where
  only : Option (List RouteAction) := none
  except : List RouteAction := []
  deriving DecidableEq, Repr

namespace Routes

def manifest (routes : Routes) : List RouteAction :=
  RouteAction.all.filter fun route =>
    (routes.only.all (·.contains route)) && !routes.except.contains route

theorem mem_manifest_iff (routes : Routes) (route : RouteAction) :
    route ∈ routes.manifest ↔
      (∀ only, routes.only = some only → route ∈ only) ∧ route ∉ routes.except := by
  cases listed : routes.only <;> simp [manifest, RouteAction.mem_all, listed]

def ofDocument? (document : Document) : Option Routes := do
  let route := Document.name? RouteAction.ofName?
  let record ← Record.ofDocument? ["only", "except"] document
  let only ← record.optional "only" (Document.list? route)
  let except ← record.defaulted "except" [] (Document.list? route)
  some { only, except }

end Routes

end Backoffice
