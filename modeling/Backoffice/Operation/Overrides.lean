import Backoffice.Declaration.Resource

/-!
The operations that a declaration overrides, and the names it gives them.
-/

namespace Backoffice

/-- The overrides of a resource: names of actions by key, and a way to make new entities. -/
structure OperationOverrides where
  names : Table (Option String) := []
  newEntity : Option NewEntity := none

namespace OperationOverrides

def ofDeclaration (declaration : ResourceDeclaration) : OperationOverrides :=
  { names := declaration.operations, newEntity := declaration.newEntity }

/-- The name that overrides an operation, found under the most general of its keys that is present;
`some none` is a name withdrawn. -/
def nameFor (overrides : OperationOverrides) (op : LogicalOp) : Option (Option String) :=
  op.overrideKeys.findSome? fun wanted =>
    (overrides.names.find? fun entry => Text.snakeCase entry.1 = wanted).map (·.2)

/-- Whether an operation is overridden by some key or, for `new`, by a way to make entities. -/
def isOverridden (overrides : OperationOverrides) (op : LogicalOp) : Bool :=
  overrides.names.any (fun entry => LogicalOp.ofOverrideKey? entry.1 = some op) ||
    (op = .new && overrides.newEntity.isSome)

def overriddenOps (overrides : OperationOverrides) : List LogicalOp :=
  LogicalOp.all.filter overrides.isOverridden

/-- The operations that a resource needs, in their order: those of its routes, pages where the index
has them, and the overridden ones. -/
def requiredOps (overrides : OperationOverrides) (routes : List RouteAction) (paginated : Bool) :
    List LogicalOp :=
  LogicalOp.all.filter fun op =>
    overrides.isOverridden op || routes.any (·.operations.contains op) ||
      (op = .listPaginated && paginated && routes.contains .index)

def requiredByDeclaration (declaration : ResourceDeclaration) : List LogicalOp :=
  (ofDeclaration declaration).requiredOps declaration.routes.manifest
    (ResourceDeclaration.asksForPages declaration.opts)

end OperationOverrides

end Backoffice
