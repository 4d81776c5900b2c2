import Backoffice.Catalog.Backend
import Backoffice.Operation.Overrides

/-!
Resolution of operations: which action of the backend carries out an operation, and how new entities
are made.

An overriding name restricts the candidates to that name, otherwise the backend's naming convention
does, if it has one. Pages need an action that returns pages. The first primary candidate counts,
else the first one. An operation without a candidate is an error.
-/

namespace Backoffice

/-- How new entities are made. -/
inductive Initializer where
  /-- Every attribute at its default, overlaid with the given attributes. -/
  | blank (defaults : Members)
  /-- A function of the backend with two arguments. -/
  | function (context : ContextName) (name : String)
  | custom (make : NewEntity)

/-- What an operation leads to. -/
inductive OperationTarget where
  | action (action : Action)
  | initializer (initializer : Initializer)

/-- An operation of a resource with all that is needed to carry it out. -/
structure OperationReference where
  op : LogicalOp
  resource : String
  backend : BackendKind
  schema : SchemaName
  context : Option ContextName
  target : OperationTarget

/-- Where operations are looked for. -/
structure OperationScope where
  resource : String
  schema : SchemaName
  context : Option ContextName
  deriving DecidableEq, Repr

namespace Initializer

/-- A new entity; functions of the backend do not run here. -/
def build : Initializer → Members → Members → Option Json
  | blank defaults, attrs, _ => some (.object (defaults.merge attrs))
  | function _ _, _, _ => none
  | custom make, attrs, opts => some (make attrs opts)

def toJson : Initializer → Json
  | blank _ => .string "blank"
  | function _ name => .string name
  | custom _ => .string "fn/2"

end Initializer

namespace OperationTarget

def toJson : OperationTarget → Json
  | .action found => .object [("action", found.toJson)]
  | .initializer way => .object [("initializer", way.toJson)]

end OperationTarget

namespace OperationReference

def action? (reference : OperationReference) : Option Action :=
  match reference.target with
  | .action found => some found
  | .initializer _ => none

def initializer? (reference : OperationReference) : Option Initializer :=
  match reference.target with
  | .action _ => none
  | .initializer way => some way

def toJson (reference : OperationReference) : Json :=
  .object [
    ("backend", .string reference.backend.name),
    ("context", Json.ofOption ContextName.toJson reference.context),
    ("op", .string reference.op.name),
    ("resource", .string reference.resource),
    ("schema", reference.schema.toJson),
    ("target", reference.target.toJson)]

end OperationReference

namespace OperationScope

/-- The actions to choose from, and the name they must have, if any. -/
structure Candidates where
  wanted : Option String
  actions : List Action
  deriving DecidableEq, Repr

/-- The candidates for an operation under an overriding name, or under none. A name exposed by the
context stands for the action it points at, on the schema of that action. -/
def candidates (scope : OperationScope) (backend : Backend) (op : LogicalOp) (kind : ActionKind) :
    Option String → Candidates
  | some name =>
    let target := scope.context.bind fun context => backend.target? context name
    { wanted := some ((target.map (·.action)).getD name)
      actions :=
        match target.bind (·.schema) with
        | some schema => backend.actions schema none kind
        | none => backend.actions scope.schema scope.context kind }
  | none =>
    { wanted := backend.conventionalName? scope.schema op
      actions := backend.actions scope.schema scope.context kind }

def Candidates.named (candidates : Candidates) : List Action :=
  match candidates.wanted with
  | some name => candidates.actions.filter (·.name = name)
  | none => candidates.actions

/-- The first primary action, else the first one. -/
def choose? (actions : List Action) : Option Action :=
  (actions.find? (·.primary)).or actions.head?

def Candidates.searched (candidates : Candidates) (op : LogicalOp) (kind : ActionKind) : String :=
  match candidates.wanted with
  | some name => name
  | none =>
    if op = .listPaginated then "any paginated " ++ kind.name ++ " action"
    else "any " ++ kind.name ++ " action"

/-- The action for an operation. A named function that the backend cannot find by convention still
counts, and is taken to return pages where pages are asked for. -/
def resolveAction (scope : OperationScope) (backend : Backend) (op : LogicalOp) (kind : ActionKind)
    (overrides : OperationOverrides) : Except Error Action :=
  let explicit := (overrides.nameFor op).join
  let candidates := scope.candidates backend op kind explicit
  let named := candidates.named
  let fallback :=
    if named.isEmpty then
      scope.context.bind fun context =>
        explicit.bind fun name => backend.explicitAction? context name kind
    else none
  match fallback with
  | some action => .ok (if op = .listPaginated then action.paginated else action)
  | none =>
    let fitting := if op = .listPaginated then named.filter (·.pagination.isEnabled) else named
    match choose? fitting with
    | some action => .ok action
    | none => .error (.missingOperation scope.resource kind (candidates.searched op kind))

/-- The defaults of the attributes of a schema, null where there is none. -/
def defaults (scope : OperationScope) (backend : Backend) : Members :=
  Table.ofList ((backend.attributes scope.schema).map fun attr =>
    (attr.name, attr.defaultValue.getD .null))

/-- The function of a name that makes new entities: the context must expose it with two
arguments. -/
def namedInitializer (scope : OperationScope) (backend : Backend) (name : String) :
    Except InitializerFault Initializer :=
  match scope.context with
  | none => .error (.withoutContext name)
  | some context =>
    match backend.target? context name with
    | none => .error (.notFound name context)
    | some target =>
      match target.arity with
      | some 2 => .ok (.function context name)
      | some arity => .error (.wrongArity name arity)
      | none => .error (.unknownArity name)

def initializerFor (scope : OperationScope) (backend : Backend) :
    Option (Option String) → Except InitializerFault Initializer
  | none => .ok (.blank (scope.defaults backend))
  | some none => .error .overrideNull
  | some (some "") => .error .overrideEmpty
  | some (some name) => scope.namedInitializer backend name

/-- How new entities are made: in the caller's own way, by a named function, or blank. -/
def resolveInitializer (scope : OperationScope) (backend : Backend)
    (overrides : OperationOverrides) : Except Error Initializer :=
  match overrides.newEntity with
  | some make => .ok (.custom make)
  | none =>
    (scope.initializerFor backend (overrides.nameFor .new)).mapError
      (.invalidInitializer scope.resource)

def resolveTarget (scope : OperationScope) (backend : Backend) (op : LogicalOp)
    (overrides : OperationOverrides) : Except Error OperationTarget :=
  match op.actionKind? with
  | some kind => (scope.resolveAction backend op kind overrides).map .action
  | none => (scope.resolveInitializer backend overrides).map .initializer

def resolve (scope : OperationScope) (backend : Backend) (op : LogicalOp)
    (overrides : OperationOverrides) : Except Error OperationReference :=
  (scope.resolveTarget backend op overrides).map fun target =>
    { op
      resource := scope.resource
      backend := backend.kind
      schema := scope.schema
      context := scope.context
      target }

end OperationScope

end Backoffice
