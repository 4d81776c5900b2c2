import Backoffice.Catalog.Actions
import Backoffice.Catalog.Schemas

/-!
Data backends: what both kinds of catalogs can be asked.
-/

namespace Backoffice

/-- A backend, given by its catalog. -/
inductive Backend where
  | simple (catalog : SchemaCatalog)
  | declarative (catalog : ActionCatalog)
  deriving DecidableEq, Repr

structure Backends where
  simple : Option SchemaCatalog := none
  declarative : Option ActionCatalog := none
  deriving DecidableEq, Repr

namespace Backend

def kind : Backend → BackendKind
  | simple _ => .simpleSchema
  | declarative _ => .declarativeAction

def schemaNames : Backend → List SchemaName
  | simple catalog => catalog.schemas.map (·.name)
  | declarative catalog => catalog.resources.map (·.name)

def hasSchema (backend : Backend) (schema : SchemaName) : Bool :=
  backend.schemaNames.contains schema

def attributes (backend : Backend) (schema : SchemaName) : List Attribute :=
  match backend with
  | simple catalog => ((catalog.schema? schema).map (·.fields)).getD []
  | declarative catalog => ((catalog.resource? schema).map (·.attributes)).getD []

def relationships (backend : Backend) (schema : SchemaName) : List Relationship :=
  match backend with
  | simple catalog => ((catalog.schema? schema).map (·.associations)).getD []
  | declarative catalog => ((catalog.resource? schema).map (·.relationships)).getD []

/-- The actions of a kind on a schema in their order; with a context those that it exposes. -/
def actions (backend : Backend) (schema : SchemaName) (context : Option ContextName)
    (kind : ActionKind) : List Action :=
  match backend with
  | simple catalog => catalog.actions schema context kind
  | declarative catalog => catalog.actions schema context kind

def target? (backend : Backend) (context : ContextName) (name : String) : Option ActionTarget :=
  match backend with
  | simple catalog => catalog.target? context name
  | declarative catalog => catalog.target? context name

/-- The name that the action for an operation has by convention, where the backend has one. -/
def conventionalName? (backend : Backend) (schema : SchemaName) (op : LogicalOp) : Option String :=
  match backend with
  | simple catalog => catalog.conventionalName? schema op
  | declarative _ => none

/-- An action that the backend can only find by its name. Typed actions are always found. -/
def explicitAction? (backend : Backend) (context : ContextName) (name : String)
    (kind : ActionKind) : Option Action :=
  match backend with
  | simple catalog => catalog.explicitAction? context name kind
  | declarative _ => none

theorem attributes_eq_nil {backend : Backend} {schema : SchemaName}
    (unknown : schema ∉ backend.schemaNames) : backend.attributes schema = [] := by
  cases backend with
  | simple catalog => simp [attributes, SchemaCatalog.schema?_eq_none unknown]
  | declarative catalog => simp [attributes, ActionCatalog.resource?_eq_none unknown]

theorem relationships_eq_nil {backend : Backend} {schema : SchemaName}
    (unknown : schema ∉ backend.schemaNames) : backend.relationships schema = [] := by
  cases backend with
  | simple catalog => simp [relationships, SchemaCatalog.schema?_eq_none unknown]
  | declarative catalog => simp [relationships, ActionCatalog.resource?_eq_none unknown]

end Backend

namespace Backends

def get? (backends : Backends) : BackendKind → Option Backend
  | .simpleSchema => backends.simple.map .simple
  | .declarativeAction => backends.declarative.map .declarative

end Backends

end Backoffice
