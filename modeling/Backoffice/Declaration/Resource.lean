import Backoffice.Declaration.Field
import Backoffice.Error
import Backoffice.Operation.Logical

/-!
What a declaration says about one resource. Naming a schema chooses the backend of plain schemas,
naming a resource of the backend chooses the one of typed actions.
-/

namespace Backoffice

/-- A caller's own way to make a new entity from attributes and options. -/
abbrev NewEntity := Members → Members → Json

structure ResourceDeclaration where
  name : String
  schema : Option SchemaName := none
  context : Option ContextName := none
  resource : Option SchemaName := none
  domain : Option ContextName := none
  /-- The declared fields, in the order in which they are shown. -/
  fields : List FieldDeclaration := []
  /-- Names of actions by override key; null withdraws the name. -/
  operations : Table (Option String) := []
  opts : Members := []
  routes : Routes := {}
  /-- Only set by callers, never read. -/
  newEntity : Option NewEntity := none

namespace ResourceDeclaration

def simple (name schema : String) (context : Option String) : ResourceDeclaration :=
  { name, schema := some ⟨schema⟩, context := context.map ContextName.mk }

def declarative (name resource : String) (domain : Option String) : ResourceDeclaration :=
  { name, resource := some ⟨resource⟩, domain := domain.map ContextName.mk }

def withField (declaration : ResourceDeclaration) (field : FieldDeclaration) :
    ResourceDeclaration :=
  { declaration with fields := declaration.fields ++ [field] }

def withOperation (declaration : ResourceDeclaration) (key : String) (name : Option String) :
    ResourceDeclaration :=
  { declaration with operations := declaration.operations.insert key name }

def withOpt (declaration : ResourceDeclaration) (key : String) (value : Json) :
    ResourceDeclaration :=
  { declaration with opts := declaration.opts.insert key value }

def asksForPages (opts : Members) : Bool :=
  opts.get? "paginated" = some (.bool true)

/-- The first declaration of a field of that name. -/
def field? (declaration : ResourceDeclaration) (key : String) : Option FieldDeclaration :=
  declaration.fields.find? (·.name = key)

def backend (declaration : ResourceDeclaration) :
    Except Error (BackendKind × SchemaName × Option ContextName) :=
  match declaration.schema, declaration.resource with
  | some schema, none => .ok (.simpleSchema, schema, declaration.context)
  | none, some resource => .ok (.declarativeAction, resource, declaration.domain)
  | some _, some _ => .error (.validation (.twoBackends declaration.name))
  | none, none => .error (.validation (.noBackend declaration.name))

def overrideName? : Document → Option (Option String)
  | .null => some none
  | document => document.text?.map some

/-- Overrides by key; the last of two overrides under one key counts. -/
def operations? : Document → Option (Table (Option String))
  | .object members =>
    (members.mapM fun member =>
      (overrideName? member.2).map fun name => (member.1, name)).map Table.ofList
  | _ => none

def ofDocument? (document : Document) : Option ResourceDeclaration := do
  let record ← Record.ofDocument?
    ["name", "schema", "context", "resource", "domain", "fields", "operations", "opts",
      "routes"] document
  let name ← record.required "name" Document.text?
  let schema ← record.optional "schema" SchemaName.ofDocument?
  let context ← record.optional "context" ContextName.ofDocument?
  let resource ← record.optional "resource" SchemaName.ofDocument?
  let domain ← record.optional "domain" ContextName.ofDocument?
  let fields ← record.defaulted "fields" [] (Document.list? FieldDeclaration.ofDocument?)
  let operations ← record.defaulted "operations" [] operations?
  let opts ← record.defaulted "opts" [] Document.members?
  let routes ← record.defaulted "routes" {} Routes.ofDocument?
  some { name, schema, context, resource, domain, fields, operations, opts, routes }

end ResourceDeclaration

end Backoffice
