import Backoffice.Json.Document

/-!
What a data backend tells about a schema: its attributes, its relationships to other schemas, and
the actions that can be run on it.
-/

namespace Backoffice

/-- A handle of a schema of the backend. It is only compared. -/
structure SchemaName where
  text : String
  deriving DecidableEq, Repr, Inhabited

structure ContextName where
  text : String
  deriving DecidableEq, Repr, Inhabited

/-- The two kinds of backends: schemas with context functions found by naming convention, and
resources that declare typed actions. -/
inductive BackendKind where
  | simpleSchema
  | declarativeAction
  deriving DecidableEq, Repr

/-- What an action does to the data. -/
inductive ActionKind where
  | read
  | create
  | update
  | destroy
  deriving DecidableEq, Repr

/-- The four ways in which schemas refer to each other. -/
inductive RelationshipKind where
  | manyToOne
  | oneToMany
  | embedOne
  | embedMany
  deriving DecidableEq, Repr

structure Attribute where
  name : String
  /-- The backend's own name of the type. -/
  nativeType : String
  /-- The values that the attribute is restricted to. -/
  oneOf : Option (List String) := none
  primaryKey : Bool := false
  allowNil : Bool := true
  defaultValue : Option Json := none
  deriving DecidableEq, Repr

/-- A relationship from one schema to another, or to a schema embedded in it. -/
structure Relationship where
  name : String
  kind : RelationshipKind
  destination : SchemaName
  /-- The key on the owning side. -/
  sourceAttribute : Option String := none
  /-- The key on the other side. -/
  destinationAttribute : Option String := none
  deriving DecidableEq, Repr

/-- Whether an action can return pages: a flag, or options, which imply that it can. -/
inductive Pagination where
  | flag (enabled : Bool)
  | options (members : Members)
  deriving DecidableEq, Repr

/-- An action of a schema. -/
structure Action where
  name : String
  kind : ActionKind
  primary : Bool := false
  pagination : Pagination := .flag false
  /-- The number of arguments, where the backend exposes plain functions. -/
  arity : Option Nat := none
  deriving DecidableEq, Repr

/-- What a name exposed by a context points at. -/
structure ActionTarget where
  /-- The schema that the action works on, where the backend can tell. -/
  schema : Option SchemaName
  action : String
  arity : Option Nat
  deriving DecidableEq, Repr

/-! ### Names -/

namespace BackendKind

/-- The name in messages. -/
def label : BackendKind → String
  | simpleSchema => "simple-schema"
  | declarativeAction => "declarative-action"

/-- The name in data. -/
def name : BackendKind → String
  | simpleSchema => "simple_schema"
  | declarativeAction => "declarative_action"

end BackendKind

namespace ActionKind

def name : ActionKind → String
  | read => "read"
  | create => "create"
  | update => "update"
  | destroy => "destroy"

def ofName? : String → Option ActionKind
  | "read" => some read
  | "create" => some create
  | "update" => some update
  | "destroy" => some destroy
  | _ => none

@[simp]
theorem ofName?_name (kind : ActionKind) : ofName? kind.name = some kind := by
  cases kind <;> rfl

end ActionKind

namespace RelationshipKind

/-- Whether the other schema is part of its owner. -/
def isEmbed : RelationshipKind → Bool
  | embedOne | embedMany => true
  | manyToOne | oneToMany => false

def name : RelationshipKind → String
  | manyToOne => "many_to_one"
  | oneToMany => "one_to_many"
  | embedOne => "embed_one"
  | embedMany => "embed_many"

/-- The kind of a name; backends also use names of their own. -/
def ofName? : String → Option RelationshipKind
  | "many_to_one" | "belongs_to" => some manyToOne
  | "one_to_many" | "has_many" => some oneToMany
  | "embed_one" | "embeds_one" => some embedOne
  | "embed_many" | "embeds_many" => some embedMany
  | _ => none

@[simp]
theorem ofName?_name (kind : RelationshipKind) : ofName? kind.name = some kind := by
  cases kind <;> rfl

end RelationshipKind

/-! ### Modifiers -/

namespace Attribute

def restricted (attr : Attribute) (values : List String) : Attribute :=
  { attr with oneOf := some values }

def asPrimaryKey (attr : Attribute) : Attribute :=
  { attr with primaryKey := true, allowNil := false }

def asRequired (attr : Attribute) : Attribute :=
  { attr with allowNil := false }

end Attribute

namespace Relationship

def withKeys (relationship : Relationship) (source destination : String) : Relationship :=
  { relationship with sourceAttribute := some source, destinationAttribute := some destination }

end Relationship

namespace Pagination

def isEnabled : Pagination → Bool
  | flag enabled => enabled
  | options _ => true

end Pagination

namespace Action

def paginated (action : Action) : Action :=
  { action with pagination := .flag true }

end Action

/-! ### Data -/

namespace SchemaName

def ofDocument? (document : Document) : Option SchemaName := document.text?.map SchemaName.mk

def toJson (schema : SchemaName) : Json := .string schema.text

end SchemaName

namespace ContextName

def ofDocument? (document : Document) : Option ContextName := document.text?.map ContextName.mk

def toJson (context : ContextName) : Json := .string context.text

end ContextName

def Json.ofOption {Value : Type} (write : Value → Json) : Option Value → Json
  | none => .null
  | some value => write value

def Json.ofNat (value : Nat) : Json := .number (.int value)

def Json.ofTexts (texts : List String) : Json := .array (texts.map .string)

namespace Attribute

def ofDocument? (document : Document) : Option Attribute := do
  let record ← Record.ofDocument?
    ["name", "type", "one_of", "primary_key", "allow_nil", "default"] document
  let name ← record.required "name" Document.text?
  let nativeType ← record.required "type" Document.text?
  let oneOf ← record.optional "one_of" (Document.list? Document.text?)
  let primaryKey ← record.defaulted "primary_key" false Document.flag?
  let allowNil ← record.defaulted "allow_nil" true Document.flag?
  let defaultValue ← record.optional "default" Document.value?
  some { name, nativeType, oneOf, primaryKey, allowNil, defaultValue }

def toJson (attr : Attribute) : Json :=
  .object [
    ("allow_nil", .bool attr.allowNil),
    ("default", attr.defaultValue.getD .null),
    ("name", .string attr.name),
    ("one_of", Json.ofOption Json.ofTexts attr.oneOf),
    ("primary_key", .bool attr.primaryKey),
    ("type", .string attr.nativeType)]

end Attribute

namespace Relationship

def ofDocument? (document : Document) : Option Relationship := do
  let record ← Record.ofDocument?
    ["name", "kind", "destination", "source_attribute", "destination_attribute"] document
  let name ← record.required "name" Document.text?
  let kind ← record.required "kind" (Document.name? RelationshipKind.ofName?)
  let destination ← record.required "destination" SchemaName.ofDocument?
  let sourceAttribute ← record.optional "source_attribute" Document.text?
  let destinationAttribute ← record.optional "destination_attribute" Document.text?
  some { name, kind, destination, sourceAttribute, destinationAttribute }

def toJson (relationship : Relationship) : Json :=
  .object [
    ("destination", relationship.destination.toJson),
    ("destination_attribute", Json.ofOption .string relationship.destinationAttribute),
    ("kind", .string relationship.kind.name),
    ("name", .string relationship.name),
    ("source_attribute", Json.ofOption .string relationship.sourceAttribute)]

end Relationship

namespace Pagination

def ofDocument? (document : Document) : Option Pagination :=
  (document.flag?.map flag).or (document.members?.map options)

def toJson : Pagination → Json
  | flag enabled => .bool enabled
  | options members => .object members

end Pagination

namespace Action

def ofDocument? (document : Document) : Option Action := do
  let record ← Record.ofDocument? ["name", "type", "primary", "pagination", "arity"] document
  let name ← record.required "name" Document.text?
  let kind ← record.required "type" (Document.name? ActionKind.ofName?)
  let primary ← record.defaulted "primary" false Document.flag?
  let pagination ← record.defaulted "pagination" (.flag false) Pagination.ofDocument?
  let arity ← record.optional "arity" Document.byte?
  some { name, kind, primary, pagination, arity }

def toJson (action : Action) : Json :=
  .object [
    ("arity", Json.ofOption Json.ofNat action.arity),
    ("name", .string action.name),
    ("pagination", action.pagination.toJson),
    ("primary", .bool action.primary),
    ("type", .string action.kind.name)]

end Action

end Backoffice
