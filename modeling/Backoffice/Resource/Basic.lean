import Backoffice.Operation.Resolution
import Backoffice.Resource.Relation

/-!
Resources: the fields, operations and routes of one schema, discovered through its backend and
merged with a declaration.
-/

namespace Backoffice

structure Resource where
  name : String
  backend : Backend
  schema : SchemaName
  context : Option ContextName
  fields : Table Field
  /-- The keys in the order in which fields are shown: declared ones first, then discovered ones. -/
  order : List String
  operations : List (LogicalOp × OperationReference) := []
  routes : List RouteAction := []
  opts : Members := []
  /-- The resource that this one is embedded in. -/
  parent : Option String := none

/-- Fields found so far, and their keys in the order in which they were found. -/
structure Discovery where
  fields : Table Field := []
  order : List String := []

namespace Discovery

structure Setting where
  owner : String
  schema : SchemaName
  declaration : Option ResourceDeclaration
  policy : NamingPolicy

def Setting.field? (setting : Setting) (key : String) : Option FieldDeclaration :=
  setting.declaration.bind (·.field? key)

def addAttribute (setting : Setting) (found : Discovery) (attr : Attribute) : Discovery :=
  { fields :=
      found.fields.insert attr.name
        (.ofAttribute attr (setting.field? attr.name) setting.policy)
    order := found.order ++ [attr.name] }

/-- Add the field of a relationship; a field it takes over keeps its place. -/
def addRelationship (setting : Setting) (found : Discovery) (relationship : Relationship) :
    Discovery :=
  let key := relationship.fieldKey found.fields
  let existing := found.fields.get? key
  { fields :=
      found.fields.insert key
        (relationship.field setting.owner setting.schema key existing (setting.field? key)
          setting.policy)
    order := if existing.isSome then found.order else found.order ++ [key] }

/-- Add the field of a declaration, unless the backend has it. -/
def addDeclared (policy : NamingPolicy) (fields : Table Field) (declaration : FieldDeclaration) :
    Table Field :=
  if fields.contains declaration.name then fields
  else fields.insert declaration.name (.ofDeclaration declaration policy)

/-- Keys in their order, followed by those of a second list that are not there yet. -/
def appendNew (order more : List String) : List String :=
  more.foldl (fun order key => if order.contains key then order else order ++ [key]) order

/-- The fields of some attributes and relationships, before those that are only declared. -/
def run (setting : Setting) (attributes : List Attribute) (relationships : List Relationship) :
    Discovery :=
  relationships.foldl (addRelationship setting) (attributes.foldl (addAttribute setting) {})

end Discovery

namespace Resource

/-- The resource of a schema, discovered through a backend and merged with its declaration. It has
no operations and routes yet. -/
def discover (name : String) (backend : Backend) (schema : SchemaName)
    (context : Option ContextName) (declaration : Option ResourceDeclaration)
    (policy : NamingPolicy) (parent : Option String) : Resource :=
  let found := Discovery.run { owner := name, schema, declaration, policy }
    (backend.attributes schema) (backend.relationships schema)
  let declared := (declaration.map (·.fields)).getD []
  { name
    backend
    schema
    context
    fields := declared.foldl (Discovery.addDeclared policy) found.fields
    order := Discovery.appendNew (declared.map (·.name)) found.order
    opts := (declaration.map (·.opts)).getD []
    parent }

def field? (resource : Resource) (key : String) : Option Field :=
  resource.fields.get? key

def orderedFields (resource : Resource) : List Field :=
  resource.order.filterMap resource.field?

def operation? (resource : Resource) (op : LogicalOp) : Option OperationReference :=
  (resource.operations.find? (·.1 = op)).map (·.2)

/-- Whether the resource is part of another one. -/
def isEmbedded (resource : Resource) : Bool :=
  resource.parent.isSome

def isPaginated (resource : Resource) : Bool :=
  ResourceDeclaration.asksForPages resource.opts

def queryOpts (resource : Resource) : QueryOpts :=
  .ofMembers resource.opts

def scope (resource : Resource) : OperationScope :=
  { resource := resource.name, schema := resource.schema, context := resource.context }

/-- The resource with the routes of its declaration and the operations that they need. -/
def withOperations (resource : Resource) (declaration : ResourceDeclaration) :
    Except Error Resource := do
  let routes := declaration.routes.manifest
  let overrides := OperationOverrides.ofDeclaration declaration
  let required := overrides.requiredOps routes resource.isPaginated
  let operations ← required.mapM fun op => do
    let reference ← resource.scope.resolve resource.backend op overrides
    .ok (op, reference)
  .ok { resource with routes, operations }

def toJson (resource : Resource) : Json :=
  .object [
    ("backend", .string resource.backend.kind.name),
    ("context", Json.ofOption ContextName.toJson resource.context),
    ("fields", .object (resource.fields.map fun (key, field) => (key, field.toJson))),
    ("fields_order", Json.ofTexts resource.order),
    ("name", .string resource.name),
    ("operations", .object (Table.ofList (resource.operations.map fun (op, reference) =>
      (op.name, reference.toJson)))),
    ("opts", .object resource.opts),
    ("parent", Json.ofOption .string resource.parent),
    ("routes", Json.ofTexts (resource.routes.map (·.name))),
    ("schema", resource.schema.toJson)]

/-- The embeds among the fields, in the order in which they are shown. -/
def embeds (resource : Resource) : List EmbedData :=
  resource.orderedFields.filterMap (·.embed?)

/-- The resource that stands for an embed: discovered through the same backend, without a
declaration. -/
def embedded (resource : Resource) (policy : NamingPolicy) (embed : EmbedData) : Resource :=
  discover embed.resource resource.backend embed.related resource.context none policy
    (some resource.name)

@[simp]
theorem backend_embedded (resource : Resource) (policy : NamingPolicy) (embed : EmbedData) :
    (resource.embedded policy embed).backend = resource.backend := rfl

theorem embeds_embedded_eq_nil {resource : Resource} {policy : NamingPolicy} {embed : EmbedData}
    (unknown : embed.related ∉ resource.backend.schemaNames) :
    (resource.embedded policy embed).embeds = [] := by
  simp [embeds, orderedFields, embedded, discover, Backend.attributes_eq_nil unknown,
    Backend.relationships_eq_nil unknown, Discovery.run, Discovery.appendNew]

end Resource

end Backoffice
