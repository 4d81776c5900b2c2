import Backoffice.Catalog.Backend
import Backoffice.Declaration.Application
import Backoffice.Resource.Embeds

/-!
The registry of resources, in the order of their registration: each declared resource is followed by
the resources of its embeds.
-/

namespace Backoffice

/-- Resources in the order of their registration, each name once. The table of the resources by
their names and the order of these names are one list here, so in every registry the names in order
are those that can be looked up. -/
structure Registry where
  resources : List Resource := []

namespace Registry

def names (registry : Registry) : List String :=
  registry.resources.map (·.name)

def get? (registry : Registry) (name : String) : Option Resource :=
  registry.resources.find? (·.name = name)

def contains (registry : Registry) (name : String) : Bool :=
  registry.names.contains name

/-- Register a resource; its name must be free. -/
def insert (registry : Registry) (resource : Resource) : Except Error Registry :=
  if registry.contains resource.name then .error (.duplicateResource resource.name)
  else .ok { resources := registry.resources ++ [resource] }

def insertAll (registry : Registry) (resources : List Resource) : Except Error Registry :=
  resources.foldlM insert registry

/-- The first declared resource of a schema; resources of embeds do not count. -/
def findBySchema? (registry : Registry) (schema : SchemaName) : Option Resource :=
  registry.resources.find? fun resource => !resource.isEmbedded && resource.schema = schema

/-- Let the associations of a field lead to the registered resource of their schema, if there is
one. -/
def linkField (registry : Registry) (field : Field) : Field :=
  match field.data with
  | .association data =>
    { field with
      data := .association
        { data with resource := (registry.findBySchema? data.related).map (·.name) } }
  | _ => field

def linkResource (registry : Registry) (resource : Resource) : Resource :=
  { resource with
    fields := resource.fields.map fun (key, field) => (key, registry.linkField field) }

def link (registry : Registry) : Registry :=
  { resources := registry.resources.map registry.linkResource }

def discover (backends : Backends) (policy : NamingPolicy) (declaration : ResourceDeclaration) :
    Except Error Resource := do
  let (kind, schema, context) ← declaration.backend
  match backends.get? kind with
  | none => .error (.unsupportedBackend declaration.name kind)
  | some backend =>
    .ok (.discover declaration.name backend schema context (some declaration) policy none)

/-- Register a declared resource and the resources of its embeds. -/
def register (backends : Backends) (policy : NamingPolicy) (registry : Registry)
    (declaration : ResourceDeclaration) : Except Error Registry := do
  let resource ← discover backends policy declaration
  let embedded ← resource.synthesizeEmbeds policy
  registry.insertAll (resource :: embedded)

/-- Attach the routes and operations of a declared resource. -/
def attach (registry : Registry) (declaration : ResourceDeclaration) : Except Error Registry := do
  let resources ← registry.resources.mapM fun resource =>
    if resource.name = declaration.name then resource.withOperations declaration
    else .ok resource
  .ok { resources }

def build (declarations : List ResourceDeclaration) (backends : Backends) (policy : NamingPolicy) :
    Except Error Registry := do
  let registry ← declarations.foldlM (register backends policy) {}
  declarations.foldlM attach registry.link

def toJson (registry : Registry) : Json :=
  .object [
    ("order", Json.ofTexts registry.names),
    ("resources", .object (Table.ofList (registry.resources.map fun resource =>
      (resource.name, resource.toJson))))]

@[simp]
theorem names_link (registry : Registry) : registry.link.names = registry.names := by
  simp [link, names, linkResource, Function.comp_def]

theorem contains_iff (registry : Registry) (name : String) :
    registry.contains name ↔ ∃ resource ∈ registry.resources, resource.name = name := by
  simp [contains, names]

end Registry

end Backoffice
