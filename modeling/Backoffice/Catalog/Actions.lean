import Backoffice.Catalog.Metadata

/-!
Catalogs of resources that declare typed actions, and of the domains that expose them.
-/

namespace Backoffice

structure ActionResource where
  name : SchemaName
  attributes : List Attribute
  relationships : List Relationship := []
  actions : List Action := []
  deriving DecidableEq, Repr

/-- A name of a domain for one action of one resource. -/
structure Interface where
  name : String
  resource : SchemaName
  action : String
  arity : Option Nat := none
  deriving DecidableEq, Repr

/-- A domain: the resources it lists and the names it has for actions. -/
structure Domain where
  name : ContextName
  resources : List SchemaName := []
  interfaces : List Interface := []
  deriving DecidableEq, Repr

structure ActionCatalog where
  resources : List ActionResource
  domains : List Domain := []
  deriving DecidableEq, Repr

namespace Domain

/-- Whether the domain exposes an action of a resource. A domain with names for actions of the
resource exposes the named ones; a domain that only lists the resource exposes all of them. -/
def exposes (domain : Domain) (resource : SchemaName) (action : String) : Bool :=
  match domain.interfaces.filter (·.resource = resource) with
  | [] => domain.resources.contains resource
  | interfaces => interfaces.any (·.action = action)

end Domain

namespace ActionCatalog

/-- The resource of a name; of several the last. -/
def resource? (catalog : ActionCatalog) (name : SchemaName) : Option ActionResource :=
  catalog.resources.reverse.find? (·.name = name)

theorem resource?_eq_none {catalog : ActionCatalog} {name : SchemaName}
    (unknown : name ∉ catalog.resources.map (·.name)) : catalog.resource? name = none := by
  simp only [resource?, List.find?_eq_none, List.mem_reverse, decide_eq_true_eq]
  exact fun found member same => unknown (List.mem_map.2 ⟨found, member, same⟩)

/-- The domain of a name; of several the first. -/
def domain? (catalog : ActionCatalog) (name : ContextName) : Option Domain :=
  catalog.domains.find? (·.name = name)

/-- The actions of a kind on a resource, among those that a domain exposes or among all. An unknown
domain exposes none. -/
def actions (catalog : ActionCatalog) (resource : SchemaName) (domain : Option ContextName)
    (kind : ActionKind) : List Action :=
  match catalog.resource? resource with
  | none => []
  | some found =>
    let ofKind := found.actions.filter (·.kind = kind)
    match domain with
    | none => ofKind
    | some name =>
      match catalog.domain? name with
      | none => []
      | some domain => ofKind.filter fun action => domain.exposes resource action.name

def target? (catalog : ActionCatalog) (domain : ContextName) (name : String) :
    Option ActionTarget := do
  let domain ← catalog.domain? domain
  let interface ← domain.interfaces.find? (·.name = name)
  some { schema := some interface.resource, action := interface.action, arity := interface.arity }

end ActionCatalog

/-! ### Data -/

namespace ActionResource

def ofDocument? (document : Document) : Option ActionResource := do
  let record ← Record.ofDocument? ["name", "attributes", "relationships", "actions"] document
  let name ← record.required "name" SchemaName.ofDocument?
  let attributes ← record.required "attributes" (Document.list? Attribute.ofDocument?)
  let relationships ← record.defaulted "relationships" [] (Document.list? Relationship.ofDocument?)
  let actions ← record.defaulted "actions" [] (Document.list? Action.ofDocument?)
  some { name, attributes, relationships, actions }

def toJson (resource : ActionResource) : Json :=
  .object [
    ("actions", .array (resource.actions.map (·.toJson))),
    ("attributes", .array (resource.attributes.map (·.toJson))),
    ("name", resource.name.toJson),
    ("relationships", .array (resource.relationships.map (·.toJson)))]

end ActionResource

namespace Interface

def ofDocument? (document : Document) : Option Interface := do
  let record ← Record.ofDocument? ["name", "resource", "action", "arity"] document
  let name ← record.required "name" Document.text?
  let resource ← record.required "resource" SchemaName.ofDocument?
  let action ← record.required "action" Document.text?
  let arity ← record.optional "arity" Document.byte?
  some { name, resource, action, arity }

def toJson (interface : Interface) : Json :=
  .object [
    ("action", .string interface.action),
    ("arity", Json.ofOption Json.ofNat interface.arity),
    ("name", .string interface.name),
    ("resource", interface.resource.toJson)]

end Interface

namespace Domain

def ofDocument? (document : Document) : Option Domain := do
  let record ← Record.ofDocument? ["name", "resources", "interfaces"] document
  let name ← record.required "name" ContextName.ofDocument?
  let resources ← record.defaulted "resources" [] (Document.list? SchemaName.ofDocument?)
  let interfaces ← record.defaulted "interfaces" [] (Document.list? Interface.ofDocument?)
  some { name, resources, interfaces }

def toJson (domain : Domain) : Json :=
  .object [
    ("interfaces", .array (domain.interfaces.map (·.toJson))),
    ("name", domain.name.toJson),
    ("resources", .array (domain.resources.map (·.toJson)))]

end Domain

namespace ActionCatalog

def ofDocument? (document : Document) : Option ActionCatalog := do
  let record ← Record.ofDocument? ["resources", "domains"] document
  let resources ← record.required "resources" (Document.list? ActionResource.ofDocument?)
  let domains ← record.defaulted "domains" [] (Document.list? Domain.ofDocument?)
  some { resources, domains }

def toJson (catalog : ActionCatalog) : Json :=
  .object [
    ("domains", .array (catalog.domains.map (·.toJson))),
    ("resources", .array (catalog.resources.map (·.toJson)))]

end ActionCatalog

end Backoffice
