import Backoffice.Declaration.Validation
import Backoffice.Layout.Compile

/-!
Compiled applications: all resources with their fields and operations, and the layout trees of all
their views. Compiling fails at the first thing that is wrong.
-/

namespace Backoffice

structure ViewTrees where
  index : LayoutTree
  detail : LayoutTree
  form : LayoutTree
  deriving Repr

structure AppSchema where
  registry : Registry
  /-- The trees of each resource, in the order of their registration. -/
  layouts : List (String × ViewTrees)

namespace ViewTrees

def get (trees : ViewTrees) : View → LayoutTree
  | .index => trees.index
  | .detail => trees.detail
  | .form => trees.form

def compile (registry : Registry) (declared : Option LayoutDeclaration) (resource : Resource) :
    Except Error ViewTrees := do
  let index ← LayoutTree.compile resource .index declared registry
  let detail ← LayoutTree.compile resource .detail declared registry
  let form ← LayoutTree.compile resource .form declared registry
  .ok { index, detail, form }

def toJson (trees : ViewTrees) : Json :=
  .object (Table.ofList (View.all.map fun view => (view.name, (trees.get view).toJson)))

end ViewTrees

namespace AppDeclaration

def layout? (declaration : AppDeclaration) (resource : String) : Option LayoutDeclaration :=
  declaration.layouts.find? (·.resource = resource)

/-- Every layout must be for a registered resource. -/
def validateLayouts (declaration : AppDeclaration) (registry : Registry) : Except Error Unit :=
  match declaration.layouts.find? fun layout => !registry.contains layout.resource with
  | some layout => .error (.missingReference .resource layout.resource)
  | none => .ok ()

def compileLayouts (declaration : AppDeclaration) (registry : Registry) (resource : Resource) :
    Except Error (String × ViewTrees) :=
  (ViewTrees.compile registry (declaration.layout? resource.name) resource).map fun trees =>
    (resource.name, trees)

def compile (declaration : AppDeclaration) (backends : Backends) : Except Error AppSchema := do
  declaration.validate backends
  let policy ← NamingPolicy.ofRules declaration.namingRules
  let registry ← Registry.build declaration.resources backends policy
  declaration.validateLayouts registry
  let layouts ← registry.resources.mapM (declaration.compileLayouts registry)
  .ok { registry, layouts }

end AppDeclaration

namespace AppSchema

def resource? (app : AppSchema) (name : String) : Option Resource :=
  app.registry.get? name

def layout? (app : AppSchema) (resource : String) (view : View) : Option LayoutTree :=
  (app.layouts.find? (·.1 = resource)).map fun (_, trees) => trees.get view

/-- The routes of a resource; a resource that is unknown or embedded has none. -/
def routes (app : AppSchema) (resource : String) : List RouteAction :=
  ((app.resource? resource).map (·.routes)).getD []

/-- The declared resources with their routes, in the order of their registration. -/
def routeManifest (app : AppSchema) : List (String × List RouteAction) :=
  (app.registry.resources.filter fun resource => !resource.isEmbedded).map fun resource =>
    (resource.name, resource.routes)

def toJson (app : AppSchema) : Json :=
  .object [
    ("layouts", .object (Table.ofList (app.layouts.map fun (name, trees) =>
      (name, trees.toJson)))),
    ("registry", app.registry.toJson)]

end AppSchema

end Backoffice
