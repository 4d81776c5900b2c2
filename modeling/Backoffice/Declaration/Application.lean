import Backoffice.Declaration.Resource
import Backoffice.Layout.Declaration

/-!
The declaration of an application: its resources, their layouts, and rules that flag fields by their
names.
-/

namespace Backoffice

/-- Patterns of the keys of fields to disable, to hide and to omit. -/
structure NamingRules where
  disabled : List String := []
  hidden : List String := []
  omitted : List String := []
  deriving DecidableEq, Repr

/-- The declaration of an application. -/
structure AppDeclaration where
  resources : List ResourceDeclaration := []
  layouts : List LayoutDeclaration := []
  namingRules : NamingRules := {}

namespace NamingRules

def ofDocument? (document : Document) : Option NamingRules := do
  let record ← Record.ofDocument? ["disabled", "hidden", "omitted"] document
  let disabled ← record.defaulted "disabled" [] (Document.list? Document.text?)
  let hidden ← record.defaulted "hidden" [] (Document.list? Document.text?)
  let omitted ← record.defaulted "omitted" [] (Document.list? Document.text?)
  some { disabled, hidden, omitted }

end NamingRules

namespace AppDeclaration

def withResource (declaration : AppDeclaration) (resource : ResourceDeclaration) :
    AppDeclaration :=
  { declaration with resources := declaration.resources ++ [resource] }

def withLayout (declaration : AppDeclaration) (layout : LayoutDeclaration) : AppDeclaration :=
  { declaration with layouts := declaration.layouts ++ [layout] }

def ofDocument? (document : Document) : Option AppDeclaration := do
  let record ← Record.ofDocument? ["resources", "layouts", "naming_policy"] document
  let resources ← record.defaulted "resources" [] (Document.list? ResourceDeclaration.ofDocument?)
  let layouts ← record.defaulted "layouts" [] (Document.list? LayoutDeclaration.ofDocument?)
  let namingRules ← record.defaulted "naming_policy" {} NamingRules.ofDocument?
  some { resources, layouts, namingRules }

end AppDeclaration

end Backoffice
