import Backoffice.Catalog.Metadata

/-!
Everything that can be wrong with a configuration, by cause, and the message for each cause.
-/

namespace Backoffice

inductive ReferenceKind where
  | schema
  | resource
  deriving DecidableEq, Repr

/-- Why the initializer named for new entities cannot be used. -/
inductive InitializerFault where
  | overrideNull
  | overrideEmpty
  | withoutContext (name : String)
  | notFound (name : String) (context : ContextName)
  | wrongArity (name : String) (arity : Nat)
  | unknownArity (name : String)
  deriving DecidableEq, Repr

/-- The containers of a layout that may not be empty. -/
inductive ContainerKind where
  | stacked
  | inline
  | group
  | tab
  deriving DecidableEq, Repr

inductive View where
  | index
  | detail
  | form
  deriving DecidableEq, Repr

/-- What is wrong with the shape of a layout. -/
inductive LayoutFault where
  | noColumns
  | columnNotField
  | noItems (view : View)
  | emptyContainer (kind : ContainerKind) (name : String)
  | emptyTabs (sectionsId : String)
  | notTab (sectionsId : String)
  | strayTab (label : String)
  deriving DecidableEq, Repr

/-- What is wrong with a declaration on its own or beside the others. -/
inductive DeclarationFault where
  | emptyResourceName
  | reservedSeparator (resource : String)
  | twoBackends (resource : String)
  | noBackend (resource : String)
  | repeatedField (resource field : String)
  | unknownOperationKey (resource key : String)
  | repeatedLayout (resource : String)
  deriving DecidableEq, Repr

/-- What is wrong with a configuration. -/
inductive Error where
  | missingReference (kind : ReferenceKind) (id : String)
  | duplicateResource (name : String)
  | unsupportedBackend (resource : String) (kind : BackendKind)
  | missingOperation (resource : String) (kind : ActionKind) (action : String)
  | invalidInitializer (resource : String) (fault : InitializerFault)
  | unknownField (resource field : String)
  | omittedField (resource field : String)
  | malformedLayout (resource : String) (fault : LayoutFault)
  | embedCycle (chain : List SchemaName)
  | invalidPolicy (pattern : String)
  /-- A text that does not read as the declaration it should hold. -/
  | load
  | validation (fault : DeclarationFault)
  deriving DecidableEq, Repr

namespace ReferenceKind

def label : ReferenceKind → String
  | schema => "schema"
  | resource => "resource"

end ReferenceKind

namespace View

/-- All views, in the order in which they are compiled. -/
def all : List View := [index, detail, form]

def name : View → String
  | index => "index"
  | detail => "show"
  | form => "form"

def ofName? : String → Option View
  | "index" => some index
  | "show" => some detail
  | "form" => some form
  | _ => none

@[simp]
theorem ofName?_name (view : View) : ofName? view.name = some view := by
  cases view <;> rfl

end View

namespace ContainerKind

def name : ContainerKind → String
  | stacked => "stacked"
  | inline => "inline"
  | group => "group"
  | tab => "section"

end ContainerKind

namespace InitializerFault

def message : InitializerFault → String
  | overrideNull => "override is null"
  | overrideEmpty => "override is empty"
  | withoutContext name => s!"'{name}' needs a context to resolve"
  | notFound name context => s!"'{name}' not found in {context.text}"
  | wrongArity name arity => s!"'{name}' has arity {arity}, expected 2"
  | unknownArity name => s!"'{name}' has unknown arity, expected 2"

end InitializerFault

namespace LayoutFault

def message : LayoutFault → String
  | noColumns => "index declares no columns"
  | columnNotField => "index columns must be fields"
  | noItems view => s!"{view.name} view declares no items"
  | emptyContainer kind name => s!"empty {kind.name} container '{name}'"
  | emptyTabs sectionsId => s!"empty sections container '{sectionsId}'"
  | notTab sectionsId => s!"{sectionsId} may only contain sections"
  | strayTab label => s!"section '{label}' outside of a sections container"

end LayoutFault

namespace DeclarationFault

def message : DeclarationFault → String
  | emptyResourceName => "resource name must not be empty"
  | reservedSeparator resource =>
    s!"resource name '{resource}' must not contain '__' (reserved for embeds)"
  | twoBackends resource => s!"resource '{resource}' sets both schema and resource"
  | noBackend resource => s!"resource '{resource}' needs a schema or a resource"
  | repeatedField resource field => s!"resource '{resource}' declares field '{field}' twice"
  | unknownOperationKey resource key => s!"resource '{resource}': unknown operation key '{key}'"
  | repeatedLayout resource => s!"layout for '{resource}' declared twice"

end DeclarationFault

namespace Error

def message : Error → String
  | missingReference kind id => s!"missing reference: {kind.label} '{id}'"
  | duplicateResource name => s!"duplicate resource: {name}"
  | unsupportedBackend resource kind =>
    s!"resource '{resource}': no {kind.label} backend configured"
  | missingOperation resource kind action =>
    s!"resource '{resource}': no {kind.name} action found (searched for {action})"
  | invalidInitializer resource fault =>
    s!"resource '{resource}': invalid `new` initializer: {fault.message}"
  | unknownField resource field => s!"layout for '{resource}' references unknown field '{field}'"
  | omittedField resource field => s!"layout for '{resource}' references omitted field '{field}'"
  | malformedLayout resource fault => s!"malformed layout for '{resource}': {fault.message}"
  | embedCycle chain =>
    "embed cycle detected: " ++ " -> ".intercalate (chain.map (·.text))
  | invalidPolicy pattern => s!"invalid naming policy pattern '{pattern}'"
  | load => "config load: the text does not hold the declaration"
  | validation fault => s!"validation: {fault.message}"

end Error

end Backoffice
