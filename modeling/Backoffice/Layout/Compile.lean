import Backoffice.Layout.Declaration
import Backoffice.Layout.Tree
import Backoffice.Resource.Registry

/-!
Layout trees from declarations.

Every declared item becomes one node. A node inherits the options of the nodes around it, as far as
it does not declare them itself. Groups of tabs are numbered from zero in the order in which they
are declared, an outer one before those inside it; their ids, and those of their tabs, are made from
the number. Views that are not declared show the fields of the resource in their order.
-/

namespace Backoffice

namespace LayoutItem

mutual

def tabsCount : LayoutItem → Nat
  | field _ _ => 0
  | stacked items _ | inline items _ | group _ items _ | tab _ _ items _ => tabsCountOfList items
  | tabs items _ => tabsCountOfList items + 1

def tabsCountOfList : List LayoutItem → Nat
  | [] => 0
  | item :: rest => tabsCount item + tabsCountOfList rest

end

def isDeclaredActive : LayoutItem → Bool
  | tab _ (some true) _ _ => true
  | _ => false

/-- Whether the item can be the only node of a view. -/
def isContainer : LayoutItem → Bool
  | field _ _ | tab _ _ _ _ => false
  | stacked _ _ | inline _ _ | group _ _ _ | tabs _ _ => true

end LayoutItem

structure LayoutScope where
  resource : Resource
  registry : Registry
  view : View

namespace LayoutScope

def malformed (scope : LayoutScope) (fault : LayoutFault) : Error :=
  .malformedLayout scope.resource.name fault

def sectionsId (scope : LayoutScope) (number : Nat) : String :=
  s!"{scope.resource.name}-{scope.view.name}-sections-{number}"

def tabId (sectionsId : String) (index : Nat) : String :=
  s!"{sectionsId}-tab-{index}"

/-- The field of a name. It must not be omitted, and what it embeds must be registered. -/
def field (scope : LayoutScope) (name : String) : Except Error Field :=
  match scope.resource.field? name with
  | none => .error (.unknownField scope.resource.name name)
  | some field =>
    if field.omitted then .error (.omittedField scope.resource.name name)
    else
      match field.embed? with
      | none => .ok field
      | some embed =>
        if scope.registry.contains embed.resource then .ok field
        else .error (.missingReference .resource embed.resource)

def fieldNode (opts : Members) (field : Field) : LayoutNode :=
  .mk .field field.key (.field field.relatedResource?) opts []

def requireItems (scope : LayoutScope) (kind : ContainerKind) (name : String)
    (items : List LayoutItem) : Except Error Unit :=
  if items.isEmpty then .error (scope.malformed (.emptyContainer kind name)) else .ok ()

/-- Whether a tab is shown first: as it declares, else only the first tab is, unless some
tab declares that it is. -/
def isActive (declared : Option Bool) (explicit : Bool) (index : Nat) : Bool :=
  declared.getD (!explicit && index = 0)

mutual

/-- The node of an item, where groups of tabs are numbered from a first number on. -/
def item (scope : LayoutScope) (inherited : Members) (first : Nat) :
    LayoutItem → Except Error LayoutNode
  | .field name own => do
    let field ← scope.field name
    .ok (fieldNode (Table.merge inherited own) field)
  | .stacked items own => do
    scope.requireItems .stacked "stacked" items
    let opts := Table.merge inherited own
    let children ← scope.items opts first items
    .ok (.mk .stacked "stacked" .none opts children)
  | .inline items own => do
    scope.requireItems .inline "inline" items
    let opts := Table.merge inherited own
    let children ← scope.items opts first items
    .ok (.mk .inline "inline" .none opts children)
  | .group title items own => do
    scope.requireItems .group title items
    let opts := Table.merge inherited own
    let children ← scope.items opts first items
    .ok (.mk .group title (.group title) opts children)
  | .tabs items own => do
    let id := scope.sectionsId first
    if items.isEmpty then .error (scope.malformed (.emptyTabs id))
    else
      let opts := Table.merge inherited own
      let children ← scope.tabs opts id (items.any (·.isDeclaredActive)) 0 (first + 1) items
      .ok (.mk .tabs id (.tabs id) opts children)
  | .tab label _ _ _ => .error (scope.malformed (.strayTab label))

def items (scope : LayoutScope) (inherited : Members) (first : Nat) :
    List LayoutItem → Except Error (List LayoutNode)
  | [] => .ok []
  | head :: rest => do
    let node ← scope.item inherited first head
    let nodes ← scope.items inherited (first + head.tabsCount) rest
    .ok (node :: nodes)

/-- The nodes of the tabs of a group, from the tab of an index on. -/
def tabs (scope : LayoutScope) (inherited : Members) (id : String) (explicit : Bool)
    (index first : Nat) : List LayoutItem → Except Error (List LayoutNode)
  | [] => .ok []
  | .tab label active items own :: rest => do
    let name := tabId id index
    scope.requireItems .tab name items
    let opts := Table.merge inherited own
    let children ← scope.items opts first items
    let config := .tab label index name id (isActive active explicit index)
    let nodes ← scope.tabs inherited id explicit (index + 1)
      (first + LayoutItem.tabsCountOfList items) rest
    .ok (.mk .tab name config opts children :: nodes)
  | _ :: _ => .error (scope.malformed (.notTab id))

end

def root (scope : LayoutScope) (opts : Members) (children : List LayoutNode) : LayoutNode :=
  .mk (.view scope.view) scope.resource.name (.view scope.resource.name) opts children

/-- The column of an item, which must be a field. -/
def column (scope : LayoutScope) (inherited : Members) : LayoutItem → Except Error LayoutNode
  | .field name own => do
    let field ← scope.field name
    .ok (fieldNode (Table.merge inherited own) field)
  | _ => .error (scope.malformed .columnNotField)

/-- Whether a field is a column of an index that is not declared. -/
def isDefaultColumn (field : Field) : Bool :=
  !field.omitted && !field.type.isAssociation

/-- Whether a field is shown in a view that is not declared. What leads nowhere is not. -/
def isDefaultDetail (field : Field) : Bool :=
  !field.omitted &&
    match field.type with
    | .oneToMany | .embedOne | .embedMany => field.relatedResource?.isSome
    | _ => true

def index (scope : LayoutScope) : Option IndexDeclaration → Except Error LayoutNode
  | none =>
    let opts := scope.resource.opts
    .ok (scope.root opts
      ((scope.resource.orderedFields.filter isDefaultColumn).map (fieldNode opts)))
  | some declared =>
    if declared.columns.isEmpty then .error (scope.malformed .noColumns)
    else do
      let opts := Table.merge scope.resource.opts declared.opts
      let columns ← declared.columns.mapM (scope.column opts)
      .ok (scope.root opts columns)

def stack (children : List LayoutNode) : LayoutNode :=
  .mk .stacked "stacked" .none [] children

/-- The only node of a view with details: a single container, or a stack of everything else. -/
def content (scope : LayoutScope) : Option (List LayoutItem) → Except Error LayoutNode
  | none =>
    .ok (stack ((scope.resource.orderedFields.filter isDefaultDetail).map (fieldNode [])))
  | some [] => .error (scope.malformed (.noItems scope.view))
  | some [single] =>
    if single.isContainer then scope.item [] 0 single
    else (scope.items [] 0 [single]).map stack
  | some items => (scope.items [] 0 items).map stack

def details (scope : LayoutScope) (declared : Option (List LayoutItem)) :
    Except Error LayoutNode := do
  let child ← scope.content declared
  .ok (scope.root [] [child])

end LayoutScope

namespace LayoutTree

def compile (resource : Resource) (view : View) (declared : Option LayoutDeclaration)
    (registry : Registry) : Except Error LayoutTree := do
  let scope : LayoutScope := { resource, registry, view }
  let root ← match view with
    | .index => scope.index (declared.bind (·.index))
    | .detail => scope.details (declared.bind (·.detail))
    | .form => scope.details (declared.bind (·.form))
  .ok { resource := resource.name, view, root }

end LayoutTree

end Backoffice
