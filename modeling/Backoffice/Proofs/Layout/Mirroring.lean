import Backoffice.Proofs.Layout.WellFormed
import Backoffice.Proofs.Table
import Mathlib.Data.List.Forall2

/-!
Trees mirror what is declared: every node that is compiled from declared items stands for exactly
one of them, in its place.

`Mirrors` follows an item and its node side by side, and leaves open what the two have in common.
What compiling makes of an item is said once, by `Realizes`, and shown for all items in one
induction. Other properties of nodes and their items follow from it node by node.
-/

namespace Backoffice

namespace LayoutItem

/-- The options in force within some nested items, the innermost first. -/
def nestedOpts : List LayoutItem → Members
  | [] => []
  | item :: around => Table.merge (nestedOpts around) item.opts

mutual

/-- The names of the fields that an item declares, in the order in which they are written. -/
def fieldNames : LayoutItem → List String
  | field name _ => [name]
  | stacked items _ | inline items _ | group _ items _ | tabs items _ | tab _ _ items _ =>
    fieldNamesOfList items

def fieldNamesOfList : List LayoutItem → List String
  | [] => []
  | item :: rest => fieldNames item ++ fieldNamesOfList rest

end

def active? : LayoutItem → Option Bool
  | tab _ active _ _ => active
  | _ => none

def activeFlags (explicit : Bool) : Nat → List LayoutItem → List Bool
  | _, [] => []
  | index, item :: rest =>
    LayoutScope.isActive item.active? explicit index :: activeFlags explicit (index + 1) rest

end LayoutItem

namespace Resource

def keyOf (resource : Resource) (name : String) : String :=
  ((resource.field? name).map (·.key)).getD name

/-- Whether every field is stored under its own key. -/
def Keyed (resource : Resource) : Prop :=
  ∀ key field, resource.field? key = some field → field.key = key

theorem Keyed.keyOf {resource : Resource} (keyed : resource.Keyed) (name : String) :
    resource.keyOf name = name := by
  unfold Resource.keyOf
  cases stored : resource.field? name with
  | none => rfl
  | some field => exact keyed name field stored

end Resource

namespace LayoutNode

open LayoutScope

/-- Whether a node, apart from its options and from what is inside it, is that of an
item: it has the tag of the item, and its key, title or label. The tabs of a group are
numbered in their order. -/
inductive Depicts (resource : Resource) : LayoutItem → LayoutNode → Prop where
  | field {name own field opts} :
      resource.field? name = some field → field.omitted = false →
      Depicts resource (.field name own) (fieldNode opts field)
  | stacked {items own opts children} :
      Depicts resource (.stacked items own) (.mk .stacked "stacked" .none opts children)
  | inline {items own opts children} :
      Depicts resource (.inline items own) (.mk .inline "inline" .none opts children)
  | group {title items own opts children} :
      Depicts resource (.group title items own) (.mk .group title (.group title) opts children)
  | tabs {items own id opts children} :
      (∀ (index : Nat) (child : LayoutNode), children[index]? = some child →
        ∃ label active, child.config = .tab label index (tabId id index) id active) →
      Depicts resource (.tabs items own) (.mk .tabs id (.tabs id) opts children)
  | tab {label active items own id index shown opts children} :
      Depicts resource (.tab label active items own)
        (.mk .tab (tabId id index) (.tab label index (tabId id index) id shown) opts children)

/-- Whether a node stands for an item node for node, where each node agrees with its item among the
items around it, the innermost first. -/
inductive Mirrors (Agree : List LayoutItem → LayoutItem → LayoutNode → Prop) :
    List LayoutItem → LayoutItem → LayoutNode → Prop where
  | mk {around item node} :
      Agree around item node →
      item.items.length = node.children.length →
      (∀ pair ∈ item.items.zip node.children, Mirrors Agree (item :: around) pair.1 pair.2) →
      Mirrors Agree around item node

def Renders (resource : Resource) (around : List LayoutItem) (item : LayoutItem)
    (node : LayoutNode) : Prop :=
  Depicts resource item node ∧ node.opts = LayoutItem.nestedOpts (item :: around)

def isActive (node : LayoutNode) : Bool :=
  match node.config with
  | .tab _ _ _ _ active => active
  | _ => false

/-- Whether a group has tabs, and shows those first that are declared to be. -/
def ShowsTabs : LayoutItem → LayoutNode → Prop
  | .tabs items _, node =>
    items ≠ [] ∧
      node.children.map isActive = LayoutItem.activeFlags (items.any (·.isDeclaredActive)) 0 items
  | _, _ => True

/-- All that compiling makes of an item. -/
structure Realizes (resource : Resource) (around : List LayoutItem) (item : LayoutItem)
    (node : LayoutNode) : Prop where
  renders : Renders resource around item node
  showsTabs : ShowsTabs item node

/-- What compiling makes of a column: its node, with the options in force in the index, as far as it
does not declare them itself. -/
def ColumnRenders (resource : Resource) (inherited : Members) (_ : List LayoutItem)
    (item : LayoutItem) (column : LayoutNode) : Prop :=
  Depicts resource item column ∧ column.opts = Table.merge inherited item.opts

section Mirroring

variable {Agree Other : List LayoutItem → LayoutItem → LayoutNode → Prop} {around : List LayoutItem}
  {item : LayoutItem} {node : LayoutNode}

theorem Mirrors.of_forall₂ (agree : Agree around item node)
    (inside : List.Forall₂ (Mirrors Agree (item :: around)) item.items node.children) :
    Mirrors Agree around item node := by
  obtain ⟨sameLength, pairs⟩ := List.forall₂_iff_zip.1 inside
  exact .mk agree sameLength fun _ member => pairs member

theorem Mirrors.mono (weaker : ∀ around item node, Agree around item node → Other around item node)
    (mirrors : Mirrors Agree around item node) : Mirrors Other around item node := by
  induction mirrors with
  | mk agree sameLength _ inductionHypothesis =>
    exact .mk (weaker _ _ _ agree) sameLength inductionHypothesis

end Mirroring

/-- The only node of a view with details: that of a single container, or a stack of the nodes of all
items. -/
inductive Contents (Agree : List LayoutItem → LayoutItem → LayoutNode → Prop) :
    List LayoutItem → LayoutNode → Prop where
  | container {item node} :
      item.isContainer = true → Mirrors Agree [] item node → Contents Agree [item] node
  | stack {items nodes} :
      (∀ item, items = [item] → item.isContainer = false) →
      List.Forall₂ (Mirrors Agree []) items nodes →
      Contents Agree items (.mk .stacked "stacked" .none [] nodes)

theorem Contents.mono {Agree Other : List LayoutItem → LayoutItem → LayoutNode → Prop}
    (weaker : ∀ around item node, Agree around item node → Other around item node)
    {items : List LayoutItem} {node : LayoutNode} (contents : Contents Agree items node) :
    Contents Other items node := by
  cases contents with
  | container isContainer mirrors => exact .container isContainer (mirrors.mono weaker)
  | stack others mirrors => exact .stack others (mirrors.imp fun _ _ => Mirrors.mono weaker)

end LayoutNode

namespace LayoutScope

open LayoutNode LayoutItem

variable {scope : LayoutScope}

theorem field?_of_field_eq_ok {name : String} {field : Field}
    (found : scope.field name = .ok field) :
    scope.resource.field? name = some field := by
  rw [LayoutScope.field] at found
  split at found
  · cases found
  · next stored =>
    split at found
    · cases found
    · split at found
      · cases found
        exact stored
      · split at found
        · cases found
          exact stored
        · cases found

theorem omitted_of_field_eq_ok {name : String} {field : Field}
    (found : scope.field name = .ok field) :
    field.omitted = false := by
  have faultless : scope.fieldFault? name = none := by
    rw [← fault?_field, found]
    rfl
  obtain ⟨shown, stored, notOmitted, _⟩ := (fieldFault?_eq_none_iff scope name).1 faultless
  rw [field?_of_field_eq_ok found] at stored
  cases stored
  exact notOmitted

theorem container_eq_ok {check : Except Error Unit} {inner : Except Error (List LayoutNode)}
    {build : List LayoutNode → LayoutNode} {node : LayoutNode}
    (compiled : (check >>= fun _ => inner >>= fun children => .ok (build children)) = .ok node) :
    ∃ children, inner = .ok children ∧ build children = node := by
  obtain ⟨_, _, compiled⟩ := Outcome.bind_eq_ok_iff.1 compiled
  obtain ⟨children, compiledInner, same⟩ := Outcome.bind_eq_ok_iff.1 compiled
  exact ⟨children, compiledInner, Except.ok.inj same⟩

theorem mirrors_fieldNode {around : List LayoutItem} {name : String} {own : Members}
    {node : LayoutNode} (compiled : (scope.field name >>= fun field =>
      .ok (fieldNode (Table.merge (nestedOpts around) own) field)) = .ok node) :
    Mirrors (Realizes scope.resource) around (.field name own) node := by
  obtain ⟨field, found, same⟩ := Outcome.bind_eq_ok_iff.1 compiled
  cases same
  exact .of_forall₂ ⟨⟨.field (field?_of_field_eq_ok found) (omitted_of_field_eq_ok found), rfl⟩,
    trivial⟩ .nil

-- By recursion on the items, as they are compiled. What is inherited at an item is what the
-- items around it have declared, so its own options are merged into those of `around`
-- exactly once, on the way in.
mutual

theorem mirrors_item (scope : LayoutScope) (around : List LayoutItem) (first : Nat) :
    ∀ (item : LayoutItem) (node : LayoutNode),
      scope.item (nestedOpts around) first item = .ok node →
      Mirrors (Realizes scope.resource) around item node
  | .field name own, node, compiled => by
    rw [LayoutScope.item] at compiled
    exact mirrors_fieldNode compiled
  | .stacked items own, node, compiled => by
    rw [LayoutScope.item] at compiled
    obtain ⟨children, inner, same⟩ := container_eq_ok compiled
    subst same
    exact .of_forall₂ ⟨⟨.stacked, rfl⟩, trivial⟩
      (mirrors_items scope (.stacked items own :: around) first _ _ inner)
  | .inline items own, node, compiled => by
    rw [LayoutScope.item] at compiled
    obtain ⟨children, inner, same⟩ := container_eq_ok compiled
    subst same
    exact .of_forall₂ ⟨⟨.inline, rfl⟩, trivial⟩
      (mirrors_items scope (.inline items own :: around) first _ _ inner)
  | .group title items own, node, compiled => by
    rw [LayoutScope.item] at compiled
    obtain ⟨children, inner, same⟩ := container_eq_ok compiled
    subst same
    exact .of_forall₂ ⟨⟨.group, rfl⟩, trivial⟩
      (mirrors_items scope (.group title items own :: around) first _ _ inner)
  | .tabs items own, node, compiled => by
    rw [LayoutScope.item] at compiled
    dsimp only at compiled
    split at compiled
    · cases compiled
    · next notEmpty =>
      obtain ⟨children, inner, same⟩ := Outcome.bind_eq_ok_iff.1 compiled
      cases same
      obtain ⟨inside, numbered, flags⟩ :=
        mirrors_tabs scope (.tabs items own :: around) _ _ 0 (first + 1) _ _ inner
      simp only [Nat.zero_add] at numbered
      exact .of_forall₂ ⟨⟨.tabs numbered, rfl⟩, mt List.isEmpty_iff.2 notEmpty, flags⟩ inside
  | .tab label active items own, node, compiled => by
    rw [LayoutScope.item] at compiled
    cases compiled

theorem mirrors_items (scope : LayoutScope) (around : List LayoutItem) (first : Nat) :
    ∀ (items : List LayoutItem) (nodes : List LayoutNode),
      scope.items (nestedOpts around) first items = .ok nodes →
        List.Forall₂ (Mirrors (Realizes scope.resource) around) items nodes
  | [], nodes, compiled => by
    rw [LayoutScope.items] at compiled
    cases compiled
    exact .nil
  | head :: rest, nodes, compiled => by
    rw [LayoutScope.items] at compiled
    obtain ⟨node, compiledHead, compiled⟩ := Outcome.bind_eq_ok_iff.1 compiled
    obtain ⟨others, compiledRest, same⟩ := Outcome.bind_eq_ok_iff.1 compiled
    cases same
    exact .cons (mirrors_item scope around first head node compiledHead)
      (mirrors_items scope around _ rest others compiledRest)

theorem mirrors_tabs (scope : LayoutScope) (around : List LayoutItem) (id : String)
    (explicit : Bool) (index first : Nat) :
    ∀ (items : List LayoutItem) (nodes : List LayoutNode),
      scope.tabs (nestedOpts around) id explicit index first items = .ok nodes →
        List.Forall₂ (Mirrors (Realizes scope.resource) around) items nodes ∧
        (∀ (place : Nat) (child : LayoutNode), nodes[place]? = some child →
          ∃ label active, child.config =
            .tab label (index + place) (tabId id (index + place)) id active) ∧
        nodes.map LayoutNode.isActive = activeFlags explicit index items
  | [], nodes, compiled => by
    rw [LayoutScope.tabs] at compiled
    cases compiled
    exact ⟨.nil, by simp, rfl⟩
  | head :: rest, nodes, compiled => by
    cases head with
    | tab label active items own =>
      rw [LayoutScope.tabs] at compiled
      obtain ⟨_, _, compiled⟩ := Outcome.bind_eq_ok_iff.1 compiled
      obtain ⟨children, compiledInner, compiled⟩ := Outcome.bind_eq_ok_iff.1 compiled
      obtain ⟨others, compiledRest, same⟩ := Outcome.bind_eq_ok_iff.1 compiled
      cases same
      have inside :=
        mirrors_items scope (.tab label active items own :: around) first items
          children compiledInner
      obtain ⟨siblings, numbered, flags⟩ :=
        mirrors_tabs scope around id explicit (index + 1) _ rest others compiledRest
      refine ⟨.cons (.of_forall₂ ⟨⟨.tab, rfl⟩, trivial⟩ inside) siblings, ?_,
        congrArg (_ :: ·) flags⟩
      -- The place of each other tab is one more than that among the rest, which are
      -- numbered from one more.
      intro place child found
      cases place with
      | zero =>
        cases found
        exact ⟨label, _, rfl⟩
      | succ place =>
        rw [List.getElem?_cons_succ] at found
        rw [← Nat.add_assoc, Nat.add_right_comm]
        exact numbered place child found
    | _ =>
      rw [LayoutScope.tabs] at compiled
      · cases compiled
      · exact nofun

end

/-! ### Views -/

/-- A declared view with details is a single container, or it stacks the nodes of its items. -/
theorem cases_of_content_eq_ok {items : List LayoutItem} {node : LayoutNode}
    (compiled : scope.content (some items) = .ok node) :
    (∃ item, items = [item] ∧ item.isContainer = true ∧ scope.item [] 0 item = .ok node) ∨
      ((∀ item, items = [item] → item.isContainer = false) ∧
        ∃ nodes, scope.items [] 0 items = .ok nodes ∧ LayoutScope.stack nodes = node) := by
  match items with
  | [] => cases compiled
  | [single] =>
    rw [content] at compiled
    split at compiled
    · next isContainer => exact .inl ⟨single, rfl, isContainer, compiled⟩
    · next other =>
      refine .inr ⟨?_, Outcome.map_eq_ok_iff.1 compiled⟩
      rintro item ⟨rfl⟩
      simpa using other
  | first :: second :: rest => exact .inr ⟨nofun, Outcome.map_eq_ok_iff.1 compiled⟩

theorem contents_of_content_eq_ok {items : List LayoutItem} {node : LayoutNode}
    (compiled : scope.content (some items) = .ok node) :
    Contents (Realizes scope.resource) items node := by
  rcases cases_of_content_eq_ok compiled
    with ⟨item, rfl, isContainer, inner⟩ | ⟨others, nodes, inner, same⟩
  · exact .container isContainer (mirrors_item scope [] 0 item node inner)
  · subst same
    exact .stack others (mirrors_items scope [] 0 items nodes inner)

theorem exists_field_of_column_eq_ok {opts : Members} {item : LayoutItem} {column : LayoutNode}
    (compiled : scope.column opts item = .ok column) :
    ∃ name own field, item = .field name own ∧ scope.field name = .ok field ∧
      column = fieldNode (Table.merge opts own) field := by
  cases item with
  | field name own =>
    obtain ⟨field, found, same⟩ := Outcome.bind_eq_ok_iff.1 compiled
    exact ⟨name, own, field, rfl, found, (Except.ok.inj same).symm⟩
  | _ => cases compiled

theorem mirrors_column {opts : Members} {item : LayoutItem} {column : LayoutNode}
    (compiled : scope.column opts item = .ok column) :
    Mirrors (ColumnRenders scope.resource opts) [] item column := by
  obtain ⟨name, own, field, rfl, found, rfl⟩ := exists_field_of_column_eq_ok compiled
  exact .of_forall₂ ⟨.field (field?_of_field_eq_ok found) (omitted_of_field_eq_ok found), rfl⟩ .nil

theorem exists_mapM_of_index_eq_ok {index : IndexDeclaration} {root : LayoutNode}
    (compiled : scope.index (some index) = .ok root) :
    ∃ columns, index.columns.mapM (scope.column (Table.merge scope.resource.opts index.opts)) =
      .ok columns ∧
      root = scope.root (Table.merge scope.resource.opts index.opts) columns := by
  rw [LayoutScope.index] at compiled
  split at compiled
  · cases compiled
  · obtain ⟨columns, compiledColumns, same⟩ := Outcome.bind_eq_ok_iff.1 compiled
    exact ⟨columns, compiledColumns, (Except.ok.inj same).symm⟩

theorem exists_columns_of_index_eq_ok {index : IndexDeclaration} {root : LayoutNode}
    (compiled : scope.index (some index) = .ok root) :
    ∃ columns, root = scope.root (Table.merge scope.resource.opts index.opts) columns ∧
      List.Forall₂
        (Mirrors (ColumnRenders scope.resource (Table.merge scope.resource.opts index.opts)) [])
        index.columns columns := by
  obtain ⟨columns, compiledColumns, same⟩ := exists_mapM_of_index_eq_ok compiled
  exact ⟨columns, same,
    (Outcome.forall₂_of_mapM_eq_ok compiledColumns).imp fun _ _ => mirrors_column⟩

end LayoutScope

theorem LayoutDeclaration.exists_index {declared : Option LayoutDeclaration}
    {items : List LayoutItem} (declares : declared.bind (·.items? .index) = some items) :
    ∃ index, declared.bind (·.index) = some index ∧ index.columns = items := by
  cases declared with
  | none => cases declares
  | some declaration => exact Option.map_eq_some_iff.1 declares

namespace LayoutTree

open LayoutNode

variable {resource : Resource} {view : View} {declared : Option LayoutDeclaration}
  {registry : Registry} {tree : LayoutTree}

theorem compile_index (resource : Resource) (declared : Option LayoutDeclaration)
    (registry : Registry) :
    compile resource .index declared registry =
      (LayoutScope.index ⟨resource, registry, .index⟩ (declared.bind (·.index))).map fun root =>
        { resource := resource.name, view := .index, root } := by
  change (LayoutScope.index _ _ >>= _) = _
  cases LayoutScope.index ⟨resource, registry, .index⟩ (declared.bind (·.index)) with
  | error fault => rfl
  | ok root => rfl

theorem compile_details (details : view ≠ .index) (resource : Resource)
    (declared : Option LayoutDeclaration) (registry : Registry) :
    compile resource view declared registry =
      (LayoutScope.content ⟨resource, registry, view⟩
        (declared.bind (·.items? view))).map fun child =>
          { resource := resource.name, view,
            root := LayoutScope.root ⟨resource, registry, view⟩ [] [child] } := by
  have flat (content : Except Error LayoutNode) (root : LayoutNode → LayoutNode)
      (tree : LayoutNode → LayoutTree) :
      ((content >>= fun child => .ok (root child)) >>= fun root => .ok (tree root)) =
        content.map fun child => tree (root child) := by
    cases content with
    | error fault => rfl
    | ok child => rfl
  cases view with
  | index => exact absurd rfl details
  | detail => exact flat _ _ _
  | form => exact flat _ _ _

theorem exists_columns_of_compile_eq_ok
    (compiled : compile resource .index declared registry = .ok tree) {index : IndexDeclaration}
    (declares : declared.bind (·.index) = some index) :
    ∃ columns, tree.root = LayoutScope.root ⟨resource, registry, .index⟩
        (Table.merge resource.opts index.opts) columns ∧
      List.Forall₂ (Mirrors (ColumnRenders resource (Table.merge resource.opts index.opts)) [])
        index.columns columns := by
  rw [compile_index, declares] at compiled
  obtain ⟨root, compiledRoot, same⟩ := Outcome.map_eq_ok_iff.1 compiled
  cases same
  exact LayoutScope.exists_columns_of_index_eq_ok compiledRoot

theorem exists_contents_of_compile_eq_ok (details : view ≠ .index)
    (compiled : compile resource view declared registry = .ok tree) {items : List LayoutItem}
    (declares : declared.bind (·.items? view) = some items) :
    ∃ child, tree.root = LayoutScope.root ⟨resource, registry, view⟩ [] [child] ∧
      Contents (Renders resource) items child := by
  rw [compile_details details, declares] at compiled
  obtain ⟨child, compiledChild, same⟩ := Outcome.map_eq_ok_iff.1 compiled
  cases same
  exact ⟨child, rfl,
    (LayoutScope.contents_of_content_eq_ok compiledChild).mono fun _ _ _ => Realizes.renders⟩

end LayoutTree

/-! ### Names of fields -/

namespace LayoutNode

theorem nodesOfList_eq_flatMap (trees : List LayoutNode) :
    nodesOfList trees = trees.flatMap nodes := by
  induction trees with
  | nil => rfl
  | cons node rest inductionHypothesis => simp [nodesOfList, inductionHypothesis]

theorem fieldNames_mk {tag : LayoutTag} {name : String} {config : NodeConfig} {opts : Members}
    {children : List LayoutNode} (other : tag ≠ .field) :
    (mk tag name config opts children).fieldNames = children.flatMap fieldNames := by
  have head : (mk tag name config opts children).tag ≠ .field := other
  unfold fieldNames
  rw [nodes, List.filter_cons_of_neg (by simpa using head), nodesOfList_eq_flatMap,
    List.filter_flatMap, List.map_flatMap]

theorem fieldNames_fieldNode (opts : Members) (field : Field) :
    (LayoutScope.fieldNode opts field).fieldNames = [field.key] := by
  simp [fieldNames, LayoutScope.fieldNode, nodes, nodesOfList, tag, name]

variable {resource : Resource}

theorem flatMap_fieldNames {items : List LayoutItem} {nodes : List LayoutNode}
    (same : List.Forall₂ (fun (item : LayoutItem) (node : LayoutNode) =>
      node.fieldNames = item.fieldNames.map resource.keyOf) items nodes) :
    nodes.flatMap fieldNames = (LayoutItem.fieldNamesOfList items).map resource.keyOf := by
  induction same with
  | nil => rfl
  | cons head _ inductionHypothesis =>
    rw [List.flatMap_cons, LayoutItem.fieldNamesOfList, List.map_append, head, inductionHypothesis]

theorem Depicts.fieldNames {item : LayoutItem} {node : LayoutNode}
    (depicts : Depicts resource item node) (inside : node.children.flatMap LayoutNode.fieldNames =
      (LayoutItem.fieldNamesOfList item.items).map resource.keyOf) :
    node.fieldNames = item.fieldNames.map resource.keyOf := by
  cases depicts with
  | field stored _ => simp [fieldNames_fieldNode, LayoutItem.fieldNames, Resource.keyOf, stored]
  | _ =>
    rw [fieldNames_mk]
    · exact inside
    · exact nofun

theorem Mirrors.fieldNames {around : List LayoutItem} {item : LayoutItem} {node : LayoutNode}
    (mirrors : Mirrors (fun _ => Depicts resource) around item node) :
    node.fieldNames = item.fieldNames.map resource.keyOf := by
  induction mirrors with
  | mk depicts sameLength _ inductionHypothesis =>
    apply depicts.fieldNames
    apply flatMap_fieldNames
    exact List.forall₂_iff_zip.2 ⟨sameLength, fun member => inductionHypothesis _ member⟩

theorem Contents.fieldNames {items : List LayoutItem} {node : LayoutNode}
    (contents : Contents (fun _ => Depicts resource) items node) :
    node.fieldNames = (LayoutItem.fieldNamesOfList items).map resource.keyOf := by
  cases contents with
  | container _ mirrors =>
    rw [mirrors.fieldNames, LayoutItem.fieldNamesOfList, LayoutItem.fieldNamesOfList,
      List.append_nil]
  | stack _ mirrors =>
    rw [fieldNames_mk]
    · exact flatMap_fieldNames (mirrors.imp fun _ _ => Mirrors.fieldNames)
    · exact nofun

end LayoutNode

namespace LayoutTree

open LayoutNode

variable {resource : Resource} {view : View} {declared : Option LayoutDeclaration}
  {registry : Registry} {tree : LayoutTree}

/-- The tree of a declared view mirrors its items, and shows the fields that they name. -/
theorem mirrors_of_compile_eq_ok (compiled : compile resource view declared registry = .ok tree)
    {items : List LayoutItem} (declares : declared.bind (·.items? view) = some items) :
    tree.root.tag = .view view ∧ tree.root.name = resource.name ∧
      (view = .index →
        List.Forall₂ (Mirrors (fun _ => Depicts resource) []) items tree.root.children) ∧
      (view ≠ .index → ∃ child, tree.root.children = [child] ∧
        Contents (fun _ => Depicts resource) items child) ∧
      tree.fieldNames = (LayoutItem.fieldNamesOfList items).map resource.keyOf ∧
      (resource.Keyed → tree.fieldNames = LayoutItem.fieldNamesOfList items) := by
  have named (shown : tree.fieldNames = (LayoutItem.fieldNamesOfList items).map resource.keyOf)
      (keyed : resource.Keyed) : tree.fieldNames = LayoutItem.fieldNamesOfList items := by
    rw [shown, funext keyed.keyOf]
    exact List.map_id' _
  by_cases index : view = .index
  · subst index
    obtain ⟨index, declaresIndex, same⟩ := LayoutDeclaration.exists_index declares
    subst same
    obtain ⟨columns, root, renders⟩ := exists_columns_of_compile_eq_ok compiled declaresIndex
    have mirrors : List.Forall₂ (Mirrors (fun _ => Depicts resource) []) index.columns columns :=
      renders.imp fun _ _ => Mirrors.mono fun _ _ _ column => column.1
    have shown : tree.fieldNames =
        (LayoutItem.fieldNamesOfList index.columns).map resource.keyOf := by
      rw [fieldNames, root, LayoutScope.root, fieldNames_mk]
      · exact flatMap_fieldNames (mirrors.imp fun _ _ => Mirrors.fieldNames)
      · exact nofun
    rw [root]
    exact ⟨rfl, rfl, fun _ => mirrors, absurd rfl, shown, named shown⟩
  · obtain ⟨child, root, renders⟩ := exists_contents_of_compile_eq_ok index compiled declares
    have contents : Contents (fun _ => Depicts resource) items child :=
      renders.mono fun _ _ _ rendered => rendered.1
    have shown : tree.fieldNames = (LayoutItem.fieldNamesOfList items).map resource.keyOf := by
      rw [fieldNames, root, LayoutScope.root, fieldNames_mk, List.flatMap_singleton]
      · exact contents.fieldNames
      · exact nofun
    rw [root]
    exact ⟨rfl, rfl, fun same => absurd same index, fun _ => ⟨child, rfl, contents⟩, shown,
      named shown⟩

def article : Resource where
  name := "article"
  backend := .simple { schemas := [] }
  schema := ⟨"Article"⟩
  context := none
  fields := [
    ("body", .base "body" .string .text 255 {}),
    ("title", .base "title" .string .text 255 {})]
  order := ["title", "body"]

def articleForm : LayoutDeclaration where
  resource := "article"
  form := some [
    .field "title" [],
    .tabs [
      .tab "Text" none [.group "Body" [.field "body" []] []] [],
      .tab "All" (some true) [.inline [.field "title" [], .field "body" []] []] []] []]

theorem mirrored_article_form :
    article.Keyed ∧ ∃ tree items, compile article .form (some articleForm) {} = .ok tree ∧
      articleForm.form = some items ∧
      (∃ child, tree.root.children = [child] ∧ Contents (fun _ => Depicts article) items child) ∧
      tree.fieldNames = ["title", "body", "title", "body"] := by
  have keyed : article.Keyed := by
    intro key field stored
    simp only [article, Resource.field?, Table.get?] at stored
    split at stored
    · next same => cases stored; exact same
    · split at stored
      · next same => cases stored; exact same
      · cases stored
  obtain ⟨tree, compiled⟩ : ∃ tree, compile article .form (some articleForm) {} = .ok tree :=
    ⟨_, rfl⟩
  obtain ⟨_, _, _, contents, _, shown⟩ := mirrors_of_compile_eq_ok compiled rfl
  exact ⟨keyed, tree, _, compiled, rfl, contents (by decide), shown keyed⟩

end LayoutTree

end Backoffice
