import Backoffice.Proofs.Layout.Mirroring
import Backoffice.Proofs.Text.Separator
import Mathlib.Data.List.Nodup

/-!
The ids of groups of tabs, and of the tabs in them.

An id ends in the number of its group, or in this number and the index of a tab, so that it can be
read from its end, whatever the name of the resource at its beginning is made of. Each part of a
tree takes its numbers from where the part before it has left off, and that is all that a part needs
to know about the others.
-/

namespace Backoffice

/-! ### Ids as texts -/

namespace LayoutScope

variable {scope other : LayoutScope} {number place index : Nat} {id : String}

theorem dash_notMem_toDigits (number : Nat) : '-' ∉ Nat.toDigits 10 number := by
  intro member
  have digit := Nat.isDigit_of_mem_toDigits (by decide) (by decide) member
  exact absurd digit (by decide)

theorem eq_of_toDigits_eq (same : Nat.toDigits 10 number = Nat.toDigits 10 place) :
    number = place := by
  have read := congrArg (Nat.ofDigitChars 10 · 0) same
  rwa [Nat.ofDigitChars_toDigits (by decide) (by decide),
    Nat.ofDigitChars_toDigits (by decide) (by decide)]
    at read

theorem dash_notMem_name (view : View) : '-' ∉ view.name.toList := by
  cases view with
  | index => decide
  | detail => decide
  | form => decide

theorem toList_sectionsId :
    (scope.sectionsId number).toList =
      ((scope.resource.name.toList ++ '-' :: scope.view.name.toList) ++ '-' :: "sections".toList) ++
        '-' :: Nat.toDigits 10 number := by
  simp only [sectionsId, String.toList_append, Nat.toString_eq_ofList_toDigits,
    String.toList_ofList, List.append_assoc]
  rfl

theorem toList_tabId :
    (tabId id index).toList = (id.toList ++ '-' :: "tab".toList) ++ '-' ::
      Nat.toDigits 10 index := by
  simp only [tabId, String.toList_append, Nat.toString_eq_ofList_toDigits, String.toList_ofList,
    List.append_assoc]
  rfl

theorem eq_of_sectionsId_eq (same : scope.sectionsId number = other.sectionsId place) :
    (scope.resource.name = other.resource.name ∧ scope.view = other.view) ∧ number = place := by
  have texts := congrArg String.toList same
  rw [toList_sectionsId, toList_sectionsId] at texts
  obtain ⟨texts, numbers⟩ :=
    Text.eq_of_append_cons_eq (dash_notMem_toDigits _) (dash_notMem_toDigits _) texts
  obtain ⟨texts, _⟩ := Text.eq_of_append_cons_eq (by decide) (by decide) texts
  obtain ⟨names, views⟩ := Text.eq_of_append_cons_eq (dash_notMem_name _) (dash_notMem_name _) texts
  refine ⟨⟨String.toList_inj.1 names, ?_⟩, eq_of_toDigits_eq numbers⟩
  have named := congrArg View.ofName? (String.toList_inj.1 views)
  rw [View.ofName?_name, View.ofName?_name] at named
  exact Option.some.inj named

theorem eq_of_tabId_eq {first second : String} (same : tabId first index = tabId second place) :
    first = second ∧ index = place := by
  have texts := congrArg String.toList same
  rw [toList_tabId, toList_tabId] at texts
  obtain ⟨texts, indices⟩ :=
    Text.eq_of_append_cons_eq (dash_notMem_toDigits _) (dash_notMem_toDigits _) texts
  obtain ⟨ids, _⟩ := Text.eq_of_append_cons_eq (by decide) (by decide) texts
  exact ⟨String.toList_inj.1 ids, eq_of_toDigits_eq indices⟩

theorem sectionsId_ne_tabId : scope.sectionsId number ≠ tabId id index := by
  intro same
  have texts := congrArg String.toList same
  rw [toList_sectionsId, toList_tabId] at texts
  obtain ⟨texts, _⟩ :=
    Text.eq_of_append_cons_eq (dash_notMem_toDigits _) (dash_notMem_toDigits _) texts
  obtain ⟨_, words⟩ := Text.eq_of_append_cons_eq (by decide) (by decide) texts
  exact absurd words (by decide)

/-- Whether an id is that of the group of tabs of a number, or of one of its tabs. -/
inductive IdOf (scope : LayoutScope) (number : Nat) : String → Prop where
  | tabs : IdOf scope number (scope.sectionsId number)
  | tab (index : Nat) : IdOf scope number (tabId (scope.sectionsId number) index)

/-- An id tells for which resource and view it is, and the number of its group. -/
theorem IdOf.unique (first : scope.IdOf number id) (second : other.IdOf place id) :
    (scope.resource.name = other.resource.name ∧ scope.view = other.view) ∧ number = place := by
  cases first with
  | tabs =>
    generalize same : scope.sectionsId number = id at second
    cases second with
    | tabs => exact eq_of_sectionsId_eq same
    | tab index => exact absurd same sectionsId_ne_tabId
  | tab index =>
    generalize same : tabId (scope.sectionsId number) index = id at second
    cases second with
    | tabs => exact absurd same.symm sectionsId_ne_tabId
    | tab other => exact eq_of_sectionsId_eq (eq_of_tabId_eq same).1

end LayoutScope

/-! ### Ids in trees -/

def NodeConfig.id? : NodeConfig → Option String
  | .tabs id => some id
  | .tab _ _ id _ _ => some id
  | _ => Option.none

namespace LayoutNode

def ids (node : LayoutNode) : List String :=
  node.nodes.filterMap (·.config.id?)

def IsTab (node : LayoutNode) : Prop :=
  node.tag = .tab ∨ ∃ label index tabId id active, node.config = .tab label index tabId id active

/-- Whether a tab names the group of tabs that it is in. -/
def Names (child parent : LayoutNode) : Prop :=
  parent.tag = .tabs ∧ parent.config = .tabs parent.name ∧
    ∃ label index active, child.config = .tab label index child.name parent.name active

/-- Whether every tab inside a node is in the group of tabs that it names. -/
def Grouped (node : LayoutNode) : Prop :=
  ∀ parent ∈ node.nodes, ∀ child ∈ parent.children, child.IsTab → child.Names parent

variable {tag : LayoutTag} {name : String} {config : NodeConfig} {opts : Members}
  {children : List LayoutNode}

theorem ids_mk :
    (mk tag name config opts children).ids = config.id?.toList ++ children.flatMap ids := by
  have inside : (nodesOfList children).filterMap (·.config.id?) = children.flatMap ids := by
    rw [nodesOfList_eq_flatMap, List.filterMap_flatMap]
    rfl
  have own : (mk tag name config opts children).config = config := rfl
  rw [ids, nodes, List.filterMap_cons, inside, own]
  cases config.id? with
  | none => rfl
  | some id => rfl

theorem grouped_mk
    (own : ∀ child ∈ children, child.IsTab → child.Names (mk tag name config opts children))
    (inside : ∀ child ∈ children, child.Grouped) : (mk tag name config opts children).Grouped := by
  intro parent member
  rw [nodes, List.mem_cons, nodesOfList_eq_flatMap, List.mem_flatMap] at member
  rcases member with same | ⟨child, isChild, member⟩
  · subst same
    exact own
  · exact inside child isChild parent member

end LayoutNode

/-! ### Numbering -/

namespace LayoutScope

open LayoutNode LayoutItem

variable {scope : LayoutScope} {first number count index : Nat} {nodes : List LayoutNode}

/-- What is known of nodes beside each other whose groups of tabs have the numbers from a
first one on: their ids are all different, and each belongs to one of these numbers. None
of them is a tab itself. -/
structure Numbered (scope : LayoutScope) (first count : Nat) (nodes : List LayoutNode) : Prop where
  nodup : (nodes.flatMap ids).Nodup
  range : ∀ id ∈ nodes.flatMap ids, ∃ number, first ≤ number ∧ number < first + count ∧
    scope.IdOf number id
  others : ∀ node ∈ nodes, ¬ node.IsTab
  grouped : ∀ node ∈ nodes, node.Grouped

/-- The same of the tabs of one group, from an index on. Its number comes before
those of the groups in it. -/
structure TabsNumbered (scope : LayoutScope) (number index first count : Nat)
    (nodes : List LayoutNode) : Prop where
  nodup : (nodes.flatMap ids).Nodup
  range : ∀ id ∈ nodes.flatMap ids,
    (∃ place, index ≤ place ∧ id = tabId (scope.sectionsId number) place) ∨
      ∃ inner, first ≤ inner ∧ inner < first + count ∧ scope.IdOf inner id
  named : ∀ node ∈ nodes, ∃ label place active,
    node.config = .tab label place node.name (scope.sectionsId number) active
  grouped : ∀ node ∈ nodes, node.Grouped

theorem Numbered.nil : scope.Numbered first 0 [] := ⟨List.nodup_nil, nofun, nofun, nofun⟩

theorem Numbered.cons {node : LayoutNode} {own : Nat} (head : scope.Numbered first own [node])
    (rest : scope.Numbered (first + own) count nodes) :
    scope.Numbered first (own + count) (node :: nodes) := by
  have headIds : [node].flatMap ids = node.ids := List.flatMap_singleton ..
  obtain ⟨nodup, range, others, grouped⟩ := head
  rw [headIds] at nodup range
  constructor
  · rw [List.flatMap_cons, List.nodup_append]
    refine ⟨nodup, rest.nodup, ?_⟩
    intro id inHead other inRest same
    subst same
    obtain ⟨number, _, below, isId⟩ := range id inHead
    obtain ⟨place, above, _, isOther⟩ := rest.range id inRest
    have := (isId.unique isOther).2
    omega
  · rw [List.flatMap_cons]
    intro id member
    rcases List.mem_append.1 member with inHead | inRest
    · obtain ⟨number, above, below, isId⟩ := range id inHead
      exact ⟨number, above, by omega, isId⟩
    · obtain ⟨number, above, below, isId⟩ := rest.range id inRest
      exact ⟨number, by omega, by omega, isId⟩
  · rw [List.forall_mem_cons]
    exact ⟨others node List.mem_cons_self, rest.others⟩
  · rw [List.forall_mem_cons]
    exact ⟨grouped node List.mem_cons_self, rest.grouped⟩

/-- A node without an id has the ids of the nodes in it. -/
theorem Numbered.around {tag : LayoutTag} {name : String} {config : NodeConfig} {opts : Members}
    (numbered : scope.Numbered first count nodes) (noTab : tag ≠ .tab) (noId : config.id? = none) :
    scope.Numbered first count [.mk tag name config opts nodes] := by
  have sameIds : [LayoutNode.mk tag name config opts nodes].flatMap ids = nodes.flatMap ids := by
    rw [List.flatMap_singleton, ids_mk, noId]
    rfl
  constructor
  · exact sameIds ▸ numbered.nodup
  · exact sameIds ▸ numbered.range
  · rw [List.forall_mem_singleton]
    rintro (isTab | ⟨label, index, tabId, id, active, isTab⟩)
    · exact noTab isTab
    · change config = _ at isTab
      rw [isTab] at noId
      cases noId
  · rw [List.forall_mem_singleton]
    exact grouped_mk (fun child member isTab => absurd isTab (numbered.others child member))
      numbered.grouped

theorem numbered_fieldNode (opts : Members) (field : Field) :
    scope.Numbered first 0 [fieldNode opts field] :=
  Numbered.nil.around nofun rfl

theorem TabsNumbered.nil : scope.TabsNumbered number index first 0 [] :=
  ⟨List.nodup_nil, nofun, nofun, nofun⟩

/-- A tab comes before the others of its group, and the groups in it before those in the others. -/
theorem TabsNumbered.cons {own : Nat} {label : String} {active : Bool} {opts : Members}
    {children : List LayoutNode} (earlier : number < first)
    (inside : scope.Numbered first own children)
    (rest : scope.TabsNumbered number (index + 1) (first + own) count nodes) :
    scope.TabsNumbered number index first (own + count)
      (.mk .tab (tabId (scope.sectionsId number) index)
        (.tab label index (tabId (scope.sectionsId number) index) (scope.sectionsId number) active)
        opts children :: nodes) := by
  generalize isTab : LayoutNode.mk .tab _ _ opts children = node
  have headIds : node.ids = tabId (scope.sectionsId number) index :: children.flatMap ids := by
    rw [← isTab, ids_mk]
    rfl
  -- No group in the tab has the number of the group that the tab is in.
  have innerNe {inner place : Nat} (above : first ≤ inner) :
      ¬ scope.IdOf inner (tabId (scope.sectionsId number) place) := by
    intro isId
    have := (isId.unique (.tab place)).2
    omega
  constructor
  · rw [List.flatMap_cons, headIds, List.cons_append, List.nodup_cons, List.mem_append, not_or,
      List.nodup_append]
    refine ⟨⟨?_, ?_⟩, inside.nodup, rest.nodup, ?_⟩
    · intro member
      obtain ⟨inner, above, _, isId⟩ := inside.range _ member
      exact innerNe above isId
    · intro member
      rcases rest.range _ member with ⟨place, later, same⟩ | ⟨inner, above, _, isId⟩
      · have := (eq_of_tabId_eq same).2
        omega
      · exact innerNe (by omega) isId
    · intro id inTab other inOthers same
      subst same
      obtain ⟨inner, above, below, isId⟩ := inside.range id inTab
      rcases rest.range id inOthers with ⟨place, _, same⟩ | ⟨outer, aboveOuter, _, isOuter⟩
      · exact innerNe above (same ▸ isId)
      · have := (isId.unique isOuter).2
        omega
  · rw [List.flatMap_cons, headIds]
    intro id member
    rcases List.mem_append.1 member with inHead | inRest
    · rcases List.mem_cons.1 inHead with same | inTab
      · exact .inl ⟨index, Nat.le_refl _, same⟩
      · obtain ⟨inner, above, below, isId⟩ := inside.range id inTab
        exact .inr ⟨inner, above, by omega, isId⟩
    · rcases rest.range id inRest with ⟨place, later, same⟩ | ⟨inner, above, below, isId⟩
      · exact .inl ⟨place, by omega, same⟩
      · exact .inr ⟨inner, by omega, by omega, isId⟩
  · rw [List.forall_mem_cons]
    refine ⟨?_, rest.named⟩
    rw [← isTab]
    exact ⟨label, index, active, rfl⟩
  · rw [List.forall_mem_cons]
    refine ⟨?_, rest.grouped⟩
    rw [← isTab]
    exact grouped_mk (fun child member isTab => absurd isTab (inside.others child member))
      inside.grouped

/-- A group of tabs takes the first number, and the groups in it those that follow. -/
theorem Numbered.tabs {opts : Members} (tabs : scope.TabsNumbered first 0 (first + 1) count nodes) :
    scope.Numbered first (count + 1)
      [.mk .tabs (scope.sectionsId first) (.tabs (scope.sectionsId first)) opts nodes] := by
  generalize isGroup : LayoutNode.mk .tabs _ _ opts nodes = node
  have groupIds : [node].flatMap ids = scope.sectionsId first :: nodes.flatMap ids := by
    rw [List.flatMap_singleton, ← isGroup, ids_mk]
    rfl
  constructor
  · rw [groupIds, List.nodup_cons]
    refine ⟨?_, tabs.nodup⟩
    intro member
    rcases tabs.range _ member with ⟨place, _, same⟩ | ⟨inner, above, _, isId⟩
    · exact sectionsId_ne_tabId same
    · have := (isId.unique .tabs).2
      omega
  · rw [groupIds]
    intro id member
    rcases List.mem_cons.1 member with same | inGroup
    · subst same
      exact ⟨first, Nat.le_refl _, by omega, .tabs⟩
    · rcases tabs.range id inGroup with ⟨place, _, same⟩ | ⟨inner, above, below, isId⟩
      · subst same
        exact ⟨first, Nat.le_refl _, by omega, .tab place⟩
      · exact ⟨inner, by omega, by omega, isId⟩
  · rw [List.forall_mem_singleton, ← isGroup]
    rintro (isTab | ⟨_, _, _, _, _, isTab⟩)
    · cases isTab
    · cases isTab
  · rw [List.forall_mem_singleton, ← isGroup]
    exact grouped_mk (fun child member _ => ⟨rfl, rfl, tabs.named child member⟩) tabs.grouped

-- By recursion on the items, as they are compiled.
mutual

theorem numbered_item (scope : LayoutScope) (inherited : Members) (first : Nat) :
    ∀ (item : LayoutItem) (node : LayoutNode), scope.item inherited first item = .ok node →
      scope.Numbered first item.tabsCount [node]
  | .field name own, node, compiled => by
    rw [LayoutScope.item] at compiled
    obtain ⟨field, _, same⟩ := Outcome.bind_eq_ok_iff.1 compiled
    cases same
    exact numbered_fieldNode _ field
  | .stacked items own, node, compiled => by
    rw [LayoutScope.item] at compiled
    obtain ⟨children, inner, same⟩ := container_eq_ok compiled
    subst same
    exact (numbered_items scope _ first items children inner).around nofun rfl
  | .inline items own, node, compiled => by
    rw [LayoutScope.item] at compiled
    obtain ⟨children, inner, same⟩ := container_eq_ok compiled
    subst same
    exact (numbered_items scope _ first items children inner).around nofun rfl
  | .group title items own, node, compiled => by
    rw [LayoutScope.item] at compiled
    obtain ⟨children, inner, same⟩ := container_eq_ok compiled
    subst same
    exact (numbered_items scope _ first items children inner).around nofun rfl
  | .tabs items own, node, compiled => by
    rw [LayoutScope.item] at compiled
    dsimp only at compiled
    split at compiled
    · cases compiled
    · obtain ⟨children, inner, same⟩ := Outcome.bind_eq_ok_iff.1 compiled
      cases same
      exact .tabs (numbered_tabs scope _ first _ 0 (first + 1) (Nat.lt_succ_self first)
        items children inner)
  | .tab label active items own, node, compiled => by
    rw [LayoutScope.item] at compiled
    cases compiled

theorem numbered_items (scope : LayoutScope) (inherited : Members) (first : Nat) :
    ∀ (items : List LayoutItem) (nodes : List LayoutNode),
      scope.items inherited first items = .ok nodes →
      scope.Numbered first (tabsCountOfList items) nodes
  | [], nodes, compiled => by
    rw [LayoutScope.items] at compiled
    cases compiled
    exact .nil
  | head :: rest, nodes, compiled => by
    rw [LayoutScope.items] at compiled
    obtain ⟨node, compiledHead, compiled⟩ := Outcome.bind_eq_ok_iff.1 compiled
    obtain ⟨others, compiledRest, same⟩ := Outcome.bind_eq_ok_iff.1 compiled
    cases same
    exact (numbered_item scope inherited first head node compiledHead).cons
      (numbered_items scope inherited _ rest others compiledRest)

theorem numbered_tabs (scope : LayoutScope) (inherited : Members) (number : Nat) (explicit : Bool)
    (index first : Nat) (earlier : number < first) :
    ∀ (items : List LayoutItem) (nodes : List LayoutNode),
      scope.tabs inherited (scope.sectionsId number) explicit index first items = .ok nodes →
        scope.TabsNumbered number index first (tabsCountOfList items) nodes
  | [], nodes, compiled => by
    rw [LayoutScope.tabs] at compiled
    cases compiled
    exact .nil
  | head :: rest, nodes, compiled => by
    cases head with
    | tab label active items own =>
      rw [LayoutScope.tabs] at compiled
      obtain ⟨_, _, compiled⟩ := Outcome.bind_eq_ok_iff.1 compiled
      obtain ⟨children, compiledInner, compiled⟩ := Outcome.bind_eq_ok_iff.1 compiled
      obtain ⟨others, compiledRest, same⟩ := Outcome.bind_eq_ok_iff.1 compiled
      cases same
      exact .cons earlier (numbered_items scope _ first items children compiledInner)
        (numbered_tabs scope inherited number explicit (index + 1) _ (by omega) rest
          others compiledRest)
    | _ =>
      rw [LayoutScope.tabs] at compiled
      · cases compiled
      · exact nofun

end

/-! ### Views -/

theorem numbered_of_forall (fields : ∀ node ∈ nodes, scope.Numbered first 0 [node]) :
    scope.Numbered first 0 nodes := by
  induction nodes with
  | nil => exact .nil
  | cons node rest inductionHypothesis =>
    rw [List.forall_mem_cons] at fields
    exact fields.1.cons (inductionHypothesis fields.2)

theorem numbered_map_fieldNode (opts : Members) (fields : List Field) :
    scope.Numbered first 0 (fields.map (fieldNode opts)) := by
  apply numbered_of_forall
  intro node member
  obtain ⟨field, _, same⟩ := List.mem_map.1 member
  exact same ▸ numbered_fieldNode opts field

theorem numbered_column {opts : Members} {item : LayoutItem} {column : LayoutNode}
    (compiled : scope.column opts item = .ok column) : scope.Numbered first 0 [column] := by
  obtain ⟨_, own, field, _, _, rfl⟩ := exists_field_of_column_eq_ok compiled
  exact numbered_fieldNode _ field

theorem numbered_index {declared : Option IndexDeclaration} {root : LayoutNode}
    (compiled : scope.index declared = .ok root) : scope.Numbered 0 0 [root] := by
  cases declared with
  | none =>
    cases compiled
    exact (numbered_map_fieldNode _ _).around nofun rfl
  | some index =>
    obtain ⟨columns, compiledColumns, same⟩ := exists_mapM_of_index_eq_ok compiled
    subst same
    have numbered : scope.Numbered 0 0 columns := by
      apply numbered_of_forall
      intro column member
      obtain ⟨item, _, compiledColumn⟩ := Outcome.exists_of_mem_of_mapM_eq_ok compiledColumns member
      exact numbered_column compiledColumn
    exact numbered.around nofun rfl

theorem exists_numbered_content {declared : Option (List LayoutItem)} {child : LayoutNode}
    (compiled : scope.content declared = .ok child) : ∃ count, scope.Numbered 0 count [child] := by
  cases declared with
  | none =>
    cases compiled
    exact ⟨0, (numbered_map_fieldNode _ _).around nofun rfl⟩
  | some items =>
    rcases cases_of_content_eq_ok compiled with ⟨item, _, _, inner⟩ | ⟨_, nodes, inner, same⟩
    · exact ⟨_, numbered_item scope [] 0 item child inner⟩
    · subst same
      exact ⟨_, (numbered_items scope [] 0 items nodes inner).around nofun rfl⟩

end LayoutScope

theorem LayoutTree.exists_numbered_of_compile_eq_ok {resource : Resource} {view : View}
    {declared : Option LayoutDeclaration} {registry : Registry} {tree : LayoutTree}
    (compiled : compile resource view declared registry = .ok tree) :
    ∃ count, LayoutScope.Numbered ⟨resource, registry, view⟩ 0 count [tree.root] := by
  by_cases details : view = .index
  · subst details
    rw [compile_index] at compiled
    obtain ⟨root, compiledRoot, same⟩ := Outcome.map_eq_ok_iff.1 compiled
    cases same
    exact ⟨0, LayoutScope.numbered_index compiledRoot⟩
  · rw [compile_details details] at compiled
    obtain ⟨child, compiledChild, same⟩ := Outcome.map_eq_ok_iff.1 compiled
    cases same
    obtain ⟨count, numbered⟩ := LayoutScope.exists_numbered_content compiledChild
    exact ⟨count, numbered.around nofun rfl⟩

end Backoffice
