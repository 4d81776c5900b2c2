import Backoffice.Proofs.Layout.Mirroring

/-!
How many tabs of a group are shown first.

A group whose tabs declare nothing shows its first tab first, and no other. Tabs that ask for it are
all shown first instead. A first tab that declines is not replaced by another one, so that a group
shows none of its tabs first if its first tab declines and no tab asks.
-/

namespace Backoffice

/-! ### Flags -/

namespace LayoutItem

variable {items : List LayoutItem} {item : LayoutItem} {index : Nat}

/-- Whether the first of some tabs declares that it is not shown first, and no
tab declares that it is. -/
structure Declined (items : List LayoutItem) : Prop where
  first : items.head?.bind (·.active?) = some false
  noneAsks : ∀ item ∈ items, item.isDeclaredActive = false

theorem isDeclaredActive_iff : item.isDeclaredActive = true ↔ item.active? = some true := by
  cases item with
  | tab label active items opts =>
    cases active with
    | none => simp [isDeclaredActive, active?]
    | some active => cases active <;> simp [isDeclaredActive, active?]
  | _ => simp [isDeclaredActive, active?]

/-- If some tab asks, those that ask are shown first, and no others. -/
theorem count_activeFlags_explicit :
    (activeFlags true index items).count true = items.countP (·.isDeclaredActive) := by
  induction items generalizing index with
  | nil => rfl
  | cons item rest inductionHypothesis =>
    have own : LayoutScope.isActive item.active? true index = item.isDeclaredActive := by
      rw [Bool.eq_iff_iff, isDeclaredActive_iff, LayoutScope.isActive]
      cases item.active? <;> simp
    rw [activeFlags, List.count_cons, List.countP_cons, inductionHypothesis, own]
    simp

theorem active?_unasked (unasked : item.isDeclaredActive = false) :
    item.active? = none ∨ item.active? = some false := by
  cases declares : item.active? with
  | none => exact .inl rfl
  | some active =>
    cases active with
    | false => exact .inr rfl
    | true =>
      rw [isDeclaredActive_iff.2 declares] at unasked
      cases unasked

/-- If no tab asks, only the first one can be shown first. -/
theorem count_activeFlags_later (noneAsks : ∀ item ∈ items, item.isDeclaredActive = false) :
    (activeFlags false (index + 1) items).count true = 0 := by
  induction items generalizing index with
  | nil => rfl
  | cons item rest inductionHypothesis =>
    rw [List.forall_mem_cons] at noneAsks
    have own : LayoutScope.isActive item.active? false (index + 1) = false := by
      rcases active?_unasked noneAsks.1 with declares | declares <;> rw [declares] <;> rfl
    rw [activeFlags, own, List.count_cons, inductionHypothesis noneAsks.2]
    rfl

/-- One tab is shown first, apart from groups that ask for several or decline. -/
theorem count_activeFlags (notEmpty : items ≠ []) :
    ((activeFlags (items.any (·.isDeclaredActive)) 0 items).count true = 0 ↔ Declined items) ∧
      ((activeFlags (items.any (·.isDeclaredActive)) 0 items).count true = 1 ↔
        ¬ Declined items ∧ items.countP (·.isDeclaredActive) ≤ 1) := by
  cases asks : items.any (·.isDeclaredActive) with
  | true =>
    obtain ⟨item, member, isAsking⟩ := List.any_eq_true.1 asks
    have notDeclined : ¬ Declined items := fun declined => by
      rw [declined.noneAsks item member] at isAsking
      cases isAsking
    have positive : 0 < items.countP (·.isDeclaredActive) :=
      List.countP_pos_iff.2 ⟨item, member, isAsking⟩
    rw [count_activeFlags_explicit]
    grind
  | false =>
    have noneAsks : ∀ item ∈ items, item.isDeclaredActive = false := by simpa using asks
    have noneCounted : items.countP (·.isDeclaredActive) = 0 :=
      List.countP_eq_zero.2 fun item member => by simp [noneAsks item member]
    obtain ⟨first, rest, rfl⟩ := List.exists_cons_of_ne_nil notEmpty
    obtain ⟨firstUnasked, restUnasked⟩ := List.forall_mem_cons.1 noneAsks
    rw [activeFlags, List.count_cons, count_activeFlags_later restUnasked, noneCounted]
    rcases active?_unasked firstUnasked with unset | declines
    · have notDeclined : ¬ Declined (first :: rest) := by
        rintro ⟨declines, _⟩
        change first.active? = some false at declines
        rw [unset] at declines
        cases declines
      rw [unset]
      simp [notDeclined, LayoutScope.isActive]
    · have declined : Declined (first :: rest) := ⟨declines, noneAsks⟩
      rw [declines]
      simp [declined, LayoutScope.isActive]

end LayoutItem

/-! ### Groups -/

namespace LayoutItem

mutual

/-- The groups of tabs in an item by their tabs, each one before those inside it. -/
def groups : LayoutItem → List (List LayoutItem)
  | field _ _ => []
  | stacked items _ | inline items _ | group _ items _ | tab _ _ items _ => groupsOfList items
  | tabs items _ => items :: groupsOfList items

def groupsOfList : List LayoutItem → List (List LayoutItem)
  | [] => []
  | item :: rest => groups item ++ groupsOfList rest

end

end LayoutItem

namespace LayoutNode

def groups (node : LayoutNode) : List LayoutNode :=
  node.nodes.filter (·.tag = .tabs)

/-- How many tabs of a group are shown first. -/
def activeTabs (node : LayoutNode) : Nat :=
  node.children.countP isActive

/-- Whether a node is the group of some tabs, and shows exactly one of them first, apart from tabs
that decline or of which several ask. -/
structure GroupOf (resource : Resource) (sections : List LayoutItem)
    (node : LayoutNode) : Prop where
  depicted : List.Forall₂ (Depicts resource) sections node.children
  none_iff : node.activeTabs = 0 ↔ LayoutItem.Declined sections
  one_iff : node.activeTabs = 1 ↔
    ¬ LayoutItem.Declined sections ∧ sections.countP (·.isDeclaredActive) ≤ 1

variable {resource : Resource} {tag : LayoutTag} {name : String} {config : NodeConfig}
  {opts : Members} {children : List LayoutNode}

theorem groups_mk_of_ne (other : tag ≠ .tabs) :
    (mk tag name config opts children).groups = children.flatMap groups := by
  have head : (mk tag name config opts children).tag ≠ .tabs := other
  rw [groups, nodes, List.filter_cons_of_neg (by simpa using head), nodesOfList_eq_flatMap,
    List.filter_flatMap]
  rfl

theorem groups_mk_tabs : (mk .tabs name config opts children).groups =
    mk .tabs name config opts children :: children.flatMap groups := by
  rw [groups, nodes, List.filter_cons_of_pos rfl, nodesOfList_eq_flatMap, List.filter_flatMap]
  rfl

theorem Mirrors.depicts {around : List LayoutItem} {item : LayoutItem} {node : LayoutNode}
    (mirrors : Mirrors (Realizes resource) around item node) : Depicts resource item node := by
  cases mirrors with
  | mk realizes _ _ => exact realizes.renders.1

theorem ShowsTabs.groupOf {sections : List LayoutItem} {own : Members} {node : LayoutNode}
    (shows : ShowsTabs (.tabs sections own) node)
    (depicted : List.Forall₂ (Depicts resource) sections node.children) :
    GroupOf resource sections node := by
  obtain ⟨notEmpty, flags⟩ := shows
  have counted : node.activeTabs = (node.children.map isActive).count true := by
    rw [LayoutNode.activeTabs, List.count, List.countP_map]
    congr 1
    funext child
    simp
  obtain ⟨none_iff, one_iff⟩ := LayoutItem.count_activeFlags notEmpty
  rw [← flags, ← counted] at none_iff one_iff
  exact ⟨depicted, none_iff, one_iff⟩

theorem forall₂_groupsOfList {items : List LayoutItem} {nodes : List LayoutNode}
    (inside : List.Forall₂ (fun (item : LayoutItem) (node : LayoutNode) =>
      List.Forall₂ (GroupOf resource) item.groups node.groups) items nodes) :
    List.Forall₂ (GroupOf resource) (LayoutItem.groupsOfList items) (nodes.flatMap groups) := by
  induction inside with
  | nil => exact .nil
  | cons head _ inductionHypothesis => exact List.rel_append head inductionHypothesis

/-- The groups of tabs in a node are those of its item, in the same order. -/
theorem Mirrors.groups {around : List LayoutItem} {item : LayoutItem} {node : LayoutNode}
    (mirrors : Mirrors (Realizes resource) around item node) :
    List.Forall₂ (GroupOf resource) item.groups node.groups := by
  induction mirrors with
  | @mk around item node realizes sameLength pairs inductionHypothesis =>
    obtain ⟨⟨depicts, _⟩, shows⟩ := realizes
    have inside : List.Forall₂ (GroupOf resource) (LayoutItem.groupsOfList item.items)
        (node.children.flatMap LayoutNode.groups) :=
      forall₂_groupsOfList
        (List.forall₂_iff_zip.2 ⟨sameLength, fun member => inductionHypothesis _ member⟩)
    cases depicts with
    | @tabs sections own id opts children =>
      have depicted : List.Forall₂ (Depicts resource) sections children :=
        List.forall₂_iff_zip.2 ⟨sameLength, fun member => (pairs _ member).depicts⟩
      rw [groups_mk_tabs]
      exact .cons (shows.groupOf depicted) inside
    | field => exact .nil
    | _ =>
      rw [groups_mk_of_ne]
      · exact inside
      · simp

theorem Contents.groups {items : List LayoutItem} {node : LayoutNode}
    (contents : Contents (Realizes resource) items node) :
    List.Forall₂ (GroupOf resource) (LayoutItem.groupsOfList items) node.groups := by
  cases contents with
  | container _ mirrors =>
    rw [LayoutItem.groupsOfList, LayoutItem.groupsOfList, List.append_nil]
    exact mirrors.groups
  | stack _ mirrors =>
    rw [groups_mk_of_ne]
    · exact forall₂_groupsOfList (mirrors.imp fun _ _ => Mirrors.groups)
    · simp

end LayoutNode

/-! ### Views -/

namespace LayoutScope

open LayoutNode

variable {scope : LayoutScope}

theorem groups_fieldNodes (opts : Members) (fields : List Field) :
    (fields.map (fieldNode opts)).flatMap groups = [] := by
  rw [List.flatMap_map]
  exact List.flatMap_eq_nil_iff.2 fun _ _ => rfl

theorem groups_content {declared : Option (List LayoutItem)} {child : LayoutNode}
    (compiled : scope.content declared = .ok child) :
    List.Forall₂ (GroupOf scope.resource) (LayoutItem.groupsOfList (declared.getD []))
      child.groups := by
  cases declared with
  | none =>
    cases compiled
    rw [stack, groups_mk_of_ne, groups_fieldNodes]
    · exact .nil
    · simp
  | some items => exact (contents_of_content_eq_ok compiled).groups

theorem groups_column {opts : Members} {item : LayoutItem} {column : LayoutNode}
    (compiled : scope.column opts item = .ok column) : item.groups = [] ∧ column.groups = [] := by
  obtain ⟨name, own, field, rfl, _, rfl⟩ := exists_field_of_column_eq_ok compiled
  exact ⟨rfl, rfl⟩

theorem groups_index {declared : Option IndexDeclaration} {root : LayoutNode}
    (compiled : scope.index declared = .ok root) :
    List.Forall₂ (GroupOf scope.resource)
      (LayoutItem.groupsOfList ((declared.map (·.columns)).getD [])) root.groups := by
  cases declared with
  | none =>
    cases compiled
    rw [root, groups_mk_of_ne, groups_fieldNodes]
    · exact .nil
    · simp
  | some index =>
    obtain ⟨columns, compiledColumns, same⟩ := exists_mapM_of_index_eq_ok compiled
    subst same
    rw [root, groups_mk_of_ne]
    · refine forall₂_groupsOfList ((Outcome.forall₂_of_mapM_eq_ok compiledColumns).imp ?_)
      intro item column compiledColumn
      rw [(groups_column compiledColumn).1, (groups_column compiledColumn).2]
      exact .nil
    · simp

end LayoutScope

namespace LayoutTree

open LayoutNode LayoutItem

variable {resource : Resource} {view : View} {declared : Option LayoutDeclaration}
  {registry : Registry} {tree : LayoutTree}

/-- Every group of tabs shows exactly one of its tabs first, except that it shows none if its first
tab declines and no tab asks, and several if several ask. -/
theorem activeTabs_of_compile_eq_ok
    (compiled : compile resource view declared registry = .ok tree) :
    List.Forall₂ (GroupOf resource) (groupsOfList ((declared.bind (·.items? view)).getD []))
      (tree.root.nodes.filter (·.tag = .tabs)) := by
  change List.Forall₂ _ _ tree.root.groups
  by_cases details : view = .index
  · subst details
    rw [compile_index] at compiled
    obtain ⟨root, compiledRoot, same⟩ := Outcome.map_eq_ok_iff.1 compiled
    cases same
    have columns : declared.bind (·.items? .index) = (declared.bind (·.index)).map (·.columns) := by
      cases declared with
      | none => rfl
      | some declaration => rfl
    rw [columns]
    exact LayoutScope.groups_index compiledRoot
  · rw [compile_details details] at compiled
    obtain ⟨child, compiledChild, same⟩ := Outcome.map_eq_ok_iff.1 compiled
    cases same
    rw [LayoutScope.root, groups_mk_of_ne, List.flatMap_singleton]
    · exact LayoutScope.groups_content compiledChild
    · simp

theorem activeTabs_articleForm :
    ∃ tree node, compile article .form (some articleForm) {} = .ok tree ∧
    tree.root.groups = [node] ∧ node.activeTabs = 1 := by
  obtain ⟨tree, compiled⟩ : ∃ tree, compile article .form (some articleForm) {} = .ok tree :=
    ⟨_, rfl⟩
  obtain ⟨node, others, group, noOthers, groups⟩ :=
    List.forall₂_cons_left_iff.1 (activeTabs_of_compile_eq_ok compiled)
  cases noOthers
  refine ⟨tree, node, compiled, groups, group.one_iff.2 ⟨?_, by decide⟩⟩
  rintro ⟨declines, _⟩
  cases declines

def declinedForm : LayoutDeclaration where
  resource := "article"
  form := some [.tabs [.tab "Text" (some false) [.field "body" []] []] []]

theorem activeTabs_declinedForm :
    ∃ tree node, compile article .form (some declinedForm) {} = .ok tree ∧
    node ∈ tree.root.nodes ∧ node.tag = .tabs ∧ node.activeTabs = 0 :=
  ⟨_, _, rfl, .tail _ (.head _), rfl, rfl⟩

end LayoutTree

end Backoffice
