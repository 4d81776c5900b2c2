import Backoffice.Proofs.Layout.Mirroring
import Backoffice.Proofs.Resource.Discovery

/-!
Where the field nodes of a compiled tree come from: each of them, however deep, is made from a field
of the resource that is not omitted. In a declared view this is so because every node stands for an
item, and a view that is not declared passes over omitted fields.
-/

namespace Backoffice

namespace LayoutNode

/-- Whether a node, if it is that of a field, is made from a field of the
resource that is not omitted. -/
def Discreet (resource : Resource) (node : LayoutNode) : Prop :=
  (node.tag = .field ∨ ∃ related, node.config = .field related) →
    ∃ key field opts, resource.field? key = some field ∧ field.omitted = false ∧
      node = LayoutScope.fieldNode opts field

/-- Whether the node and all nodes inside it, as far as they are nodes of fields, lead where
fields of the resource lead. -/
def ShowsFieldsOf (resource : Resource) (node : LayoutNode) : Prop :=
  ∀ inner ∈ node.nodes, ∀ related, inner.config = .field related →
    ∃ key field, resource.field? key = some field ∧ field.relatedResource? = related

variable {resource : Resource}

theorem Depicts.discreet {item : LayoutItem} {node : LayoutNode}
    (depicts : Depicts resource item node) :
    node.Discreet resource := by
  cases depicts with
  | field stored shown => exact fun _ => ⟨_, _, _, stored, shown, rfl⟩
  | _ =>
    rintro (tag | ⟨related, config⟩)
    · cases tag
    · cases config

theorem forall_nodes_mk {Holds : LayoutNode → Prop} {tag : LayoutTag} {name : String}
    {config : NodeConfig} {opts : Members} {children : List LayoutNode}
    (head : Holds (mk tag name config opts children))
    (inside : ∀ child ∈ children, ∀ inner ∈ child.nodes, Holds inner) :
    ∀ inner ∈ (mk tag name config opts children).nodes, Holds inner := by
  rw [nodes, List.forall_mem_cons, nodesOfList_eq_flatMap, List.forall_mem_flatMap]
  exact ⟨head, inside⟩

/-- What the node of every item has, every node of a mirrored tree has. -/
theorem Mirrors.forall_nodes {Agree : List LayoutItem → LayoutItem → LayoutNode → Prop}
    {Holds : LayoutNode → Prop} (holds : ∀ around item node, Agree around item node → Holds node)
    {around : List LayoutItem} {item : LayoutItem} {node : LayoutNode}
    (mirrors : Mirrors Agree around item node) : ∀ inner ∈ node.nodes, Holds inner := by
  induction mirrors with
  | @mk around item node agree sameLength _ inductionHypothesis =>
    obtain ⟨tag, name, config, opts, children⟩ := node
    apply forall_nodes_mk (holds _ _ _ agree)
    intro child member
    have related := List.forall₂_iff_zip.2 ⟨sameLength, fun member => inductionHypothesis _ member⟩
    exact (Outcome.exists_of_mem_of_forall₂ related member).elim fun _ found => found.2

theorem Mirrors.forall_discreet {Agree : List LayoutItem → LayoutItem → LayoutNode → Prop}
    (depicts : ∀ around item node, Agree around item node → Depicts resource item node)
    {around : List LayoutItem} {item : LayoutItem} {node : LayoutNode}
    (mirrors : Mirrors Agree around item node) : ∀ inner ∈ node.nodes, inner.Discreet resource :=
  mirrors.forall_nodes fun around item node agree => (depicts around item node agree).discreet

theorem forall_discreet_mk {tag : LayoutTag} {name : String} {config : NodeConfig} {opts : Members}
    {children : List LayoutNode} (other : tag ≠ .field) (plain : ∀ related, config ≠ .field related)
    (inside : ∀ child ∈ children, ∀ inner ∈ child.nodes, inner.Discreet resource) :
    ∀ inner ∈ (mk tag name config opts children).nodes, inner.Discreet resource := by
  apply forall_nodes_mk
  · rintro (isField | ⟨related, leads⟩)
    · exact absurd isField other
    · exact absurd leads (plain related)
  · exact inside

theorem Contents.forall_discreet {items : List LayoutItem} {node : LayoutNode}
    (contents : Contents (Realizes resource) items node) :
    ∀ inner ∈ node.nodes, inner.Discreet resource := by
  cases contents with
  | container _ mirrors => exact mirrors.forall_discreet fun _ _ _ realizes => realizes.renders.1
  | stack _ mirrors =>
    refine forall_discreet_mk nofun nofun ?_
    intro child member
    obtain ⟨item, _, mirrored⟩ := Outcome.exists_of_mem_of_forall₂ mirrors member
    exact mirrored.forall_discreet fun _ _ _ realizes => realizes.renders.1

theorem forall_discreet_default {isShown : Field → Bool}
    (shown : ∀ field, isShown field = true → field.omitted = false) (opts : Members) :
    ∀ child ∈ (resource.orderedFields.filter isShown).map (LayoutScope.fieldNode opts),
      ∀ inner ∈ child.nodes, inner.Discreet resource := by
  intro child member
  obtain ⟨field, listed, same⟩ := List.mem_map.1 member
  subst same
  obtain ⟨inOrder, passes⟩ := List.mem_filter.1 listed
  obtain ⟨key, stored⟩ := Resource.exists_field_of_mem_orderedFields inOrder
  apply forall_nodes_mk
  · exact fun _ => ⟨key, field, opts, stored, shown field passes, rfl⟩
  · exact nofun

end LayoutNode

namespace LayoutScope

open LayoutNode

variable {scope : LayoutScope}

theorem forall_discreet_index {declared : Option IndexDeclaration} {root : LayoutNode}
    (compiled : scope.index declared = .ok root) :
    ∀ inner ∈ root.nodes, inner.Discreet scope.resource := by
  cases declared with
  | none =>
    cases compiled
    refine forall_discreet_mk nofun nofun ?_
    apply forall_discreet_default
    intro field shown
    simp only [isDefaultColumn, Bool.and_eq_true, Bool.not_eq_true'] at shown
    exact shown.1
  | some index =>
    obtain ⟨columns, same, mirrors⟩ := exists_columns_of_index_eq_ok compiled
    subst same
    refine forall_discreet_mk nofun nofun ?_
    intro column member
    obtain ⟨item, _, mirrored⟩ := Outcome.exists_of_mem_of_forall₂ mirrors member
    exact mirrored.forall_discreet fun _ _ _ renders => renders.1

theorem forall_discreet_content {declared : Option (List LayoutItem)} {child : LayoutNode}
    (compiled : scope.content declared = .ok child) :
    ∀ inner ∈ child.nodes, inner.Discreet scope.resource := by
  cases declared with
  | none =>
    cases compiled
    refine forall_discreet_mk nofun nofun ?_
    apply forall_discreet_default
    intro field shown
    simp only [isDefaultDetail, Bool.and_eq_true, Bool.not_eq_true'] at shown
    exact shown.1
  | some items => exact (contents_of_content_eq_ok compiled).forall_discreet

end LayoutScope

namespace LayoutTree

variable {resource : Resource} {view : View} {declared : Option LayoutDeclaration}
  {registry : Registry} {tree : LayoutTree}

/-- Every field node of a compiled tree is made from a field of its resource that is not omitted. -/
theorem forall_discreet_of_compile_eq_ok
    (compiled : compile resource view declared registry = .ok tree) :
    ∀ inner ∈ tree.root.nodes, inner.Discreet resource := by
  by_cases details : view = .index
  · subst details
    rw [compile_index] at compiled
    obtain ⟨root, compiledRoot, same⟩ := Outcome.map_eq_ok_iff.1 compiled
    cases same
    exact LayoutScope.forall_discreet_index compiledRoot
  · rw [compile_details details] at compiled
    obtain ⟨child, compiledChild, same⟩ := Outcome.map_eq_ok_iff.1 compiled
    cases same
    refine LayoutNode.forall_discreet_mk nofun nofun ?_
    rw [List.forall_mem_singleton]
    exact LayoutScope.forall_discreet_content compiledChild

/-- Every field node of a compiled tree leads where some field of its resource leads. -/
theorem showsFieldsOf_of_compile_eq_ok
    (compiled : compile resource view declared registry = .ok tree) :
    tree.root.ShowsFieldsOf resource := by
  intro inner member related leads
  obtain ⟨key, field, opts, stored, _, same⟩ :=
    forall_discreet_of_compile_eq_ok compiled inner member (.inr ⟨related, leads⟩)
  subst same
  cases leads
  exact ⟨key, field, stored, rfl⟩

end LayoutTree

end Backoffice
