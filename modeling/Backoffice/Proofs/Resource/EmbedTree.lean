import Backoffice.Proofs.Resource.Descent

/-!
The tree of the resources that are embedded in a resource: the children of each node are the
resources of its embeds, in their order. A descent that succeeds finds the nodes of the tree below
the resource, each before those below it.
-/

namespace Backoffice

/-- A resource and the trees of those embedded in it. -/
inductive ResourceTree where
  | node (root : Resource) (children : List ResourceTree)

namespace ResourceTree

def root : ResourceTree → Resource
  | node root _ => root

mutual

/-- The resources of the tree, each one before those below it. -/
def preorder : ResourceTree → List Resource
  | node root children => root :: preorderOfList children

def preorderOfList : List ResourceTree → List Resource
  | [] => []
  | tree :: rest => preorder tree ++ preorderOfList rest

end

/-- Whether the children of each node are the resources of its embeds, in their order. -/
inductive Unfolds (policy : NamingPolicy) : ResourceTree → Prop where
  | node {root : Resource} {children : List ResourceTree} :
      children.map ResourceTree.root = root.embeds.map (root.embedded policy) →
      (∀ child ∈ children, Unfolds policy child) →
      Unfolds policy (.node root children)

variable {policy : NamingPolicy} {declarations : List ResourceDeclaration}

theorem preorderOfList_eq_flatMap (trees : List ResourceTree) :
    preorderOfList trees = trees.flatMap preorder := by
  induction trees with
  | nil => rfl
  | cons tree rest inductionHypothesis =>
    rw [preorderOfList, inductionHypothesis, List.flatMap_cons]

theorem preorder_node (root : Resource) (children : List ResourceTree) :
    (node root children).preorder = root :: children.flatMap preorder := by
  rw [preorder, preorderOfList_eq_flatMap]

theorem root_mem_preorder (tree : ResourceTree) : tree.root ∈ tree.preorder := by
  cases tree with
  | node root children =>
    rw [preorder_node]
    exact List.mem_cons_self

theorem map_root_sublist (trees : List ResourceTree) :
    (trees.map root).Sublist (trees.flatMap preorder) := by
  induction trees with
  | nil => exact .slnil
  | cons tree rest inductionHypothesis =>
    cases tree with
    | node root children =>
      rw [List.map_cons, List.flatMap_cons, preorder_node, List.cons_append]
      exact (inductionHypothesis.trans (List.sublist_append_right _ _)).cons_cons root

theorem exists_embed_of_mem {root : Resource} {children : List ResourceTree}
    (heads : children.map ResourceTree.root = root.embeds.map (root.embedded policy))
    {child : ResourceTree} (isChild : child ∈ children) :
    ∃ embed ∈ root.embeds, root.embedded policy embed = child.root := by
  apply List.mem_map.1
  rw [← heads]
  exact List.mem_map_of_mem isChild

/-- With a resource its embeds are in the tree. -/
theorem Unfolds.embedded_mem {tree : ResourceTree} (unfolds : tree.Unfolds policy)
    {resource : Resource} (member : resource ∈ tree.preorder) {embed : EmbedData}
    (own : embed ∈ resource.embeds) :
    resource.embedded policy embed ∈ tree.preorder := by
  induction unfolds with
  | @node root children heads _ inductionHypothesis =>
    rw [preorder_node] at member ⊢
    apply List.mem_cons_of_mem
    rcases List.mem_cons.1 member with same | below
    · subst same
      exact (map_root_sublist children).subset (heads ▸ List.mem_map_of_mem own)
    · obtain ⟨child, isChild, inChild⟩ := List.mem_flatMap.1 below
      exact List.mem_flatMap.2 ⟨child, isChild, inductionHypothesis child isChild inChild⟩

end ResourceTree

namespace Resource

variable {policy : NamingPolicy}

theorem exists_trees_of_synthesize_eq_ok {parent : Resource} {chain : List SchemaName}
    {pending : List EmbedData} (resources : List Resource)
    (succeeded : synthesize policy parent chain pending = .ok resources) :
    ∃ trees : List ResourceTree,
      trees.map ResourceTree.root = pending.map (parent.embedded policy) ∧
      (∀ tree ∈ trees, tree.Unfolds policy) ∧ trees.flatMap ResourceTree.preorder = resources := by
  induction parent, chain, pending using synthesize.induct policy generalizing resources with
  | case1 parent chain =>
    rw [synthesize_nil] at succeeded
    cases succeeded
    exact ⟨[], rfl, List.forall_mem_nil _, rfl⟩
  | case2 parent chain embed rest repeated =>
    exact absurd repeated (synthesize_cons_eq_ok_iff.1 succeeded).1
  | case3 parent chain embed rest fresh child hypothesisBelow hypothesisOthers =>
    obtain ⟨_, below, siblings, succeededBelow, succeededOthers, same⟩ :=
      synthesize_cons_eq_ok_iff.1 succeeded
    obtain ⟨children, heads, unfolds, found⟩ := hypothesisBelow below succeededBelow
    obtain ⟨trees, roots, unfoldOthers, foundOthers⟩ := hypothesisOthers siblings succeededOthers
    refine ⟨.node child children :: trees, ?_, ?_, ?_⟩
    · rw [List.map_cons, List.map_cons, roots]
      rfl
    · rw [List.forall_mem_cons]
      exact ⟨.node heads unfolds, unfoldOthers⟩
    · rw [List.flatMap_cons, ResourceTree.preorder_node, found, foundOthers, List.cons_append]
      exact same

/-- A resource and all that is found in it are the nodes of its tree. -/
theorem exists_tree_of_synthesizeEmbeds_eq_ok {root : Resource} {embedded : List Resource}
    (succeeded : root.synthesizeEmbeds policy = .ok embedded) :
    ∃ tree : ResourceTree, tree.root = root ∧ tree.Unfolds policy ∧
      tree.preorder = root :: embedded := by
  obtain ⟨children, heads, unfolds, found⟩ := exists_trees_of_synthesize_eq_ok embedded succeeded
  exact ⟨.node root children, rfl, .node heads unfolds, by rw [ResourceTree.preorder_node, found]⟩

end Resource

end Backoffice
