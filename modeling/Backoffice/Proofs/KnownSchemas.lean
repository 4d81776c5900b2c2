import Backoffice.Proofs.Declaration.Validation
import Backoffice.Proofs.Resource.EmbedCycle
import Backoffice.Proofs.Resource.RegistrationOrder

/-!
Which resources of a compiled application are of a schema that their backend knows.

The checks look up the schemas of declared resources, and nothing looks up those that are
embedded. So all schemas are known exactly if no path of embeds leads to one that is not; its
resource is without fields then.
-/

namespace Backoffice

/-- Whether the backend of the resource knows its schema. -/
def Resource.Known (resource : Resource) : Prop :=
  resource.backend.hasSchema resource.schema = true

instance (resource : Resource) : Decidable resource.Known :=
  inferInstanceAs (Decidable (_ = true))

variable {policy : NamingPolicy}

/-! ### The schemas of a tree -/

namespace ResourceTree

variable {tree : ResourceTree}

theorem Unfolds.eq_root_or_embedded (unfolds : tree.Unfolds policy) {resource : Resource}
    (member : resource ∈ tree.preorder) :
    resource = tree.root ∨
      ∃ owner ∈ tree.preorder, ∃ embed ∈ owner.embeds, resource = owner.embedded policy embed := by
  induction unfolds with
  | @node root children heads _ inductionHypothesis =>
    rw [preorder_node] at member ⊢
    rcases List.mem_cons.1 member with same | below
    · exact .inl same
    · obtain ⟨child, isChild, inChild⟩ := List.mem_flatMap.1 below
      rcases inductionHypothesis child isChild inChild with same | ⟨owner, inside, embed, own, same⟩
      · obtain ⟨embed, own, made⟩ := exists_embed_of_mem heads isChild
        exact .inr ⟨root, List.mem_cons_self, embed, own, same.trans made.symm⟩
      · have inTree : owner ∈ children.flatMap preorder :=
          List.mem_flatMap.2 ⟨child, isChild, inside⟩
        exact .inr ⟨owner, List.mem_cons_of_mem _ inTree, embed, own, same⟩

/-- The schema of a node is on a path of embeds from the root, and all nodes have
the backend of the root. -/
theorem Unfolds.exists_path (unfolds : tree.Unfolds policy) {resource : Resource}
    (member : resource ∈ tree.preorder) :
    resource.backend = tree.root.backend ∧ ∃ path, tree.root.EmbedPath policy path ∧
      resource.schema ∈ path := by
  induction unfolds with
  | @node root children heads _ inductionHypothesis =>
    rw [preorder_node] at member
    rcases List.mem_cons.1 member with same | below
    · subst same
      exact ⟨rfl, [resource.schema], ⟨rfl, trivial⟩, List.mem_singleton_self _⟩
    · obtain ⟨child, isChild, inChild⟩ := List.mem_flatMap.1 below
      obtain ⟨embed, own, made⟩ := exists_embed_of_mem heads isChild
      obtain ⟨sameBackend, path, leads, onPath⟩ := inductionHypothesis child isChild inChild
      rw [← made] at sameBackend leads
      refine ⟨sameBackend, root.schema :: path, ⟨rfl, ?_⟩, List.mem_cons_of_mem _ onPath⟩
      cases path with
      | nil => trivial
      | cons schema rest =>
        obtain ⟨first, leads⟩ := leads
        rw [Resource.targets_embedded] at leads
        have target : embed.related ∈ root.targets := List.mem_map_of_mem own
        rw [first]
        exact ⟨target, leads⟩

theorem Unfolds.exists_mem_of_leadsDown (unfolds : tree.Unfolds policy) {resource : Resource}
    (member : resource ∈ tree.preorder) {way : List SchemaName}
    (leads : resource.backend.LeadsDown policy resource.targets way) {schema : SchemaName}
    (onWay : schema ∈ way) :
    ∃ node ∈ tree.preorder, node.backend = resource.backend ∧ node.schema = schema := by
  -- The step goes down to the resource of an embed, which is a node like the one above it.
  induction way generalizing resource with
  | nil => cases onWay
  | cons first rest inductionHypothesis =>
    obtain ⟨target, leads⟩ := leads
    obtain ⟨embed, own, same⟩ := List.mem_map.1 target
    subst same
    have inside : resource.embedded policy embed ∈ tree.preorder := unfolds.embedded_mem member own
    rcases List.mem_cons.1 onWay with same | later
    · exact ⟨resource.embedded policy embed, inside, rfl, same.symm⟩
    · rw [← Resource.targets_embedded] at leads
      have found := inductionHypothesis inside leads later
      exact found

/-- All nodes are of known schemas exactly if all paths of embeds from the root lead
through known ones only. -/
theorem Unfolds.known_iff (unfolds : tree.Unfolds policy) :
    (∀ resource ∈ tree.preorder, resource.Known) ↔
      ∀ path, tree.root.EmbedPath policy path →
      ∀ schema ∈ path, tree.root.backend.hasSchema schema = true := by
  constructor
  · intro known path leads schema onPath
    have isRoot : tree.root ∈ tree.preorder := tree.root_mem_preorder
    cases path with
    | nil => cases onPath
    | cons first rest =>
      obtain ⟨start, leads⟩ := leads
      rcases List.mem_cons.1 onPath with same | later
      · rw [same, start]
        exact known tree.root isRoot
      · obtain ⟨node, member, sameBackend, same⟩ :=
          unfolds.exists_mem_of_leadsDown isRoot leads later
        rw [← sameBackend, ← same]
        exact known node member
  · intro known resource member
    obtain ⟨sameBackend, path, leads, onPath⟩ := unfolds.exists_path member
    rw [Resource.Known, sameBackend]
    exact known path leads resource.schema onPath

end ResourceTree

/-! ### The schemas of an application -/

namespace Resource

theorem fields_embedded_eq_nil {owner : Resource} {embed : EmbedData}
    (unknown : ¬ (owner.embedded policy embed).Known) :
    (owner.embedded policy embed).fields = [] ∧ (owner.embedded policy embed).order = [] := by
  have absent : embed.related ∉ owner.backend.schemaNames := by
    intro member
    exact unknown (List.contains_iff_mem.2 member)
  simp [embedded, discover, Backend.attributes_eq_nil absent, Backend.relationships_eq_nil absent,
    Discovery.run, Discovery.appendNew]

theorem known_iff_of_bare {registry : Registry} {resource original : Resource}
    (bare : resource.bare = (registry.linkResource original).bare) :
    resource.Known ↔ original.Known := by
  have backend : resource.backend = original.backend := congrArg (·.backend) bare
  have schema : resource.schema = original.schema := congrArg (·.schema) bare
  rw [Known, Known, backend, schema]

end Resource

namespace Registry

variable {backends : Backends} {declarations : List ResourceDeclaration}
  {declaration : ResourceDeclaration} {registry : Registry} {root resource : Resource}

theorem known_of_discover_eq_ok (valid : declaration.validateBackend backends = .ok ())
    (discovered : discover backends policy declaration = .ok root) : root.Known := by
  obtain ⟨⟨kind, schema, context⟩, asked, discovered⟩ := Outcome.bind_eq_ok_iff.1 discovered
  obtain ⟨backend, configured, known⟩ :=
    (ResourceDeclaration.validateBackend_eq_ok_iff_of_backend_eq_ok asked).1 valid
  dsimp only at discovered
  rw [configured] at discovered
  cases discovered
  exact List.contains_iff_mem.2 known

/-- Each resource of a registry that is built is that of a node, linked, in the
tree of a declaration. -/
theorem exists_node_of_build_eq_ok (built : build declarations backends policy = .ok registry)
    (member : resource ∈ registry.resources) :
    ∃ declaration ∈ declarations, ∃ tree, GrowsFrom tree backends policy declaration ∧
      tree.Unfolds policy ∧
      ∃ (registered : Registry), ∃ original ∈ tree.preorder,
        resource.bare = (registered.linkResource original).bare := by
  obtain ⟨registered, trees, grow, resources, _, _, bares⟩ := exists_trees_of_build_eq_ok built
  obtain ⟨original, isRegistered, bare⟩ := exists_registered_of_mem bares member
  rw [resources] at isRegistered
  obtain ⟨tree, planted, inTree⟩ := List.mem_flatMap.1 isRegistered
  obtain ⟨declaration, isDeclared, grows, unfolds⟩ := Outcome.exists_of_mem_of_forall₂ grow planted
  exact ⟨declaration, isDeclared, tree, grows, unfolds, registered, original, inTree, bare⟩

theorem exists_tree_of_build_eq_ok (built : build declarations backends policy = .ok registry)
    (isDeclared : declaration ∈ declarations)
    (discovered : discover backends policy declaration = .ok root) :
    ∃ tree : ResourceTree, tree.root = root ∧ tree.Unfolds policy ∧ ∀ original ∈ tree.preorder,
      ∃ (registered : Registry), ∃ resource ∈ registry.resources,
        resource.bare = (registered.linkResource original).bare := by
  obtain ⟨registered, trees, grow, resources, _, _, bares⟩ := exists_trees_of_build_eq_ok built
  obtain ⟨tree, planted, grows, unfolds⟩ := Outcome.exists_of_mem_of_forall₂ grow.flip isDeclared
  cases discovered.symm.trans grows.discovered
  refine ⟨tree, rfl, unfolds, ?_⟩
  intro original inTree
  have isRegistered : original ∈ registered.resources := by
    rw [resources]
    exact List.mem_flatMap.2 ⟨tree, planted, inTree⟩
  exact ⟨registered, exists_built_of_mem bares isRegistered⟩

section Built

variable (built : build declarations backends policy = .ok registry)
  (valid : ∀ declaration ∈ declarations, declaration.validateBackend backends = .ok ())

include built valid

theorem known_or_embedded_of_build_eq_ok (member : resource ∈ registry.resources) :
    resource.Known ∨ resource.isEmbedded = true ∧ resource.fields = [] ∧ resource.order = [] := by
  obtain ⟨declaration, isDeclared, tree, grows, unfolds, registered, original, inTree, bare⟩ :=
    exists_node_of_build_eq_ok built member
  by_cases known : original.Known
  · exact .inl ((Resource.known_iff_of_bare bare).2 known)
  · rcases unfolds.eq_root_or_embedded inTree with same | ⟨owner, _, embed, _, same⟩
    · exact absurd (known_of_discover_eq_ok (valid declaration isDeclared) grows.discovered)
        (same ▸ known)
    · rw [same] at known bare
      obtain ⟨fields, order⟩ := Resource.fields_embedded_eq_nil known
      refine .inr ⟨congrArg (·.isEmbedded) bare, ?_, (congrArg (·.order) bare).trans order⟩
      have linked :
          resource.fields = (registered.linkResource (owner.embedded policy embed)).fields :=
        congrArg (·.fields) bare
      rw [linked, linkResource, fields, List.map_nil]

omit valid

theorem known_iff_of_build_eq_ok :
    (∀ resource ∈ registry.resources, resource.Known) ↔
      ∀ declaration ∈ declarations, ∀ root, discover backends policy declaration = .ok root →
        ∀ path, root.EmbedPath policy path →
        ∀ schema ∈ path, root.backend.hasSchema schema = true := by
  constructor
  · intro known declaration isDeclared root discovered
    obtain ⟨tree, isRoot, unfolds, nodes⟩ := exists_tree_of_build_eq_ok built isDeclared discovered
    rw [← isRoot]
    apply unfolds.known_iff.1
    intro original inTree
    obtain ⟨_, resource, member, bare⟩ := nodes original inTree
    exact (Resource.known_iff_of_bare bare).1 (known resource member)
  · intro known resource member
    obtain ⟨declaration, isDeclared, tree, grows, unfolds, _, original, inTree, bare⟩ :=
      exists_node_of_build_eq_ok built member
    rw [Resource.known_iff_of_bare bare]
    exact unfolds.known_iff.2 (known declaration isDeclared tree.root grows.discovered)
      original inTree

end Built

end Registry

namespace AppDeclaration

variable {declaration : AppDeclaration} {backends : Backends} {app : AppSchema}

/-- In an application that compiles, a resource is of a known schema, or it is embedded and has no
fields. All of them are of known schemas exactly if all paths of embeds from the declared ones lead
through known schemas only. -/
theorem known_of_compile_eq_ok (compiled : declaration.compile backends = .ok app) :
    ∃ policy, NamingPolicy.ofRules declaration.namingRules = .ok policy ∧
      (∀ resource ∈ app.registry.resources,
        resource.Known ∨ resource.isEmbedded = true ∧ resource.fields = [] ∧ resource.order = []) ∧
      ((∀ resource ∈ app.registry.resources, resource.Known) ↔
        ∀ declared ∈ declaration.resources, ∀ root,
        Registry.discover backends policy declared = .ok root →
          ∀ path, root.EmbedPath policy path →
          ∀ schema ∈ path, root.backend.hasSchema schema = true) := by
  obtain ⟨_, valid, _⟩ := Outcome.bind_eq_ok_iff.1 compiled
  obtain ⟨policy, ruled, built, _⟩ := exists_policy_of_compile_eq_ok compiled
  have backed : ∀ declared ∈ declaration.resources, declared.validateBackend backends = .ok () :=
    fun declared isDeclared => ((usable_of_validate_eq_ok valid).1 declared isDeclared).backed
  exact ⟨policy, ruled,
    fun _ member => Registry.known_or_embedded_of_build_eq_ok built backed member,
    Registry.known_iff_of_build_eq_ok built⟩

theorem known_blog : ∃ app, blog.compile blogBackends = .ok app ∧
    ∃ policy, NamingPolicy.ofRules blog.namingRules = .ok policy ∧
      (∀ resource ∈ app.registry.resources,
        resource.Known ∨ resource.isEmbedded = true ∧ resource.fields = [] ∧ resource.order = []) ∧
      ((∀ resource ∈ app.registry.resources, resource.Known) ↔
        ∀ declared ∈ blog.resources, ∀ root,
        Registry.discover blogBackends policy declared = .ok root →
          ∀ path, root.EmbedPath policy path →
          ∀ schema ∈ path, root.backend.hasSchema schema = true) := by
  obtain ⟨app, compiled, _⟩ := Outcome.exists_ok_of_toOption_map_eq_some names_compile_blog
  exact ⟨app, compiled, known_of_compile_eq_ok compiled⟩

/-- Albums with an embedded cover, of which the backend knows nothing. -/
def albumCatalog : SchemaCatalog where
  schemas := [
    { name := ⟨"Album"⟩
      fields := []
      associations := [{ name := "cover", kind := .embedOne, destination := ⟨"Cover"⟩ }] }]

def albumBackends : Backends where
  simple := some albumCatalog

def albums : AppDeclaration where
  resources := [blogDeclaration "album" "Album"]

def albumResource : Resource :=
  .discover "album" (.simple albumCatalog) ⟨"Album"⟩ none
    (some (blogDeclaration "album" "Album")) {} none

/-- Albums compile, and the resource of their covers is of a schema that is not known. -/
theorem unknown_albums : ∃ app, albums.compile albumBackends = .ok app ∧
    ∃ resource ∈ app.registry.resources, resource.name = "album__cover" ∧
      resource.schema = ⟨"Cover"⟩ ∧ ¬ resource.Known := by
  have registered : Registry.register albumBackends {} {} (blogDeclaration "album" "Album") =
      Registry.insertAll {} [albumResource,
        albumResource.embedded {} ⟨"album", "album__cover", ⟨"Cover"⟩⟩] :=
    register_eq_insertAll {} rfl
      (Resource.synthesizeEmbeds_of_embeds_eq_singleton (by decide +kernel) (by decide)
        (by decide +kernel))
  have compiles : (albums.compile albumBackends).toOption.map (fun app => app.registry.resources.map
      fun resource =>
        (resource.name, resource.schema, resource.backend.hasSchema resource.schema)) =
      some [("album", ⟨"Album"⟩, true), ("album__cover", ⟨"Cover"⟩, false)] := by
    have ruled : NamingPolicy.ofRules albums.namingRules = .ok {} := rfl
    rw [compile_eq_of_ofRules_eq_ok ruled, Registry.build]
    simp only [albums, List.foldlM_cons, List.foldlM_nil, registered]
    decide +kernel
  obtain ⟨app, compiled, views⟩ := Outcome.exists_ok_of_toOption_map_eq_some compiles
  have cover : ("album__cover", (⟨"Cover"⟩ : SchemaName), false) ∈ app.registry.resources.map
      fun resource =>
        (resource.name, resource.schema, resource.backend.hasSchema resource.schema) := by
    rw [views]
    decide
  obtain ⟨resource, member, view⟩ := List.mem_map.1 cover
  simp only [Prod.mk.injEq] at view
  obtain ⟨name, schema, unknown⟩ := view
  refine ⟨app, compiled, resource, member, name, schema, ?_⟩
  rw [Resource.Known, unknown]
  exact Bool.false_ne_true

end AppDeclaration

end Backoffice
