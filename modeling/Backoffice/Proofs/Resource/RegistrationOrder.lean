import Backoffice.Proofs.Closedness
import Backoffice.Proofs.Resource.EmbedTree
import Backoffice.Proofs.Resource.Families

/-!
The order in which resources are registered: that of the declarations, each declared resource being
followed by the tree of what is embedded in it, in preorder.

The children of a node are the resources of the embeds among its fields, one for each, in the
order of the fields. Nothing but the targets of associations is changed in a resource of an embed
after it has been discovered.
-/

namespace Backoffice

variable {policy : NamingPolicy} {declarations : List ResourceDeclaration}

/-! ### The children of a resource -/

namespace Resource

def embedKeys (resource : Resource) : List String :=
  resource.order.filter fun key => ((resource.field? key).bind (·.embed?)).isSome

/-- Whether a resource stands for the embed under a key of another one: it is what discovery gives,
without a declaration, for the schema that the relationship of that name embeds. -/
structure StandsFor (child owner : Resource) (policy : NamingPolicy) (key : String) : Prop where
  name : child.name = owner.name ++ "__" ++ key
  parent : child.parent = some owner.name
  backend : child.backend = owner.backend
  context : child.context = owner.context
  field : ∃ field, owner.field? key = some field ∧
    field.embed? = some ⟨owner.name, child.name, child.schema⟩
  relationship : ∃ relationship ∈ owner.backend.relationships owner.schema,
    relationship.name = key ∧
    relationship.kind ∈ [.embedOne, .embedMany] ∧ relationship.destination = child.schema
  discovered :
    child = discover child.name child.backend child.schema child.context none policy child.parent

variable {resource : Resource}

theorem forall₂_filter_filterMap {Value Other : Type} (view : Value → Option Other)
    (values : List Value) :
    List.Forall₂ (fun value other => view value = some other)
      (values.filter fun value => (view value).isSome)
      (values.filterMap view) := by
  induction values with
  | nil => exact .nil
  | cons value rest inductionHypothesis =>
    cases seen : view value with
    | none =>
      rw [List.filterMap_cons_none seen, List.filter_cons_of_neg (by simp [seen])]
      exact inductionHypothesis
    | some other =>
      rw [List.filterMap_cons_some seen, List.filter_cons_of_pos (by simp [seen])]
      exact .cons seen inductionHypothesis

theorem forall₂_embedKeys_embeds (resource : Resource) :
    List.Forall₂ (fun key embed => (resource.field? key).bind (·.embed?) = some embed)
      resource.embedKeys
      resource.embeds := by
  rw [embeds, orderedFields, List.filterMap_filterMap]
  exact forall₂_filter_filterMap _ resource.order

theorem standsFor_embedded (traced : resource.EmbedsFromSchema) {key : String} {embed : EmbedData}
    (found : (resource.field? key).bind (·.embed?) = some embed) :
    (resource.embedded policy embed).StandsFor resource policy key := by
  obtain ⟨field, stored, embeds⟩ := Option.bind_eq_some_iff.1 found
  obtain ⟨relationship, listed, named, own⟩ := traced key field embed stored embeds
  obtain ⟨kind, same⟩ := Relationship.embed?_eq_some_iff.1 own
  subst named same
  exact {
    name := rfl
    parent := rfl
    backend := rfl
    context := rfl
    field := ⟨field, stored, embeds⟩
    relationship := ⟨relationship, listed, rfl, kind, rfl⟩
    discovered := rfl }

theorem mem_embedKeys_of_complete (complete : resource.Complete) {key : String} {field : Field}
    (stored : resource.field? key = some field) (embeds : field.embed?.isSome) :
    key ∈ resource.embedKeys := by
  rw [embedKeys, List.mem_filter, stored]
  exact ⟨complete key field stored, embeds⟩

theorem Discovered.embedsFromSchema (discovered : resource.Discovered policy declarations) :
    resource.EmbedsFromSchema := by
  cases discovered with
  | declared _ => exact embedsFromSchema_discover _
  | embedded _ _ => exact embedsFromSchema_discover _

theorem Discovered.complete (discovered : resource.Discovered policy declarations) :
    resource.Complete := by
  cases discovered with
  | declared _ => exact complete_discover _ _ _ _ _ _ _
  | embedded _ _ => exact complete_discover _ _ _ _ _ _ _

end Resource

namespace ResourceTree

/-- Whether the children of each node stand for the embeds of its fields, one for each, in
the order of the fields. -/
inductive Exact (policy : NamingPolicy) : ResourceTree → Prop where
  | node {root : Resource} {children : List ResourceTree} :
      List.Forall₂ (fun key child => child.root.StandsFor root policy key) root.embedKeys children →
      root.embedKeys.Nodup →
      (∀ key field, root.field? key = some field → field.embed?.isSome → key ∈ root.embedKeys) →
      (∀ child ∈ children, Exact policy child) →
      Exact policy (.node root children)

section Children

variable {root : Resource} {children : List ResourceTree}

theorem forall₂_standsFor
    (heads : children.map ResourceTree.root = root.embeds.map (root.embedded policy))
    (traced : root.EmbedsFromSchema) :
    List.Forall₂ (fun key child => child.root.StandsFor root policy key)
      root.embedKeys children := by
  have standing : List.Forall₂ (fun key child => child.StandsFor root policy key) root.embedKeys
      (children.map ResourceTree.root) := by
    rw [heads, List.forall₂_map_right_iff]
    exact root.forall₂_embedKeys_embeds.imp fun _ _ stored =>
      Resource.standsFor_embedded traced stored
  exact List.forall₂_map_right_iff.1 standing

theorem nodup_embedKeys
    (standing : List.Forall₂ (fun key child => child.root.StandsFor root policy key)
      root.embedKeys children)
    (distinct : ((children.map ResourceTree.root).map (·.name)).Nodup) : root.embedKeys.Nodup := by
  have named : root.embedKeys.map (root.name ++ "__" ++ ·) =
      (children.map ResourceTree.root).map (·.name) := by
    rw [List.map_map, ← List.forall₂_eq_eq_eq, List.forall₂_map_left_iff,
      List.forall₂_map_right_iff]
    exact standing.imp fun _ _ stands => stands.name.symm
  apply List.Nodup.of_map (root.name ++ "__" ++ ·)
  rw [named]
  exact distinct

end Children

/-- A tree that unfolds is exact, where no name is in it twice. -/
theorem Unfolds.exact {tree : ResourceTree} (unfolds : tree.Unfolds policy)
    (discovered : tree.root.Discovered policy declarations)
    (distinct : (tree.preorder.map (·.name)).Nodup) :
    tree.Exact policy := by
  induction unfolds with
  | @node root children heads _ inductionHypothesis =>
    -- A declared order of fields may repeat a key. Its embed would then be found
    -- twice, under one name.
    rw [preorder_node, List.map_cons, List.nodup_cons] at distinct
    have standing := forall₂_standsFor heads discovered.embedsFromSchema
    apply Exact.node standing
    · apply nodup_embedKeys standing
      exact distinct.2.sublist ((map_root_sublist children).map _)
    · intro key field
      exact Resource.mem_embedKeys_of_complete discovered.complete
    · intro child isChild
      apply inductionHypothesis child isChild
      · obtain ⟨embed, own, same⟩ := exists_embed_of_mem heads isChild
        exact same ▸ .embedded discovered own
      · have part : child.preorder.Sublist (children.flatMap preorder) :=
          List.sublist_flatten_of_mem (List.mem_map_of_mem isChild)
        exact distinct.2.sublist (part.map _)

end ResourceTree

/-! ### The order of the registry -/

namespace Registry

variable {backends : Backends} {registry registered : Registry} {declaration : ResourceDeclaration}

/-- Whether a tree grows from a declaration: discovery gives its root, and the descent into the
embeds of the root puts the nodes below it after what was found before. -/
structure GrowsFrom (tree : ResourceTree) (backends : Backends) (policy : NamingPolicy)
    (declaration : ResourceDeclaration) : Prop where
  discovered : discover backends policy declaration = .ok tree.root
  name : tree.root.name = declaration.name
  parent : tree.root.parent = none
  descends : ∀ found,
    Descends policy tree.root tree.root.embeds ⟨[tree.root.schema], found⟩ (.ok ())
    ⟨[tree.root.schema], found ++ tree.preorder.tail⟩

theorem exists_tree_of_family_eq_ok {found : List Resource}
    (isFamily : family backends policy declaration = .ok found) :
    ∃ tree, (GrowsFrom tree backends policy declaration ∧ tree.Unfolds policy) ∧
      tree.preorder = found := by
  obtain ⟨root, embedded, discovered, descended, same⟩ := family_eq_ok_iff.1 isFamily
  obtain ⟨tree, isRoot, unfolds, listed⟩ := Resource.exists_tree_of_synthesizeEmbeds_eq_ok descended
  obtain ⟨backend, schema, context, made⟩ := exists_of_discover_eq_ok discovered
  subst isRoot
  refine ⟨tree, ⟨?_, unfolds⟩, listed.trans same⟩
  constructor
  · exact discovered
  · rw [made]
    rfl
  · rw [made]
    rfl
  · intro found
    rw [listed]
    exact Descends.of_synthesize_eq_ok found descended

theorem exists_trees_of_families {families : List (List Resource)}
    (areFamilies : Families backends policy declarations families) :
    ∃ trees,
      List.Forall₂ (fun declaration tree => GrowsFrom tree backends policy declaration ∧
        tree.Unfolds policy)
        declarations trees ∧
      trees.flatMap ResourceTree.preorder = families.flatten := by
  obtain ⟨trees, grow, listed⟩ :=
    Outcome.forall₂_exists_iff.1
      (areFamilies.imp fun _ _ isFamily => exists_tree_of_family_eq_ok isFamily)
  have same : trees.map ResourceTree.preorder = families := by
    rwa [← List.forall₂_eq_eq_eq, List.forall₂_map_left_iff]
  exact ⟨trees, grow, congrArg List.flatten same⟩

theorem linkResource_eq_of_bare
    (same : registry.resources.map Resource.bare = registered.link.resources.map Resource.bare) :
    registry.linkResource = registered.linkResource := by
  have found (schema : SchemaName) : (registry.findBySchema? schema).map (·.name) =
      (registered.findBySchema? schema).map (·.name) := by
    have bares := congrArg (fun resources : List Resource =>
      (resources.find? fun resource => !resource.isEmbedded && resource.schema = schema).map
      (·.name)) same
    simp only [link, List.find?_map, Option.map_map] at bares
    exact bares
  funext resource
  simp only [linkResource, linkField, found]

/-- The resources of a registry that is built are the nodes of trees, linked and with
what is attached to them. -/
theorem exists_trees_of_build_eq_ok (built : build declarations backends policy = .ok registry) :
    ∃ (registered : Registry) (trees : List ResourceTree),
      List.Forall₂ (fun declaration tree => GrowsFrom tree backends policy declaration ∧
        tree.Unfolds policy)
        declarations trees ∧
      registered.resources = trees.flatMap ResourceTree.preorder ∧ registered.names.Nodup ∧
      (∀ resource ∈ registered.resources, resource.Discovered policy declarations) ∧
      registry.resources.map Resource.bare = registered.link.resources.map Resource.bare := by
  obtain ⟨registered, registering, attaching⟩ := Outcome.bind_eq_ok_iff.1 built
  have start : (names {}).Nodup := List.nodup_nil
  obtain ⟨families, areFamilies, listed, distinct⟩ := (registering_eq_ok_iff start).1 registering
  obtain ⟨trees, grow, same⟩ := exists_trees_of_families areFamilies
  have resources : registered.resources = trees.flatMap ResourceTree.preorder := by
    rw [same, listed, List.nil_append]
  exact ⟨registered, trees, grow, resources, distinct, discovered_of_registering registering,
    map_bare_of_attaching attaching⟩

/-- Resources are registered in the order of their declarations, each followed by what is embedded
in it in preorder, and are discovered like that up to the targets of associations. -/
theorem registration_of_build_eq_ok (built : build declarations backends policy = .ok registry) :
    ∃ trees : List ResourceTree,
      List.Forall₂ (fun declaration tree => GrowsFrom tree backends policy declaration)
        declarations trees ∧
      (∀ tree ∈ trees, tree.Exact policy) ∧
      registry.names = trees.flatMap (fun tree => tree.preorder.map (·.name)) ∧
      registry.resources.map Resource.bare =
        (trees.flatMap ResourceTree.preorder).map registry.linkResource := by
  obtain ⟨registered, trees, grow, resources, distinct, discovered, bares⟩ :=
    exists_trees_of_build_eq_ok built
  refine ⟨trees, grow.imp fun _ _ both => both.1, ?_, ?_, ?_⟩
  · intro tree member
    obtain ⟨_, _, _, unfolds⟩ := Outcome.exists_of_mem_of_forall₂ grow member
    have part : tree.preorder.Sublist registered.resources := by
      rw [resources]
      exact List.sublist_flatten_of_mem (List.mem_map_of_mem member)
    exact unfolds.exact (discovered _ (part.subset tree.root_mem_preorder))
      (distinct.sublist (part.map _))
  · rw [names_eq_of_bare bares, names, resources, List.map_flatMap]
  · rw [bares, linkResource_eq_of_bare bares, link, List.map_map, ← resources]
    apply List.map_congr_left
    intro resource isRegistered
    exact bare_linkResource (discovered resource isRegistered).bare

/-- Pages with notes and with a heading, which has an image. -/
def siteCatalog : SchemaCatalog where
  schemas := [
    { name := ⟨"Page"⟩
      fields := [{ name := "title", nativeType := "string" }]
      associations := [
        { name := "heading", kind := .embedOne, destination := ⟨"Heading"⟩ },
        { name := "notes", kind := .embedMany, destination := ⟨"Note"⟩ }] },
    { name := ⟨"Heading"⟩
      fields := []
      associations := [{ name := "image", kind := .embedOne, destination := ⟨"Image"⟩ }] },
    { name := ⟨"Image"⟩, fields := [{ name := "url", nativeType := "string" }] },
    { name := ⟨"Note"⟩, fields := [{ name := "text", nativeType := "string" }] }]

def siteBackends : Backends where
  simple := some siteCatalog

def siteDeclaration : ResourceDeclaration :=
  { ResourceDeclaration.simple "page" "Page" none with
    fields := [{ name := "notes" }]
    routes := { only := some [] } }

def sitePage : Resource :=
  .discover "page" (.simple siteCatalog) ⟨"Page"⟩ none (some siteDeclaration) {} none

theorem synthesizeEmbeds_sitePage :
    sitePage.synthesizeEmbeds {} =
      .ok [sitePage.embedded {} ⟨"page", "page__notes", ⟨"Note"⟩⟩,
        sitePage.embedded {} ⟨"page", "page__heading", ⟨"Heading"⟩⟩,
        (sitePage.embedded {} ⟨"page", "page__heading", ⟨"Heading"⟩⟩).embedded {}
          ⟨"page__heading", "page__heading__image", ⟨"Image"⟩⟩] := by
  generalize notesIs : sitePage.embedded {} ⟨"page", "page__notes", ⟨"Note"⟩⟩ = notes
  generalize headingIs : sitePage.embedded {} ⟨"page", "page__heading", ⟨"Heading"⟩⟩ = heading
  generalize imageIs :
    heading.embedded {} ⟨"page__heading", "page__heading__image", ⟨"Image"⟩⟩ = image
  have pageEmbeds : sitePage.embeds =
      [⟨"page", "page__notes", ⟨"Note"⟩⟩, ⟨"page", "page__heading", ⟨"Heading"⟩⟩] := by
        decide +kernel
  have notesEmbeds : notes.embeds = [] := by
    subst notesIs
    decide +kernel
  have headingEmbeds : heading.embeds = [⟨"page__heading", "page__heading__image", ⟨"Image"⟩⟩] := by
    subst headingIs
    decide +kernel
  have imageEmbeds : image.embeds = [] := by
    subst imageIs headingIs
    decide +kernel
  have schema : sitePage.schema = ⟨"Page"⟩ := rfl
  rw [Resource.synthesizeEmbeds, pageEmbeds, schema, Resource.synthesize_cons_eq_ok_iff, notesIs,
    notesEmbeds]
  refine ⟨by decide, [], [heading, image], Resource.synthesize_nil, ?_, rfl⟩
  rw [Resource.synthesize_cons_eq_ok_iff, headingIs, headingEmbeds]
  refine ⟨by decide, [image], [], ?_, Resource.synthesize_nil, rfl⟩
  rw [Resource.synthesize_cons_eq_ok_iff, imageIs, imageEmbeds]
  exact ⟨by decide, [], [], Resource.synthesize_nil, Resource.synthesize_nil, rfl⟩

theorem names_build_site : (build [siteDeclaration] siteBackends {}).toOption.map (·.names) =
    some ["page", "page__notes", "page__heading", "page__heading__image"] := by
  have registered : register siteBackends {} {} siteDeclaration = _ :=
    AppDeclaration.register_eq_insertAll {} rfl synthesizeEmbeds_sitePage
  rw [build]
  simp only [List.foldlM_cons, List.foldlM_nil, registered]
  decide +kernel

theorem registration_site : ∃ registry, build [siteDeclaration] siteBackends {} = .ok registry ∧
    registry.names = ["page", "page__notes", "page__heading", "page__heading__image"] ∧
    ∃ trees : List ResourceTree,
      List.Forall₂ (fun declaration tree => GrowsFrom tree siteBackends {} declaration)
        [siteDeclaration] trees ∧
      (∀ tree ∈ trees, tree.Exact {}) ∧
      registry.names = trees.flatMap (fun tree => tree.preorder.map (·.name)) ∧
      registry.resources.map Resource.bare =
        (trees.flatMap ResourceTree.preorder).map registry.linkResource := by
  obtain ⟨registry, built, names⟩ := Outcome.exists_ok_of_toOption_map_eq_some names_build_site
  exact ⟨registry, built, names, registration_of_build_eq_ok built⟩

end Registry

end Backoffice
