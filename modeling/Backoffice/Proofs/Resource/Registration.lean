import Backoffice.Proofs.Resource.EmbedFamily
import Backoffice.Proofs.Table
import Backoffice.Resource.Registry
import Mathlib.Data.List.Nodup

/-!
What a registry of declared resources holds once it is built.

Registering keeps the registry sound: no name twice, every embed with its resource, and every
resource after the one that it is part of. Linking associations and attaching operations change
neither the names nor the embeds.
-/

namespace Backoffice

namespace Resource

def bare (resource : Resource) : Resource :=
  { resource with operations := [], routes := [] }

theorem bare_eq_of_withOperations_eq_ok {resource result : Resource}
    {declaration : ResourceDeclaration}
    (succeeded : resource.withOperations declaration = .ok result) :
    result.bare = resource.bare := by
  obtain ⟨_, _, same⟩ := Outcome.bind_eq_ok_iff.1 succeeded
  cases same
  rfl

end Resource

namespace Registry

/-- What every step of registering keeps. -/
structure Sound (registry : Registry) : Prop where
  nodup : registry.names.Nodup
  parentsFirst : Resource.ParentsFirst [] registry.resources
  closed : ∀ resource ∈ registry.resources, ∀ embed ∈ resource.embeds,
    Resource.Listed registry.resources embed.resource
  complete : ∀ resource ∈ registry.resources, resource.Complete

variable {registry after : Registry}

/-! ### Registering -/

theorem insert_eq_ok_iff {resource : Resource} :
    registry.insert resource = .ok after ↔
      resource.name ∉ registry.names ∧ ⟨registry.resources ++ [resource]⟩ = after := by
  by_cases known : resource.name ∈ registry.names
  · simp [insert, contains, known]
  · simp [insert, contains, known]

/-- Resources are registered in their order, and no name is registered twice. -/
theorem resources_of_insertAll_eq_ok {resources : List Resource}
    (succeeded : registry.insertAll resources = .ok after) (nodup : registry.names.Nodup) :
    after.resources = registry.resources ++ resources ∧ after.names.Nodup := by
  induction resources generalizing registry with
  | nil =>
    cases succeeded
    exact ⟨(List.append_nil _).symm, nodup⟩
  | cons resource rest inductionHypothesis =>
    rw [insertAll, List.foldlM_cons, Outcome.bind_eq_ok_iff] at succeeded
    obtain ⟨next, inserted, succeeded⟩ := succeeded
    obtain ⟨unknown, same⟩ := insert_eq_ok_iff.1 inserted
    subst same
    have longer : names ⟨registry.resources ++ [resource]⟩ = registry.names ++ [resource.name] := by
      simp [names]
    have distinct : (registry.names ++ [resource.name]).Nodup := by
      simpa using List.Nodup.concat unknown nodup
    obtain ⟨listed, others⟩ := inductionHypothesis succeeded (longer ▸ distinct)
    exact ⟨by simpa using listed, others⟩

theorem exists_of_discover_eq_ok {backends : Backends} {policy : NamingPolicy}
    {declaration : ResourceDeclaration} {resource : Resource}
    (succeeded : discover backends policy declaration = .ok resource) :
    ∃ backend schema context, resource =
      .discover declaration.name backend schema context (some declaration) policy none := by
  obtain ⟨⟨kind, schema, context⟩, _, succeeded⟩ := Outcome.bind_eq_ok_iff.1 succeeded
  dsimp only at succeeded
  split at succeeded
  · cases succeeded
  · next backend _ =>
    cases succeeded
    exact ⟨backend, schema, context, rfl⟩

theorem Sound.register {backends : Backends} {policy : NamingPolicy}
    {declaration : ResourceDeclaration} (sound : registry.Sound)
    (succeeded : register backends policy registry declaration = .ok after) : after.Sound := by
  obtain ⟨resource, discovered, succeeded⟩ := Outcome.bind_eq_ok_iff.1 succeeded
  obtain ⟨embedded, descended, inserted⟩ := Outcome.bind_eq_ok_iff.1 succeeded
  obtain ⟨listed, nodup⟩ := resources_of_insertAll_eq_ok inserted sound.nodup
  obtain ⟨backend, schema, context, same⟩ := exists_of_discover_eq_ok discovered
  have family : resource.Family resource.embeds embedded :=
    Resource.family_of_synthesize_eq_ok embedded descended fun _ member => member
  have root : resource.parent = none := same ▸ rfl
  have complete : resource.Complete := same ▸ Resource.complete_discover _ _ _ _ _ _ _
  have old : registry.resources ⊆ after.resources :=
    listed ▸ fun _ member => List.mem_append_left _ member
  have new : embedded ⊆ after.resources :=
    listed ▸ fun _ member => List.mem_append_right _ (List.mem_cons_of_mem _ member)
  constructor
  · exact nodup
  · rw [listed, Resource.parentsFirst_append_iff]
    exact ⟨sound.parentsFirst, .inl root, family.parentsFirst.mono (by simp)⟩
  · intro other member embed embeds
    rw [listed, List.mem_append, List.mem_cons] at member
    rcases member with registered | root | found
    · exact (sound.closed other registered embed embeds).mono old
    · exact (family.heads embed (root ▸ embeds)).mono new
    · exact (family.closed other found embed embeds).mono new
  · rw [listed, List.forall_mem_append, List.forall_mem_cons]
    exact ⟨sound.complete, complete, family.complete⟩

/-! ### Linking and attaching -/

theorem embed?_linkField (registry : Registry) (field : Field) :
    (registry.linkField field).embed? = field.embed? := by
  rw [linkField, Field.embed?, Field.embed?]
  cases same : field.data with
  | association data => rfl
  | _ => simp [same]

theorem field?_linkResource (registry : Registry) (resource : Resource) (key : String) :
    (registry.linkResource resource).field? key =
      (resource.field? key).map registry.linkField :=
  Table.get?_mapValues _ _ _

theorem embeds_linkResource (registry : Registry) (resource : Resource) :
    (registry.linkResource resource).embeds = resource.embeds := by
  rw [Resource.embeds, Resource.orderedFields, Resource.embeds, Resource.orderedFields,
    List.filterMap_filterMap, List.filterMap_filterMap]
  congr 1
  funext key
  rw [field?_linkResource]
  cases resource.field? key with
  | none => rfl
  | some field => exact embed?_linkField registry field

theorem contains_or_embeds_of_linkField {field : Field} {target : String}
    (leads : (registry.linkField field).relatedResource? = some target) :
    registry.contains target = true ∨
      ∃ embed, field.embed? = some embed ∧ embed.resource = target := by
  rw [linkField, Field.relatedResource?] at leads
  cases data : field.data with
  | none => simp [data, FieldData.relatedResource?] at leads
  | select select => simp [data, FieldData.relatedResource?] at leads
  | embed embed =>
    refine .inr ⟨embed, ?_, ?_⟩
    · rw [Field.embed?, data]
      rfl
    · simpa [data, FieldData.relatedResource?] using leads
  | association association =>
    rw [data] at leads
    obtain ⟨resource, found, same⟩ := Option.map_eq_some_iff.1 leads
    exact .inl ((contains_iff registry target).2 ⟨resource, List.mem_of_find?_eq_some found, same⟩)

theorem map_bare_attach {declaration : ResourceDeclaration}
    (succeeded : registry.attach declaration = .ok after) :
    after.resources.map Resource.bare = registry.resources.map Resource.bare := by
  obtain ⟨resources, attached, same⟩ := Outcome.bind_eq_ok_iff.1 succeeded
  cases same
  refine Outcome.map_eq_of_mapM_eq_ok ?_ attached
  intro resource result stepped
  split at stepped
  · exact Resource.bare_eq_of_withOperations_eq_ok stepped
  · cases stepped
    rfl

theorem sound_of_registering {declarations : List ResourceDeclaration} {backends : Backends}
    {policy : NamingPolicy}
    (registering : declarations.foldlM (Registry.register backends policy) {} = .ok registry) :
    registry.Sound := by
  refine Outcome.foldlM_keeps Sound ?_ ?_ registering
  · exact fun _ _ _ _ sound stepped => sound.register stepped
  · exact ⟨List.nodup_nil, trivial, nofun, nofun⟩

theorem map_bare_of_attaching {declarations : List ResourceDeclaration}
    (attaching : declarations.foldlM attach registry = .ok after) :
    after.resources.map Resource.bare = registry.resources.map Resource.bare := by
  refine Outcome.foldlM_keeps
    (fun current => current.resources.map Resource.bare = registry.resources.map Resource.bare)
    ?_ rfl attaching
  exact fun _ _ _ _ same stepped => (map_bare_attach stepped).trans same

/-- A registry that is built comes from a sound one: its associations are linked, and operations are
attached. -/
theorem exists_sound_of_build_eq_ok {declarations : List ResourceDeclaration} {backends : Backends}
    {policy : NamingPolicy} (succeeded : build declarations backends policy = .ok registry) :
    ∃ registered : Registry, registered.Sound ∧
      registry.resources.map Resource.bare = registered.link.resources.map Resource.bare := by
  obtain ⟨registered, registering, attaching⟩ := Outcome.bind_eq_ok_iff.1 succeeded
  exact ⟨registered, sound_of_registering registering, map_bare_of_attaching attaching⟩

/-! ### Registries without dangling names -/

/-- Where the resource that another one is part of stands, and the field that embeds it. -/
def ParentBefore (registry : Registry) (child : Resource) (name : String) : Prop :=
  ∃ before after parent, registry.names = before ++ child.name :: after ∧ name ∈ before ∧
    registry.get? name = some parent ∧
      ∃ key field embed, parent.field? key = some field ∧ field.embed? = some embed ∧
        embed.resource = child.name

/-- A registry in which every name that a resource refers to is registered. -/
structure Closed (registry : Registry) : Prop where
  /-- Each name stands once in the order. -/
  nodup : registry.names.Nodup
  /-- The names in the order are those under which there is a resource. -/
  names_iff : ∀ name, name ∈ registry.names ↔ (registry.get? name).isSome
  /-- Each resource is found under its own name. -/
  found : ∀ resource ∈ registry.resources, registry.get? resource.name = some resource
  /-- What a field leads to is registered. -/
  related : ∀ resource ∈ registry.resources, ∀ key field target,
    resource.field? key = some field → field.relatedResource? = some target →
      registry.contains target = true
  /-- What a resource is part of is registered before it, and embeds it. -/
  parents : ∀ resource ∈ registry.resources, ∀ name, resource.parent = some name →
    registry.ParentBefore resource name

theorem get?_eq_some_of_mem (nodup : registry.names.Nodup) {resource : Resource}
    (member : resource ∈ registry.resources) : registry.get? resource.name = some resource :=
  find?_key_eq_some nodup member

theorem mem_names_iff_get?_isSome (registry : Registry) (name : String) :
    name ∈ registry.names ↔ (registry.get? name).isSome := by
  rw [names, List.mem_map, get?, List.find?_isSome]
  simp only [decide_eq_true_eq]

section Built

variable {registered : Registry}
  (same : registry.resources.map Resource.bare = registered.link.resources.map Resource.bare)

include same

theorem names_eq_of_bare : registry.names = registered.names := by
  have names := congrArg (List.map Resource.name) same
  rw [List.map_map, List.map_map] at names
  exact names.trans (names_link registered)

theorem exists_registered_of_mem {resource : Resource} (member : resource ∈ registry.resources) :
    ∃ original ∈ registered.resources,
      resource.bare = (registered.linkResource original).bare := by
  have listed : resource.bare ∈ registered.link.resources.map Resource.bare :=
    same ▸ List.mem_map_of_mem member
  obtain ⟨linked, inLink, bare⟩ := List.mem_map.1 listed
  obtain ⟨original, registered, link⟩ := List.mem_map.1 inLink
  exact ⟨original, registered, link ▸ bare.symm⟩

theorem exists_built_of_mem {original : Resource} (member : original ∈ registered.resources) :
    ∃ resource ∈ registry.resources,
      resource.bare = (registered.linkResource original).bare := by
  have listed : (registered.linkResource original).bare ∈ registry.resources.map Resource.bare :=
    same ▸ List.mem_map_of_mem (List.mem_map_of_mem member)
  exact List.mem_map.1 listed

theorem contains_eq_of_bare (name : String) :
    registry.contains name = registered.contains name := by
  rw [contains, contains, names_eq_of_bare same]

theorem related_of_sound (sound : registered.Sound) {resource : Resource}
    (member : resource ∈ registry.resources) {key : String} {field : Field} {target : String}
    (stored : resource.field? key = some field) (leads : field.relatedResource? = some target) :
    registry.contains target = true := by
  obtain ⟨original, isRegistered, bare⟩ := exists_registered_of_mem same member
  have linked : resource.field? key = (registered.linkResource original).field? key :=
    congrArg (·.field? key) bare
  rw [linked, field?_linkResource, Option.map_eq_some_iff] at stored
  obtain ⟨plain, found, link⟩ := stored
  subst link
  rw [contains_eq_of_bare same]
  rcases contains_or_embeds_of_linkField leads with known | ⟨embed, embeds, resourceOf⟩
  · exact known
  · have own : embed ∈ original.embeds :=
      Resource.mem_embeds_of_complete (sound.complete original isRegistered) found embeds
    exact (contains_iff registered target).2
      (resourceOf ▸ sound.closed original isRegistered embed own)

theorem parentBefore_of_sound (sound : registered.Sound) {child : Resource}
    (member : child ∈ registry.resources) {name : String} (embedded : child.parent = some name) :
    registry.ParentBefore child name := by
  obtain ⟨original, isRegistered, bare⟩ := exists_registered_of_mem same member
  have sameName : child.name = original.name := congrArg (·.name) bare
  have sameParent : child.parent = original.parent := congrArg (·.parent) bare
  obtain ⟨before, after, owner, split, earlier, part⟩ :=
    sound.parentsFirst.exists_parent isRegistered (sameParent ▸ embedded)
  have ownerName : owner.name = name := by
    have named := part.named
    rw [← sameParent, embedded] at named
    exact (Option.some.inj named).symm
  have ownerRegistered : owner ∈ registered.resources :=
    split ▸ List.mem_append_left _ earlier
  obtain ⟨parent, isBuilt, bareParent⟩ := exists_built_of_mem same ownerRegistered
  have parentName : parent.name = name := (congrArg (·.name) bareParent).trans ownerName
  have nodup : registry.names.Nodup := names_eq_of_bare same ▸ sound.nodup
  refine ⟨before.map (·.name), after.map (·.name), parent, ?_, ?_, ?_, ?_⟩
  · rw [names_eq_of_bare same, names, split, List.map_append, List.map_cons, sameName]
  · exact ownerName ▸ List.mem_map_of_mem earlier
  · exact parentName ▸ get?_eq_some_of_mem nodup isBuilt
  · obtain ⟨embed, own, resourceOf⟩ := part.embedded
    have parentEmbeds : parent.embeds = owner.embeds :=
      (congrArg (·.embeds) bareParent).trans (embeds_linkResource registered owner)
    rw [← parentEmbeds] at own
    obtain ⟨key, field, stored, embeds⟩ := Resource.exists_field_of_mem_embeds own
    exact ⟨key, field, embed, stored, embeds, resourceOf.trans sameName.symm⟩

end Built

theorem closed_of_build_eq_ok {declarations : List ResourceDeclaration} {backends : Backends}
    {policy : NamingPolicy} (succeeded : build declarations backends policy = .ok registry) :
    registry.Closed := by
  obtain ⟨registered, sound, same⟩ := exists_sound_of_build_eq_ok succeeded
  have nodup : registry.names.Nodup := names_eq_of_bare same ▸ sound.nodup
  exact {
    nodup
    names_iff := mem_names_iff_get?_isSome registry
    found := fun _ member => get?_eq_some_of_mem nodup member
    related := fun _ member _ _ _ stored leads => related_of_sound same sound member stored leads
    parents := fun _ member _ embedded => parentBefore_of_sound same sound member embedded }

end Registry

end Backoffice
