import Backoffice.Proofs.Resource.Flags

/-!
Linking in two passes: one over all fields, in any order, that collects where associations lead, and
one that stores what was found under the keys of the fields.

Every field has a key of its own, so nothing is stored twice with different results, and in whatever
order the fields come, the result is that of linking each field in its place.
-/

namespace Backoffice

/-- Where the association of a field of a resource is to lead. -/
structure Link where
  resource : String
  key : String
  target : Option String

namespace Field

def leadTo (field : Field) (target : Option String) : Field :=
  match field.data with
  | .association data => { field with data := .association { data with resource := target } }
  | _ => field

/-- The field after a link has been stored, if it is the field of a key of a
resource that the link is for. -/
def store (resource key : String) (field : Field) (link : Link) : Field :=
  if link.resource = resource ∧ link.key = key then field.leadTo link.target else field

end Field

namespace Registry

def collectLinks (registry : Registry) (listed : Resource → List (String × Field)) : List Link :=
  registry.resources.flatMap fun resource =>
    (listed resource).filterMap fun (_, field) =>
      field.association?.map fun data =>
        { resource := resource.name
          key := field.key
          target := (registry.findBySchema? data.related).map (·.name) }

def store (registry : Registry) (link : Link) : Registry where
  resources := registry.resources.map fun resource =>
    { resource with
      fields := resource.fields.map fun (key, field) => (key, field.store resource.name key link) }

/-- All associations linked, with the fields of each resource listed in some order. -/
def linkListed (registry : Registry) (listed : Resource → List (String × Field)) : Registry :=
  (registry.collectLinks listed).foldl store registry

end Registry

/-! ### Storing -/

namespace Field

variable {field : Field} {resource key : String} {target : Option String} {links : List Link}

theorem leadTo_leadTo (other : Option String) :
    (field.leadTo other).leadTo target = field.leadTo target := by
  rw [leadTo.eq_1 field other, leadTo.eq_1 field target]
  cases data : field.data with
  | association association => rfl
  | _ => simp [leadTo, data]

theorem leadTo_of_association?_eq_none (none : field.association? = none) :
    field.leadTo target = field := by
  rw [association?] at none
  rw [leadTo]
  cases data : field.data with
  | association association =>
    rw [data] at none
    cases none
  | _ => rfl

theorem linkField_eq (registry : Registry) (field : Field) :
    registry.linkField field =
      match field.association? with
      | some data => field.leadTo ((registry.findBySchema? data.related).map (·.name))
      | none => field := by
  rw [association?, Registry.linkField]
  cases data : field.data with
  | association association => simp [FieldData.association?, leadTo, data]
  | _ => rfl

theorem foldl_store_of_association?_eq_none (none : field.association? = none) :
    links.foldl (store resource key) field = field := by
  induction links with
  | nil => rfl
  | cons link rest inductionHypothesis =>
    have same : field.store resource key link = field := by
      rw [store, leadTo_of_association?_eq_none none, ite_self]
    rw [List.foldl_cons, same]
    exact inductionHypothesis

/-- Once a link is stored, others to the same target make no difference. -/
theorem foldl_store_leadTo
    (agree : ∀ link ∈ links, link.resource = resource → link.key = key → link.target = target) :
    links.foldl (store resource key) (field.leadTo target) = field.leadTo target := by
  induction links with
  | nil => rfl
  | cons link rest inductionHypothesis =>
    rw [List.forall_mem_cons] at agree
    have same : (field.leadTo target).store resource key link = field.leadTo target := by
      rw [store]
      split
      · next own => rw [agree.1 own.1 own.2, leadTo_leadTo]
      · rfl
    rw [List.foldl_cons, same]
    exact inductionHypothesis agree.2

theorem foldl_store_eq_leadTo
    (agree : ∀ link ∈ links, link.resource = resource → link.key = key → link.target = target)
    (stored : ∃ link ∈ links, link.resource = resource ∧ link.key = key) :
    links.foldl (store resource key) field = field.leadTo target := by
  induction links with
  | nil =>
    obtain ⟨_, member, _⟩ := stored
    cases member
  | cons link rest inductionHypothesis =>
    rw [List.forall_mem_cons] at agree
    rw [List.foldl_cons, store]
    split
    · next own =>
      rw [agree.1 own.1 own.2]
      exact foldl_store_leadTo agree.2
    · next other =>
      obtain ⟨found, member, own⟩ := stored
      rcases List.mem_cons.1 member with same | later
      · exact absurd (same ▸ own) other
      · exact inductionHypothesis agree.2 ⟨found, later, own⟩

end Field

/-! ### Collecting -/

namespace Resource

structure Tabled (resource : Resource) : Prop where
  ascending : resource.fields.Ascending
  keyed : ∀ entry ∈ resource.fields, entry.2.key = entry.1

theorem ascending_discover (name : String) (backend : Backend) (schema : SchemaName)
    (context : Option ContextName) (declaration : Option ResourceDeclaration)
    (policy : NamingPolicy) (parent : Option String) :
    (discover name backend schema context declaration policy parent).fields.Ascending := by
  have found :
      (Discovery.run { owner := name, schema, declaration, policy } (backend.attributes schema)
      (backend.relationships schema)).fields.Ascending := by
    apply Discovery.run_keeps (motive := fun found => found.fields.Ascending)
    · exact List.Pairwise.nil
    · exact fun _ _ _ ascending => ascending.insert _ _
    · exact fun _ _ _ ascending => ascending.insert _ _
  apply List.foldlRecOn (motive := Table.Ascending)
  · exact found
  · intro fields ascending declared _
    rw [Discovery.addDeclared]
    split
    · exact ascending
    · exact ascending.insert _ _

theorem tabled_discover (name : String) (backend : Backend) (schema : SchemaName)
    (context : Option ContextName) (declaration : Option ResourceDeclaration)
    (policy : NamingPolicy) (parent : Option String) :
    (discover name backend schema context declaration policy parent).Tabled := by
  have ascending := ascending_discover name backend schema context declaration policy parent
  refine ⟨ascending, ?_⟩
  rintro ⟨key, field⟩ member
  exact (flaggedBy_discover declaration key field (ascending.get?_eq_some member)).key

theorem Discovered.tabled {policy : NamingPolicy} {declarations : List ResourceDeclaration}
    {resource : Resource} (discovered : resource.Discovered policy declarations) :
    resource.Tabled := by
  cases discovered with
  | declared _ => exact tabled_discover ..
  | embedded _ _ => exact tabled_discover ..

end Resource

namespace Registry

variable {registry : Registry} {listed : Resource → List (String × Field)}

theorem foldl_store (links : List Link) :
    links.foldl store registry =
      { resources := registry.resources.map fun resource =>
          { resource with
            fields := resource.fields.map fun (key, field) =>
              (key, links.foldl (Field.store resource.name key) field) } } := by
  induction links generalizing registry with
  | nil => simp
  | cons link rest inductionHypothesis =>
    rw [List.foldl_cons, inductionHypothesis]
    simp only [store, List.map_map, Function.comp_def, List.foldl_cons]

theorem mem_collectLinks_iff {link : Link} :
    link ∈ registry.collectLinks listed ↔
      ∃ resource ∈ registry.resources, ∃ entry ∈ listed resource, ∃ data,
      entry.2.association? = some data ∧
        ⟨resource.name, entry.2.key, (registry.findBySchema? data.related).map (·.name)⟩ =
          link := by
  simp only [collectLinks, List.mem_flatMap, List.mem_filterMap, Option.map_eq_some_iff]

section Listed

variable (distinct : registry.names.Nodup)
  (tabled : ∀ resource ∈ registry.resources, resource.Tabled)
  (complete : ∀ resource ∈ registry.resources, (listed resource).Perm resource.fields)

include distinct tabled complete

/-- The links for a field are those that its own association has. -/
theorem exists_association_of_mem_collectLinks {resource : Resource}
    (member : resource ∈ registry.resources) {key : String} {field : Field}
    (stored : (key, field) ∈ resource.fields) {link : Link}
    (collected : link ∈ registry.collectLinks listed) (own : link.resource = resource.name)
    (ownKey : link.key = key) : ∃ data, field.association? = some data ∧
      link.target = (registry.findBySchema? data.related).map (·.name) := by
  obtain ⟨source, isSource, entry, isListed, data, found, same⟩ := mem_collectLinks_iff.1 collected
  subst same
  -- No two resources have one name, and no two fields of one have a key, so the link is
  -- that of the field itself.
  have equal : source = resource := List.inj_on_of_nodup_map distinct isSource member own
  subst equal
  have inTable : entry ∈ source.fields := (complete source isSource).mem_iff.1 isListed
  have keyed : entry.1 = key := ((tabled source isSource).keyed entry inTable).symm.trans ownKey
  have equalEntry : entry = (key, field) :=
    List.inj_on_of_nodup_map (tabled source isSource).ascending.nodup inTable stored keyed
  subst equalEntry
  exact ⟨data, found, rfl⟩

/-- Linking in two passes links every field in its place, in whatever order
the fields are listed. -/
theorem linkListed_eq_link : registry.linkListed listed = registry.link := by
  rw [linkListed, foldl_store, link]
  congr 1
  refine List.map_congr_left ?_
  intro resource member
  rw [linkResource]
  congr 1
  refine List.map_congr_left ?_
  rintro ⟨key, field⟩ stored
  refine congrArg (Prod.mk key) ?_
  rw [Field.linkField_eq]
  cases found : field.association? with
  | none => exact Field.foldl_store_of_association?_eq_none found
  | some data =>
    apply Field.foldl_store_eq_leadTo
    · intro link collected own ownKey
      obtain ⟨other, foundOther, target⟩ :=
        exists_association_of_mem_collectLinks distinct tabled complete member stored
          collected own ownKey
      rw [found] at foundOther
      cases foundOther
      exact target
    · have isListed : (key, field) ∈ listed resource := (complete resource member).mem_iff.2 stored
      have keyed : field.key = key := (tabled resource member).keyed (key, field) stored
      exact ⟨_, mem_collectLinks_iff.2 ⟨resource, member, _, isListed, data, found, rfl⟩,
        rfl, keyed⟩

end Listed

end Registry

end Backoffice
