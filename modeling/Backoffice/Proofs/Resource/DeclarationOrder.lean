import Backoffice.Proofs.Closedness
import Backoffice.Proofs.Resource.Families
import Mathlib.Data.List.Perm.Basic

/-!
Declarations in another order: where no two of them are of the same schema, the registry that is
built of them has the same resources, in another order, or none is built in either order.

Each declaration has its family on its own, an association leads to the only root of its schema, and
of the declarations only its own one attaches anything to a resource.
-/

namespace Backoffice

def ResourceDeclaration.schemaName? (declaration : ResourceDeclaration) : Option SchemaName :=
  declaration.backend.toOption.map fun (_, schema, _) => schema

namespace Resource

variable {declarations others : List ResourceDeclaration} {resource : Resource}

/-- What declarations with different names attach to a resource does not depend on their order. -/
theorem attachAll_eq_of_perm (perm : declarations.Perm others)
    (distinct : (declarations.map (·.name)).Nodup) :
    declarations.foldlM attachOwn resource = others.foldlM attachOwn resource := by
  have distinctToo : (others.map (·.name)).Nodup := (perm.map _).nodup_iff.1 distinct
  by_cases declared : ∃ declaration ∈ declarations, resource.name = declaration.name
  · obtain ⟨declaration, member, named⟩ := declared
    rw [attachAll_eq_withOperations distinct member named,
      attachAll_eq_withOperations distinctToo (perm.mem_iff.1 member) named]
  · have undeclared : ∀ declaration ∈ declarations, resource.name ≠ declaration.name :=
      fun declaration member named => declared ⟨declaration, member, named⟩
    rw [attachAll_undeclared undeclared,
      attachAll_undeclared fun declaration member => undeclared declaration (perm.mem_iff.2 member)]

end Resource

namespace Registry

variable {backends : Backends} {policy : NamingPolicy}
  {declarations others : List ResourceDeclaration} {declaration : ResourceDeclaration}
  {registry other : Registry}

/-! ### Linking -/

theorem schemaName?_of_discover_eq_ok {root : Resource}
    (discovered : discover backends policy declaration = .ok root) :
    declaration.schemaName? = some root.schema := by
  obtain ⟨⟨kind, schema, context⟩, asked, discovered⟩ := Outcome.bind_eq_ok_iff.1 discovered
  dsimp only at discovered
  split at discovered
  · cases discovered
  · cases discovered
    rw [ResourceDeclaration.schemaName?, asked]
    rfl

/-- Of the resources that are found for a declaration only its own one is part of no other. -/
theorem filter_family_eq_ok {found : List Resource}
    (isFamily : family backends policy declaration = .ok found) :
    ∃ root, discover backends policy declaration = .ok root ∧
      found.filter (fun resource => !resource.isEmbedded) = [root] := by
  obtain ⟨root, embedded, discovered, descended, same⟩ := family_eq_ok_iff.1 isFamily
  obtain ⟨backend, schema, context, made⟩ := exists_of_discover_eq_ok discovered
  have head : root.Discovered policy [declaration] :=
    made ▸ .declared (List.mem_singleton_self declaration)
  have parts :=
    Resource.discovered_of_synthesize_eq_ok embedded descended head fun _ member => member
  have noRoots := filter_roots_eq_nil fun resource member => (parts resource member).1
  have isRoot : (!root.isEmbedded) = true := by
    rw [made]
    rfl
  refine ⟨root, discovered, ?_⟩
  rw [← same, List.filter_cons, if_pos isRoot, noRoots]

theorem forall₂_roots_of_families {families : List (List Resource)}
    (areFamilies : Families backends policy declarations families) :
    List.Forall₂ (fun declaration root => declaration.schemaName? = some root.schema ∧
      root.name = declaration.name)
      declarations (roots ⟨families.flatten⟩) := by
  induction areFamilies with
  | nil => exact .nil
  | @cons declaration found declarations families isFamily _ inductionHypothesis =>
    obtain ⟨root, discovered, onlyRoot⟩ := filter_family_eq_ok isFamily
    obtain ⟨backend, schema, context, made⟩ := exists_of_discover_eq_ok discovered
    have split : roots ⟨(found :: families).flatten⟩ = root :: roots ⟨families.flatten⟩ := by
      rw [roots, List.flatten_cons, List.filter_append, onlyRoot]
      rfl
    rw [split]
    exact .cons ⟨schemaName?_of_discover_eq_ok discovered, made ▸ rfl⟩ inductionHypothesis

theorem map_schema_roots_of_families {families : List (List Resource)}
    (areFamilies : Families backends policy declarations families) :
    (roots ⟨families.flatten⟩).map (·.schema) = declarations.filterMap (·.schemaName?) := by
  have stand := forall₂_roots_of_families areFamilies
  clear areFamilies
  generalize roots ⟨families.flatten⟩ = roots at stand
  induction stand with
  | nil => rfl
  | cons own _ inductionHypothesis =>
    rw [List.map_cons, List.filterMap_cons_some own.1, inductionHypothesis]

theorem findBySchema?_eq_find?_roots (registry : Registry) (schema : SchemaName) :
    registry.findBySchema? schema = registry.roots.find? (·.schema = schema) := by
  rw [findBySchema?, roots, List.find?_filter]
  simp only [Bool.decide_and, Bool.decide_eq_true]

theorem findBySchema?_eq_of_perm (perm : registry.resources.Perm other.resources)
    (distinct : (registry.roots.map (·.schema)).Nodup) (schema : SchemaName) :
    registry.findBySchema? schema = other.findBySchema? schema := by
  rw [findBySchema?_eq_find?_roots, findBySchema?_eq_find?_roots]
  exact find?_key_eq_of_perm (perm.filter _) distinct schema

theorem linkResource_eq_of_perm (perm : registry.resources.Perm other.resources)
    (distinct : (registry.roots.map (·.schema)).Nodup) :
    registry.linkResource = other.linkResource := by
  funext resource
  simp only [linkResource, linkField, findBySchema?_eq_of_perm perm distinct]

/-! ### Building -/

/-- What is built of some declarations is built of them in another order, its resources
being in another order. -/
theorem exists_build_of_perm (perm : declarations.Perm others)
    (distinct : (declarations.filterMap (·.schemaName?)).Nodup)
    (built : build declarations backends policy = .ok registry) :
    ∃ other, build others backends policy = .ok other ∧
      other.resources.Perm registry.resources := by
  obtain ⟨registered, ⟨families, areFamilies, listed⟩, nodup, attached⟩ := build_eq_ok_iff.1 built
  -- Each declaration brings its family along, so the same names are registered.
  obtain ⟨otherFamilies, areFamiliesToo, permFamilies⟩ :=
    List.perm_comp_forall₂ perm.symm areFamilies
  have permRegistered : (otherFamilies.flatten).Perm registered.resources := by
    rw [listed]
    exact permFamilies.flatten
  have nodupToo : (names ⟨otherFamilies.flatten⟩).Nodup := (permRegistered.map _).nodup_iff.2 nodup
  -- A schema has one root at most, so the first root of it is the same.
  have rootsApart : (roots ⟨otherFamilies.flatten⟩ |>.map (·.schema)).Nodup := by
    rw [map_schema_roots_of_families areFamiliesToo]
    exact (perm.filterMap _).nodup_iff.1 distinct
  have permLinked : (link ⟨otherFamilies.flatten⟩).resources.Perm registered.link.resources := by
    rw [link, link, linkResource_eq_of_perm permRegistered rootsApart]
    exact permRegistered.map _
  -- A resource meets no declaration of its name but its own one.
  obtain ⟨results, attachedToo, permResults⟩ := List.perm_comp_forall₂ permLinked attached
  have sameAttached (resource : Resource) :
      others.foldlM Resource.attachOwn resource = declarations.foldlM Resource.attachOwn resource :=
    (Resource.attachAll_eq_of_perm perm (nodup_declared_of_build_eq_ok built)).symm
  refine ⟨⟨results⟩,
    build_eq_ok_iff.2 ⟨⟨otherFamilies.flatten⟩, ⟨otherFamilies, areFamiliesToo, rfl⟩, nodupToo, ?_⟩,
    permResults⟩
  simp only [sameAttached]
  exact attachedToo

/-- In whatever order some declarations come, the same registry is built of them, but for the order
of its resources, as long as no two of them are of the same schema. -/
theorem build_any_order (perm : declarations.Perm others)
    (distinct : (declarations.filterMap (·.schemaName?)).Nodup) :
    ((∃ registry, build declarations backends policy = .ok registry) ↔
      ∃ other, build others backends policy = .ok other) ∧
    ∀ registry other, build declarations backends policy = .ok registry →
      build others backends policy = .ok other →
      registry.names.Perm other.names ∧ ∀ name, registry.get? name = other.get? name := by
  have distinctToo : (others.filterMap (·.schemaName?)).Nodup :=
    (perm.filterMap _).nodup_iff.1 distinct
  constructor
  · constructor
    · rintro ⟨registry, built⟩
      obtain ⟨other, builtToo, _⟩ := exists_build_of_perm perm distinct built
      exact ⟨other, builtToo⟩
    · rintro ⟨other, built⟩
      obtain ⟨registry, builtToo, _⟩ := exists_build_of_perm perm.symm distinctToo built
      exact ⟨registry, builtToo⟩
  · intro registry other built builtToo
    obtain ⟨again, rebuilt, permResources⟩ := exists_build_of_perm perm distinct built
    cases builtToo.symm.trans rebuilt
    have same (name : String) : registry.get? name = other.get? name :=
      find?_key_eq_of_perm permResources.symm (nodup_names_of_build_eq_ok built) name
    exact ⟨(permResources.map _).symm, same⟩

end Registry

namespace AppDeclaration

theorem names_build_blog :
    (Registry.build blog.resources blogBackends {}).toOption.map (·.names) =
        some ["post", "post__meta", "post__meta__seo", "author"] ∧
      (Registry.build blog.resources.reverse blogBackends {}).toOption.map (·.names) =
        some ["author", "post", "post__meta", "post__meta__seo"] := by
  have reversed : blog.resources.reverse =
      [blogDeclaration "author" "Author", blogDeclaration "post" "Post"] := rfl
  rw [Registry.build, Registry.build, reversed]
  simp only [blog, List.foldlM_cons, List.foldlM_nil, register_blogPost, register_blogAuthor]
  decide +kernel

/-- The blog with its authors declared before its posts has the same resources. -/
theorem build_any_order_blog : ∃ registry other,
    Registry.build blog.resources blogBackends {} = .ok registry ∧
      Registry.build blog.resources.reverse blogBackends {} = .ok other ∧
      registry.names = ["post", "post__meta", "post__meta__seo", "author"] ∧
      other.names = ["author", "post", "post__meta", "post__meta__seo"] ∧
      ∀ name, registry.get? name = other.get? name := by
  obtain ⟨registry, built, names⟩ := Outcome.exists_ok_of_toOption_map_eq_some names_build_blog.1
  obtain ⟨other, builtToo, namesToo⟩ := Outcome.exists_ok_of_toOption_map_eq_some names_build_blog.2
  have distinct : (blog.resources.filterMap (·.schemaName?)).Nodup := by decide
  have same :=
    (Registry.build_any_order (List.reverse_perm _).symm distinct).2 registry other built builtToo
  exact ⟨registry, other, built, builtToo, names, namesToo, same.2⟩

end AppDeclaration

end Backoffice
