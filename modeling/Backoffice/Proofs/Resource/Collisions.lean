import Backoffice.Proofs.Closedness
import Backoffice.Proofs.Declaration.Validation
import Backoffice.Proofs.Resource.EmbedCycle
import Backoffice.Proofs.Resource.EmbedNames

/-!
When no two resources of an application get the same name.

Each declared resource is registered together with all resources that are found in it. Registering
fails at a name that is taken exactly where the names of such families clash, and they do not where
the separator can be found again in the names of embeds.
-/

namespace Backoffice

theorem OperationScope.resolve_ne_duplicateResource (scope : OperationScope) (backend : Backend)
    (op : LogicalOp) (overrides : OperationOverrides) (name : String) :
    scope.resolve backend op overrides ≠ .error (.duplicateResource name) := by
  intro failed
  rw [resolve, Outcome.map_eq_error_iff, resolveTarget] at failed
  split at failed
  · rw [Outcome.map_eq_error_iff, resolveAction] at failed
    dsimp only at failed
    split at failed
    · cases failed
    · split at failed <;> cases failed
  · rw [Outcome.map_eq_error_iff, resolveInitializer] at failed
    split at failed
    · cases failed
    · cases made : scope.initializerFor backend (overrides.nameFor .new) with
      | ok initializer =>
        rw [made] at failed
        cases failed
      | error fault =>
        rw [made] at failed
        cases failed

namespace Registry

variable {backends : Backends} {policy : NamingPolicy} {registry after : Registry} {name : String}

def family (backends : Backends) (policy : NamingPolicy) (declaration : ResourceDeclaration) :
    Except Error (List Resource) := do
  let root ← discover backends policy declaration
  let embedded ← root.synthesizeEmbeds policy
  .ok (root :: embedded)

theorem register_eq (declaration : ResourceDeclaration) :
    register backends policy registry declaration =
      family backends policy declaration >>= registry.insertAll := by
  rw [register, family]
  cases discover backends policy declaration with
  | error fault => rfl
  | ok root =>
    change (root.synthesizeEmbeds policy >>= _) = ((root.synthesizeEmbeds policy >>= _) >>= _)
    cases root.synthesizeEmbeds policy with
    | error fault => rfl
    | ok embedded => rfl

theorem family_eq_ok {declaration : ResourceDeclaration} {root : Resource}
    {embedded : List Resource} (discovered : discover backends policy declaration = .ok root)
    (descended : root.synthesizeEmbeds policy = .ok embedded) :
    family backends policy declaration = .ok (root :: embedded) :=
  Outcome.bind_eq_ok_iff.2 ⟨root, discovered, Outcome.bind_eq_ok_iff.2 ⟨embedded, descended, rfl⟩⟩

/-! ### Where a name can be taken -/

theorem family_ne_duplicateResource (declaration : ResourceDeclaration) :
    family backends policy declaration ≠ .error (.duplicateResource name) := by
  intro failed
  rcases Outcome.bind_eq_error_iff.1 failed with failed | ⟨root, _, failed⟩
  · rcases Outcome.bind_eq_error_iff.1 failed with failed | ⟨⟨kind, schema, context⟩, _, failed⟩
    · rw [ResourceDeclaration.backend] at failed
      split at failed <;> cases failed
    · dsimp only at failed
      split at failed <;> cases failed
  · rcases Outcome.bind_eq_error_iff.1 failed with failed | ⟨_, _, failed⟩
    · obtain ⟨_, _, same, _⟩ := Resource.exists_path_of_synthesizeEmbeds_eq_error failed
      cases same
    · cases failed

theorem attach_ne_duplicateResource (declaration : ResourceDeclaration) :
    registry.attach declaration ≠ .error (.duplicateResource name) := by
  intro failed
  rcases Outcome.bind_eq_error_iff.1 failed with failed | ⟨_, _, failed⟩
  · obtain ⟨resource, _, failed⟩ := Outcome.exists_of_mapM_eq_error failed
    split at failed
    · rcases Outcome.bind_eq_error_iff.1 failed with failed | ⟨_, _, failed⟩
      · obtain ⟨op, _, failed⟩ := Outcome.exists_of_mapM_eq_error failed
        rcases Outcome.bind_eq_error_iff.1 failed with failed | ⟨_, _, failed⟩
        · exact OperationScope.resolve_ne_duplicateResource _ _ _ _ _ failed
        · cases failed
      · cases failed
    · cases failed
  · cases failed

theorem insertAll_eq_ok {resources : List Resource}
    (distinct : (registry.names ++ resources.map (·.name)).Nodup) :
    registry.insertAll resources = .ok ⟨registry.resources ++ resources⟩ := by
  induction resources generalizing registry with
  | nil =>
    rw [List.append_nil]
    rfl
  | cons resource rest inductionHypothesis =>
    have free : resource.name ∉ registry.names := by
      intro taken
      exact (List.nodup_append.1 distinct).2.2 _ taken _ List.mem_cons_self rfl
    have longer : names ⟨registry.resources ++ [resource]⟩ = registry.names ++ [resource.name] := by
      simp [names]
    have inserted : registry.insert resource = .ok ⟨registry.resources ++ [resource]⟩ :=
      insert_eq_ok_iff.2 ⟨free, rfl⟩
    rw [insertAll, List.foldlM_cons, inserted]
    change insertAll ⟨registry.resources ++ [resource]⟩ rest = _
    rw [inductionHypothesis (by simpa [longer] using distinct), List.append_assoc]
    rfl

/-- The families of some declarations. -/
def Families (backends : Backends) (policy : NamingPolicy) :
    List ResourceDeclaration → List (List Resource) → Prop :=
  List.Forall₂ fun declaration found => family backends policy declaration = .ok found

/-- If a name is taken, then the families that have been found so far have a name twice. -/
theorem exists_families_of_registering_eq_error {declarations : List ResourceDeclaration}
    (distinct : registry.names.Nodup)
    (failed : declarations.foldlM (register backends policy) registry =
      .error (.duplicateResource name)) :
    ∃ before rest families, declarations = before ++ rest ∧
      Families backends policy before families ∧
      ¬ (registry.names ++ families.flatten.map (·.name)).Nodup := by
  induction declarations generalizing registry with
  | nil => cases failed
  | cons declaration rest inductionHypothesis =>
    rw [List.foldlM_cons, Outcome.bind_eq_error_iff] at failed
    rcases failed with failed | ⟨next, registered, failed⟩
    · rw [register_eq, Outcome.bind_eq_error_iff] at failed
      rcases failed with failed | ⟨found, isFamily, failed⟩
      · exact absurd failed (family_ne_duplicateResource declaration)
      · refine ⟨[declaration], rest, [found], rfl, .cons isFamily .nil, ?_⟩
        intro free
        rw [insertAll_eq_ok (by simpa using free)] at failed
        cases failed
    · rw [register_eq, Outcome.bind_eq_ok_iff] at registered
      obtain ⟨found, isFamily, inserted⟩ := registered
      obtain ⟨listed, distinctNext⟩ := resources_of_insertAll_eq_ok inserted distinct
      obtain ⟨before, after, families, split, areFamilies, clash⟩ :=
        inductionHypothesis distinctNext failed
      refine ⟨declaration :: before, after, found :: families, by rw [split]; rfl,
        .cons isFamily areFamilies, ?_⟩
      intro free
      rw [names, listed] at clash
      exact clash (by simpa [names] using free)

/-! ### Where none is taken -/

theorem nodup_names_of_family {declaration : ResourceDeclaration} {found : List Resource}
    (isFamily : family backends policy declaration = .ok found)
    (fields : (declaration.fields.map (·.name)).Nodup)
    (separates : ∀ resource ∈ found, resource.Separates) :
    (found.map (·.name)).Nodup ∧ ∀ resource ∈ found,
      Resource.NamedUnder declaration.name resource.name := by
  obtain ⟨root, discovered, isFamily⟩ := Outcome.bind_eq_ok_iff.1 isFamily
  obtain ⟨embedded, descended, same⟩ := Outcome.bind_eq_ok_iff.1 isFamily
  cases same
  obtain ⟨backend, schema, context, same⟩ := exists_of_discover_eq_ok discovered
  have named : root.name = declaration.name := same ▸ rfl
  have names : root.NamesEmbeds := same ▸ Resource.namesEmbeds_discover _
  have order : root.order.Nodup := same ▸ Resource.nodup_order_discover fields
  exact named ▸ Resource.nodup_names_of_synthesizeEmbeds_eq_ok descended names order separates

/-- The families of plainly named declarations have no name in common. -/
theorem nodup_names_of_families {declarations : List ResourceDeclaration}
    {families : List (List Resource)} (areFamilies : Families backends policy declarations families)
    (plain : ∀ declaration ∈ declarations, Text.hasSeparator declaration.name = false)
    (distinct : (declarations.map (·.name)).Nodup)
    (fields : ∀ declaration ∈ declarations, (declaration.fields.map (·.name)).Nodup)
    (separates : ∀ declaration ∈ declarations, ∀ found,
      family backends policy declaration = .ok found →
        ∀ resource ∈ found, resource.Separates) :
    (families.flatten.map (·.name)).Nodup ∧
      ∀ resource ∈ families.flatten, ∃ declaration ∈ declarations,
        Resource.NamedUnder declaration.name resource.name := by
  induction areFamilies with
  | nil => exact ⟨List.nodup_nil, nofun⟩
  | @cons declaration found declarations families isFamily _ inductionHypothesis =>
    rw [List.forall_mem_cons] at plain fields separates
    rw [List.map_cons, List.nodup_cons] at distinct
    obtain ⟨nodup, under⟩ := nodup_names_of_family isFamily fields.1 (separates.1 found isFamily)
    obtain ⟨nodupRest, underRest⟩ := inductionHypothesis plain.2 distinct.2 fields.2 separates.2
    rw [List.flatten_cons]
    constructor
    · rw [List.map_append, List.nodup_append]
      refine ⟨nodup, nodupRest, ?_⟩
      intro first inFamily second inRest same
      obtain ⟨resource, member, isFirst⟩ := List.mem_map.1 inFamily
      obtain ⟨stranger, memberRest, isSecond⟩ := List.mem_map.1 inRest
      obtain ⟨other, isDeclared, underOther⟩ := underRest stranger memberRest
      rw [isSecond, ← same, ← isFirst] at underOther
      have equal : declaration.name = other.name :=
        Resource.NamedUnder.eq_of_plain plain.1 (plain.2 other isDeclared) (under resource member)
          underOther
      exact distinct.1 (equal ▸ List.mem_map_of_mem isDeclared)
    · rw [List.forall_mem_append]
      constructor
      · exact fun resource member => ⟨declaration, List.mem_cons_self, under resource member⟩
      · intro stranger member
        obtain ⟨other, isDeclared, underOther⟩ := underRest stranger member
        exact ⟨other, List.mem_cons_of_mem _ isDeclared, underOther⟩

end Registry

namespace AppDeclaration

/-- Of an application that passes its checks no two resources get the same name, whatever is
embedded in them, as long as the separator can be found again in the names of the embeds. -/
theorem namesApart_of_validate_eq_ok {declaration : AppDeclaration} {backends : Backends}
    {policy : NamingPolicy} (valid : declaration.validate backends = .ok ())
    (separates : ∀ resource ∈ declaration.resources, ∀ found,
      Registry.family backends policy resource = .ok found → ∀ inner ∈ found, inner.Separates) :
    (∀ name, Registry.build declaration.resources backends policy ≠
      .error (.duplicateResource name)) ∧
      ∀ families, Registry.Families backends policy declaration.resources families →
        (families.flatten.map (·.name)).Nodup := by
  obtain ⟨usable, distinct⟩ := usable_of_validate_eq_ok valid
  -- What holds of the families of all declarations holds of those of the first ones.
  have apart {before rest : List ResourceDeclaration}
      (split : declaration.resources = before ++ rest) (families : List (List Resource))
      (areFamilies : Registry.Families backends policy before families) :
      (families.flatten.map (·.name)).Nodup := by
    have declared : ∀ resource ∈ before, resource ∈ declaration.resources :=
      fun resource member => split ▸ List.mem_append_left _ member
    rw [resourceNames, split, List.map_append] at distinct
    exact (Registry.nodup_names_of_families areFamilies
      (fun resource member => (usable resource (declared resource member)).plain)
      (List.nodup_append.1 distinct).1
      (fun resource member => (usable resource (declared resource member)).fields)
      (fun resource member => separates resource (declared resource member))).1
  constructor
  · intro name failed
    rcases Outcome.bind_eq_error_iff.1 failed with failed | ⟨_, _, failed⟩
    · have start : (Registry.names {}).Nodup := List.nodup_nil
      obtain ⟨before, rest, families, split, areFamilies, clash⟩ :=
        Registry.exists_families_of_registering_eq_error start failed
      exact clash (apart split families areFamilies)
    · obtain ⟨_, _, _, failed⟩ := Outcome.exists_of_foldlM_eq_error failed
      exact Registry.attach_ne_duplicateResource _ failed
  · exact apart (List.append_nil _).symm

theorem separates_blog (resource : ResourceDeclaration) (declared : resource ∈ blog.resources)
    (found : List Resource) (isFamily : Registry.family blogBackends {} resource = .ok found) :
    ∀ inner ∈ found, inner.Separates := by
  have posts : Registry.family blogBackends {} (blogDeclaration "post" "Post") = _ :=
    Registry.family_eq_ok rfl synthesizeEmbeds_blogPost
  have authors : Registry.family blogBackends {} (blogDeclaration "author" "Author") = _ :=
    Registry.family_eq_ok rfl synthesizeEmbeds_blogAuthor
  rcases List.mem_cons.1 declared with same | later
  · rw [same, posts] at isFamily
    cases isFamily
    rw [List.forall_mem_cons, List.forall_mem_cons, List.forall_mem_singleton]
    refine ⟨?_, ?_, ?_⟩
    all_goals
      apply Resource.separates_of_forall_fields
      decide +kernel
  · rw [List.mem_singleton.1 later, authors] at isFamily
    cases isFamily
    rw [List.forall_mem_singleton]
    apply Resource.separates_of_forall_fields
    decide +kernel

theorem namesApart_blog :
    blog.validate blogBackends = .ok () ∧
      (∀ name, Registry.build blog.resources blogBackends {} ≠ .error (.duplicateResource name)) ∧
      ∀ families, Registry.Families blogBackends {} blog.resources families →
        (families.flatten.map (·.name)).Nodup := by
  have valid : blog.validate blogBackends = .ok () := by decide +kernel
  exact ⟨valid, namesApart_of_validate_eq_ok valid separates_blog⟩

/-- Pages of two kinds, each with its metadata. -/
def wikiCatalog : SchemaCatalog where
  schemas := [
    { name := ⟨"Page"⟩
      fields := []
      associations := [{ name := "_meta", kind := .embedOne, destination := ⟨"Meta"⟩ }] },
    { name := ⟨"Archive"⟩
      fields := []
      associations := [{ name := "meta", kind := .embedOne, destination := ⟨"Meta"⟩ }] },
    { name := ⟨"Meta"⟩, fields := [{ name := "author", nativeType := "string" }] }]

def wikiBackends : Backends where
  simple := some wikiCatalog

def wiki : AppDeclaration where
  resources := [blogDeclaration "page" "Page", blogDeclaration "page_" "Archive"]

def wikiResource (name schema : String) : Resource :=
  .discover name (.simple wikiCatalog) ⟨schema⟩ none (some (blogDeclaration name schema)) {} none

/-- The checks accept a name that ends in an underscore, and the metadata of the two kinds of
pages get the same name. -/
theorem duplicateResource_wiki :
    wiki.validate wikiBackends = .ok () ∧
      Registry.build wiki.resources wikiBackends {} = .error (.duplicateResource "page___meta") ∧
      wiki.compile wikiBackends = .error (.duplicateResource "page___meta") := by
  have pages (registry : Registry) :
      Registry.register wikiBackends {} registry (blogDeclaration "page" "Page") =
        registry.insertAll [wikiResource "page" "Page",
          (wikiResource "page" "Page").embedded {} ⟨"page", "page___meta", ⟨"Meta"⟩⟩] :=
    register_eq_insertAll registry rfl
      (Resource.synthesizeEmbeds_of_embeds_eq_singleton (by decide +kernel) (by decide)
        (by decide +kernel))
  have archives (registry : Registry) :
      Registry.register wikiBackends {} registry (blogDeclaration "page_" "Archive") =
        registry.insertAll [wikiResource "page_" "Archive",
          (wikiResource "page_" "Archive").embedded {} ⟨"page_", "page___meta", ⟨"Meta"⟩⟩] :=
    register_eq_insertAll registry rfl
      (Resource.synthesizeEmbeds_of_embeds_eq_singleton (by decide +kernel) (by decide)
        (by decide +kernel))
  have valid : wiki.validate wikiBackends = .ok () := by decide +kernel
  have built : Registry.build wiki.resources wikiBackends {} =
      .error (.duplicateResource "page___meta") := by
    rw [Registry.build]
    simp only [wiki, List.foldlM_cons, List.foldlM_nil, pages, archives]
    rfl
  have ruled : NamingPolicy.ofRules wiki.namingRules = .ok {} := rfl
  rw [compile_eq_of_ofRules_eq_ok ruled, valid, built]
  exact ⟨rfl, rfl, rfl⟩

end AppDeclaration

end Backoffice
