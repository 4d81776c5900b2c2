import Backoffice.Proofs.Closedness
import Backoffice.Proofs.Declaration.Validation
import Backoffice.Proofs.Resource.EmbedNames
import Backoffice.Proofs.Resource.Provenance

/-!
Layouts that declare no view, and for which registered resources the checks accept them.

Such a layout changes no tree. The checks accept it if what comes before the first separator of its
name is a declared resource, and that is the resource which everything is embedded in, except that
of a name that ends in an underscore the underscore is taken for part of the separator.
-/

namespace Backoffice

/-- Whether a name is a root, or begins with the root and a separator. -/
def Text.StemsFrom (name root : String) : Prop :=
  name = root ∨ ∃ rest, name = embedName root rest

variable {policy : NamingPolicy} {declarations : List ResourceDeclaration}

namespace Resource

theorem Discovered.namesEmbeds {resource : Resource}
    (discovered : resource.Discovered policy declarations) :
    resource.NamesEmbeds := by
  cases discovered with
  | declared _ => exact namesEmbeds_discover _
  | embedded _ _ => exact namesEmbeds_discover _

theorem Discovered.exists_stemsFrom {resource : Resource}
    (discovered : resource.Discovered policy declarations) :
    ∃ declaration ∈ declarations, Text.StemsFrom resource.name declaration.name := by
  induction discovered with
  | @declared declaration _ _ _ isDeclared => exact ⟨declaration, isDeclared, .inl rfl⟩
  | @embedded parent embed found member inductionHypothesis =>
    obtain ⟨declaration, isDeclared, stems⟩ := inductionHypothesis
    obtain ⟨key, _, _, _, named⟩ := exists_key_of_mem_embeds found.namesEmbeds member
    have childName : (parent.embedded policy embed).name = Text.embedName parent.name key := named
    refine ⟨declaration, isDeclared, .inr ?_⟩
    rw [childName]
    rcases stems with same | ⟨rest, same⟩
    · exact ⟨key, by rw [same]⟩
    · exact ⟨Text.embedName rest key, by rw [same, Text.embedName_embedName]⟩

end Resource

theorem Registry.exists_stemsFrom_of_build_eq_ok {backends : Backends} {registry : Registry}
    (built : build declarations backends policy = .ok registry) {name : String}
    (registered : name ∈ registry.names) :
    ∃ declaration ∈ declarations, Text.StemsFrom name declaration.name := by
  obtain ⟨resource, member, same⟩ := List.mem_map.1 registered
  obtain ⟨_, original, discovered, bare⟩ := exists_discovered_of_build_eq_ok built member
  have named : resource.name = original.name := congrArg (·.name) bare
  rw [← same, named]
  exact discovered.exists_stemsFrom

namespace LayoutDeclaration

/-- A layout that declares no view. -/
def bare (resource : String) : LayoutDeclaration :=
  { resource }

theorem compile_bare (registry : Registry) (resource : Resource) (name : String) :
    ViewTrees.compile registry (some (bare name)) resource =
      ViewTrees.compile registry none resource :=
  rfl

end LayoutDeclaration

namespace AppDeclaration

def withBareLayout (declaration : AppDeclaration) (resource : String) : AppDeclaration :=
  { declaration with layouts := declaration.layouts ++ [.bare resource] }

variable {declaration : AppDeclaration} {backends : Backends} {app : AppSchema} {name : String}

theorem validate_withBareLayout (noLayouts : declaration.layouts = [])
    (valid : declaration.validate backends = .ok ()) :
    (declaration.withBareLayout name).validate backends =
      if Text.embedRoot name ∈ declaration.resourceNames then .ok ()
      else .error (.missingReference .resource name) := by
  have resources := (Outcome.check_bind_eq_ok_iff.1 valid).1
  change (ResourceDeclaration.validateAll backends [] declaration.resources >>= _) = _
  rw [resources]
  change LayoutDeclaration.validateAll declaration.resourceNames [] (declaration.layouts ++ _) = _
  rw [noLayouts, List.nil_append, LayoutDeclaration.validateAll]
  by_cases known : Text.embedRoot name ∈ declaration.resourceNames
  · simp [LayoutDeclaration.bare, LayoutDeclaration.validateAll, known]
  · simp [LayoutDeclaration.bare, known]

theorem compileLayouts_withBareLayout (noLayouts : declaration.layouts = []) (registry : Registry)
    (resource : Resource) :
    (declaration.withBareLayout name).compileLayouts registry resource =
      declaration.compileLayouts registry resource := by
  have plain : declaration.layout? resource.name = none := by
    rw [layout?, noLayouts, List.find?_nil]
  rw [compileLayouts, compileLayouts, plain, layout?, withBareLayout, noLayouts, List.nil_append,
    List.find?_singleton]
  split
  · rw [LayoutDeclaration.compile_bare]
  · rfl

/-- Where the checks accept a layout without views, it makes no difference. -/
theorem compile_withBareLayout_of_validate_eq_ok (noLayouts : declaration.layouts = [])
    (compiled : declaration.compile backends = .ok app) (registered : name ∈ app.registry.names)
    (accepted : (declaration.withBareLayout name).validate backends = .ok ()) :
    (declaration.withBareLayout name).compile backends = .ok app := by
  obtain ⟨policy, ruled, built, laidOut⟩ := exists_policy_of_compile_eq_ok compiled
  have known : (declaration.withBareLayout name).validateLayouts app.registry = .ok () := by
    have contains : app.registry.contains name = true := List.contains_iff_mem.2 registered
    rw [validateLayouts, withBareLayout, noLayouts, List.nil_append, List.find?_singleton]
    simp [LayoutDeclaration.bare, contains]
  have sameTrees :
      app.registry.resources.mapM ((declaration.withBareLayout name).compileLayouts app.registry) =
      .ok app.layouts := by
    have same : (declaration.withBareLayout name).compileLayouts app.registry =
        declaration.compileLayouts app.registry :=
      funext fun resource => compileLayouts_withBareLayout noLayouts app.registry resource
    rw [same]
    exact laidOut
  have sameRules : NamingPolicy.ofRules (declaration.withBareLayout name).namingRules =
      .ok policy := ruled
  have sameRegistry : Registry.build (declaration.withBareLayout name).resources backends policy =
      .ok app.registry := built
  rw [compile_eq_of_ofRules_eq_ok sameRules, Outcome.check_bind_eq_ok_iff]
  refine ⟨accepted, Outcome.bind_eq_ok_iff.2 ⟨app.registry, sameRegistry, ?_⟩⟩
  exact Outcome.check_bind_eq_ok_iff.2 ⟨known,
    Outcome.bind_eq_ok_iff.2 ⟨app.layouts, sameTrees, rfl⟩⟩

theorem embedRoot_mem_resourceNames_iff {root : ResourceDeclaration}
    (declared : root ∈ declaration.resources) (plain : Text.hasSeparator root.name = false)
    (stems : Text.StemsFrom name root.name) :
    Text.embedRoot name ∈ declaration.resourceNames ↔
      name = root.name ∨ ¬ Text.EndsInUnderscore root.name ∨
        Text.withoutLast root.name ∈ declaration.resourceNames := by
  have known : root.name ∈ declaration.resourceNames := List.mem_map_of_mem declared
  rcases stems with same | ⟨rest, same⟩
  · rw [same, Text.embedRoot_eq_self plain]
    exact iff_of_true known (.inl rfl)
  · have different : name ≠ root.name := by
      intro equal
      rw [← equal, same, Text.hasSeparator_embedName] at plain
      cases plain
    rw [same, Text.embedRoot_embedName plain]
    split
    · next last => simp [← same, different, last]
    · next last => simp [last, known]

/-- A layout without views for a registered resource makes no difference, unless the
declared resource that it stems from has a name that ends in an underscore. Then the checks
look for the name without it. -/
theorem compile_withBareLayout (noLayouts : declaration.layouts = [])
    (compiled : declaration.compile backends = .ok app) (registered : name ∈ app.registry.names) :
    (∃ root ∈ declaration.resources, Text.StemsFrom name root.name) ∧
      ∀ root ∈ declaration.resources, Text.StemsFrom name root.name →
        (declaration.withBareLayout name).compile backends =
          if name = root.name ∨ ¬ Text.EndsInUnderscore root.name ∨
              Text.withoutLast root.name ∈ declaration.resourceNames then .ok app
          else .error (.missingReference .resource name) := by
  obtain ⟨_, valid, _⟩ := Outcome.bind_eq_ok_iff.1 compiled
  obtain ⟨⟨policy, built⟩, _⟩ := exists_build_of_compile_eq_ok compiled
  refine ⟨Registry.exists_stemsFrom_of_build_eq_ok built registered, ?_⟩
  intro root declared stems
  have plain := ((usable_of_validate_eq_ok valid).1 root declared).plain
  have accepted_iff := embedRoot_mem_resourceNames_iff declared plain stems
  have checked : (declaration.withBareLayout name).validate backends = _ :=
    validate_withBareLayout noLayouts valid
  by_cases found : Text.embedRoot name ∈ declaration.resourceNames
  · rw [if_pos found] at checked
    rw [if_pos (accepted_iff.1 found)]
    exact compile_withBareLayout_of_validate_eq_ok noLayouts compiled registered checked
  · rw [if_neg found] at checked
    rw [if_neg fun accepted => found (accepted_iff.2 accepted), compile, checked]
    rfl

/-- Journals with embedded metadata, under a name. -/
def journalCatalog : SchemaCatalog where
  schemas := [
    { name := ⟨"Journal"⟩
      fields := []
      associations := [{ name := "meta", kind := .embedOne, destination := ⟨"Meta"⟩ }] },
    { name := ⟨"Meta"⟩, fields := [{ name := "editor", nativeType := "string" }] }]

def journalBackends : Backends where
  simple := some journalCatalog

def journal (name : String) : AppDeclaration where
  resources := [blogDeclaration name "Journal"]

def journalResource (name : String) : Resource :=
  .discover name (.simple journalCatalog) ⟨"Journal"⟩ none
    (some (blogDeclaration name "Journal")) {} none

theorem register_journal (name : String)
    (embeds : (journalResource name).embeds = [⟨name, Text.embedName name "meta", ⟨"Meta"⟩⟩])
    (last : ((journalResource name).embedded {} ⟨name, Text.embedName name "meta",
      ⟨"Meta"⟩⟩).embeds = []) :
    Registry.register journalBackends {} {} (blogDeclaration name "Journal") =
      Registry.insertAll {} [journalResource name,
        (journalResource name).embedded {} ⟨name, Text.embedName name "meta", ⟨"Meta"⟩⟩] := by
  have other : (⟨"Meta"⟩ : SchemaName) ≠ ⟨"Journal"⟩ := by decide
  exact register_eq_insertAll {} rfl
    (Resource.synthesizeEmbeds_of_embeds_eq_singleton embeds other last)

theorem names_compile_journal : ∀ name ∈ ["journal", "journal_"],
    ((journal name).compile journalBackends).toOption.map (·.registry.names) =
      some [name, Text.embedName name "meta"] := by
  have embeds : ∀ name ∈ ["journal", "journal_"],
      (journalResource name).embeds = [⟨name, Text.embedName name "meta", ⟨"Meta"⟩⟩] := by
    decide +kernel
  have last : ∀ name ∈ ["journal", "journal_"],
      ((journalResource name).embedded {} ⟨name, Text.embedName name "meta", ⟨"Meta"⟩⟩).embeds =
        [] := by
    decide +kernel
  intro name member
  have registered := register_journal name (embeds name member) (last name member)
  have ruled : NamingPolicy.ofRules (journal name).namingRules = .ok {} := rfl
  rw [compile_eq_of_ofRules_eq_ok ruled, Registry.build]
  simp only [journal, List.foldlM_cons, List.foldlM_nil, registered]
  clear registered ruled
  revert name
  decide +kernel

theorem bareLayout_plainJournal : ∃ app, (journal "journal").compile journalBackends = .ok app ∧
    "journal__meta" ∈ app.registry.names ∧
    ((journal "journal").withBareLayout "journal__meta").compile journalBackends = .ok app := by
  obtain ⟨app, compiled, names⟩ :=
    Outcome.exists_ok_of_toOption_map_eq_some (names_compile_journal "journal" (by decide))
  have registered : "journal__meta" ∈ app.registry.names := by
    rw [names]
    decide
  have same := (compile_withBareLayout rfl compiled registered).2
    (blogDeclaration "journal" "Journal") (List.mem_singleton_self _) (.inr ⟨"meta", rfl⟩)
  rw [if_pos (by decide)] at same
  exact ⟨app, compiled, registered, same⟩

/-- The metadata of a journal whose name ends in an underscore cannot be laid out. -/
theorem missingReference_openJournal :
    ∃ app, (journal "journal_").compile journalBackends = .ok app ∧
    "journal___meta" ∈ app.registry.names ∧
    ((journal "journal_").withBareLayout "journal___meta").compile journalBackends =
      .error (.missingReference .resource "journal___meta") := by
  obtain ⟨app, compiled, names⟩ :=
    Outcome.exists_ok_of_toOption_map_eq_some (names_compile_journal "journal_" (by decide))
  have registered : "journal___meta" ∈ app.registry.names := by
    rw [names]
    decide
  have invalid : ((journal "journal_").withBareLayout "journal___meta").validate journalBackends =
      .error (.missingReference .resource "journal___meta") := by decide +kernel
  refine ⟨app, compiled, registered, ?_⟩
  rw [compile, invalid]
  rfl

end AppDeclaration

end Backoffice
