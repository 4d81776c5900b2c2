import Backoffice.Proofs.Closedness
import Backoffice.Proofs.Layout.TabIds
import Backoffice.Proofs.Resource.Operations

/-!
In a compiled application no two groups of tabs or tabs have the same id, in whatever trees they
are, and every tab is in the group that it names.
-/

namespace Backoffice

def ViewTrees.ids (trees : ViewTrees) : List String :=
  View.all.flatMap fun view => (trees.get view).root.ids

namespace AppSchema

def ids (app : AppSchema) : List String :=
  app.layouts.flatMap fun (_, trees) => trees.ids

structure TabsApart (app : AppSchema) : Prop where
  ids : app.ids.Nodup
  roots : ∀ name trees, (name, trees) ∈ app.layouts → ∀ view, ¬ (trees.get view).root.IsTab
  grouped : ∀ name trees, (name, trees) ∈ app.layouts → ∀ view, (trees.get view).root.Grouped

end AppSchema

namespace AppDeclaration

variable {declaration : AppDeclaration} {registry : Registry} {layouts : List (String × ViewTrees)}

theorem exists_numbered_of_mem_layouts
    (laidOut : registry.resources.mapM (declaration.compileLayouts registry) = .ok layouts)
    {name : String} {trees : ViewTrees} (member : (name, trees) ∈ layouts) (view : View) :
    ∃ scope : LayoutScope, scope.resource.name = name ∧ scope.view = view ∧
      ∃ count, scope.Numbered 0 count [(trees.get view).root] := by
  obtain ⟨resource, _, named, compiled⟩ := exists_named_of_mem_layouts laidOut member
  exact ⟨⟨resource, registry, view⟩, named, rfl,
    LayoutTree.exists_numbered_of_compile_eq_ok (compiled view)⟩

theorem exists_idOf_of_mem_ids
    (laidOut : registry.resources.mapM (declaration.compileLayouts registry) = .ok layouts)
    {name : String} {trees : ViewTrees} (member : (name, trees) ∈ layouts) {view : View}
    {id : String} (inTree : id ∈ (trees.get view).root.ids) :
    ∃ scope : LayoutScope, scope.resource.name = name ∧ scope.view = view ∧ ∃ number,
      scope.IdOf number id := by
  obtain ⟨scope, named, viewed, count, numbered⟩ :=
    exists_numbered_of_mem_layouts laidOut member view
  have range := numbered.range
  rw [List.flatMap_singleton] at range
  obtain ⟨number, _, _, isId⟩ := range id inTree
  exact ⟨scope, named, viewed, number, isId⟩

theorem nodup_treeIds
    (laidOut : registry.resources.mapM (declaration.compileLayouts registry) = .ok layouts)
    {name : String} {trees : ViewTrees} (member : (name, trees) ∈ layouts) : trees.ids.Nodup := by
  rw [ViewTrees.ids, List.nodup_flatMap]
  constructor
  · intro view _
    obtain ⟨_, _, _, _, numbered⟩ := exists_numbered_of_mem_layouts laidOut member view
    have nodup := numbered.nodup
    rwa [List.flatMap_singleton] at nodup
  · have apart : View.all.Pairwise (· ≠ ·) := by decide
    refine apart.imp ?_
    intro view other distinct id inView inOther
    obtain ⟨_, _, viewed, _, isId⟩ := exists_idOf_of_mem_ids laidOut member inView
    obtain ⟨_, _, viewedOther, _, isOther⟩ := exists_idOf_of_mem_ids laidOut member inOther
    exact distinct (viewed ▸ viewedOther ▸ (isId.unique isOther).1.2)

/-- In a compiled application all ids of groups of tabs and of tabs differ, and all tabs are in the
groups that they name. -/
theorem tabsApart_of_compile_eq_ok {backends : Backends} {app : AppSchema}
    (compiled : declaration.compile backends = .ok app) : app.TabsApart := by
  obtain ⟨⟨policy, built⟩, laidOut⟩ := exists_build_of_compile_eq_ok compiled
  constructor
  · rw [AppSchema.ids, List.nodup_flatMap]
    constructor
    · rintro ⟨name, trees⟩ member
      exact nodup_treeIds laidOut member
    · have names : (app.layouts.map (·.1)).Nodup :=
        names_of_layouts laidOut ▸ Registry.nodup_names_of_build_eq_ok built
      refine (List.pairwise_map.1 names).imp_of_mem ?_
      rintro ⟨name, trees⟩ ⟨other, others⟩ member memberOther distinct id inTrees inOthers
      obtain ⟨_, _, inView⟩ := List.mem_flatMap.1 inTrees
      obtain ⟨_, _, inOther⟩ := List.mem_flatMap.1 inOthers
      obtain ⟨_, named, _, _, isId⟩ := exists_idOf_of_mem_ids laidOut member inView
      obtain ⟨_, namedOther, _, _, isOther⟩ := exists_idOf_of_mem_ids laidOut memberOther inOther
      exact distinct (named ▸ namedOther ▸ (isId.unique isOther).1.1)
  · intro name trees member view
    obtain ⟨_, _, _, _, numbered⟩ := exists_numbered_of_mem_layouts laidOut member view
    exact numbered.others _ List.mem_cons_self
  · intro name trees member view
    obtain ⟨_, _, _, _, numbered⟩ := exists_numbered_of_mem_layouts laidOut member view
    exact numbered.grouped _ List.mem_cons_self

/-- Notes, under two names one of which goes on as the ids of the other do. -/
def notesCatalog : SchemaCatalog where
  schemas := [{ name := ⟨"Note"⟩, fields := [{ name := "title", nativeType := "string" }] }]

def notesBackends : Backends where
  simple := some notesCatalog

def noteDeclaration (name : String) : ResourceDeclaration :=
  { ResourceDeclaration.simple name "Note" none with routes := { only := some [] } }

def notes : AppDeclaration where
  resources := [noteDeclaration "note", noteDeclaration "note-form-sections-0"]
  layouts := [
    { resource := "note"
      form := some [.tabs [
        .tab "Outer" none [.tabs [.tab "Inner" none [.field "title" []] []] []] [],
        .tab "Other" none [.field "title" []] []] []] },
    { resource := "note-form-sections-0"
      form := some [.tabs [.tab "Only" none [.field "title" []] []] []] }]

def noteResource (name : String) : Resource :=
  .discover name (.simple notesCatalog) ⟨"Note"⟩ none (some (noteDeclaration name)) {} none

theorem synthesizeEmbeds_note (name : String) (none : (noteResource name).embeds = []) :
    (noteResource name).synthesizeEmbeds {} = .ok [] := by
  rw [Resource.synthesizeEmbeds, none, Resource.synthesize_nil]

theorem ids_compile_notes :
    (notes.compile notesBackends).toOption.map AppSchema.ids =
      some [
        "note-form-sections-0", "note-form-sections-0-tab-0", "note-form-sections-1",
        "note-form-sections-1-tab-0", "note-form-sections-0-tab-1",
        "note-form-sections-0-form-sections-0", "note-form-sections-0-form-sections-0-tab-0"] := by
  have short (registry : Registry) :
      Registry.register notesBackends {} registry (noteDeclaration "note") = _ :=
    register_eq_insertAll registry rfl (synthesizeEmbeds_note "note" (by decide +kernel))
  have long (registry : Registry) :
      Registry.register notesBackends {} registry (noteDeclaration "note-form-sections-0") = _ :=
    register_eq_insertAll registry rfl
      (synthesizeEmbeds_note "note-form-sections-0" (by decide +kernel))
  have ruled : NamingPolicy.ofRules notes.namingRules = .ok {} := rfl
  rw [compile_eq_of_ofRules_eq_ok ruled, Registry.build]
  simp only [notes, List.foldlM_cons, List.foldlM_nil, short, long]
  decide +kernel

theorem tabsApart_notes : ∃ app, notes.compile notesBackends = .ok app ∧
    app.ids.length = 7 ∧ app.TabsApart := by
  obtain ⟨app, compiled, ids⟩ := Outcome.exists_ok_of_toOption_map_eq_some ids_compile_notes
  refine ⟨app, compiled, ?_, tabsApart_of_compile_eq_ok compiled⟩
  rw [ids]
  rfl

end AppDeclaration

end Backoffice
