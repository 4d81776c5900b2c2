import Backoffice.Application
import Backoffice.Proofs.Layout.FieldNodes
import Backoffice.Proofs.Resource.Registration

/-!
Compiled applications are closed: every name that a field, a parent or a node of a layout tree leads
to is that of a registered resource.
-/

namespace Backoffice

/-! ### Looking up fields -/

theorem Field.relatedResource?_of_embed?_eq_some {field : Field} {embed : EmbedData}
    (embeds : field.embed? = some embed) : field.relatedResource? = some embed.resource := by
  rw [Field.embed?] at embeds
  rw [Field.relatedResource?]
  cases data : field.data with
  | embed found =>
    rw [data] at embeds
    cases embeds
    rfl
  | _ =>
    rw [data] at embeds
    cases embeds

namespace Registry.Closed

variable {registry : Registry} (closed : registry.Closed) {resource : Resource}
  (member : resource ∈ registry.resources) (view : View)

include closed member

/-- In a closed registry every field that is not omitted can be put into a layout. -/
theorem field_eq_ok {key : String} {field : Field} (stored : resource.field? key = some field)
    (shown : field.omitted = false) :
    LayoutScope.field ⟨resource, registry, view⟩ key = .ok field := by
  rw [LayoutScope.field, stored]
  dsimp only
  rw [shown, if_neg Bool.false_ne_true]
  cases embeds : field.embed? with
  | none => rfl
  | some embed =>
    have known : registry.contains embed.resource = true :=
      closed.related resource member key field embed.resource stored
        (Field.relatedResource?_of_embed?_eq_some embeds)
    exact if_pos known

theorem field_ne_missingReference (name : String) (kind : ReferenceKind) (id : String) :
    LayoutScope.field ⟨resource, registry, view⟩ name ≠ .error (.missingReference kind id) := by
  intro failed
  cases stored : resource.field? name with
  | none =>
    rw [LayoutScope.field, stored] at failed
    cases failed
  | some field =>
    cases omitted : field.omitted with
    | false =>
      rw [closed.field_eq_ok member view stored omitted] at failed
      cases failed
    | true =>
      rw [LayoutScope.field, stored] at failed
      dsimp only at failed
      rw [omitted, if_pos rfl] at failed
      cases failed

end Registry.Closed

/-! ### Layout trees -/

theorem ViewTrees.compile_get {registry : Registry} {declared : Option LayoutDeclaration}
    {resource : Resource} {trees : ViewTrees}
    (compiled : ViewTrees.compile registry declared resource = .ok trees) (view : View) :
    LayoutTree.compile resource view declared registry = .ok (trees.get view) := by
  obtain ⟨index, compiledIndex, compiled⟩ := Outcome.bind_eq_ok_iff.1 compiled
  obtain ⟨detail, compiledDetail, compiled⟩ := Outcome.bind_eq_ok_iff.1 compiled
  obtain ⟨form, compiledForm, same⟩ := Outcome.bind_eq_ok_iff.1 compiled
  cases same
  cases view with
  | index => exact compiledIndex
  | detail => exact compiledDetail
  | form => exact compiledForm

namespace AppSchema

/-- An application in which every name that leads to a resource is that of a registered one. -/
structure Closed (app : AppSchema) : Prop where
  registry : app.registry.Closed
  /-- Exactly the registered resources have trees, and they have one for every view. -/
  trees : ∀ name view, (app.layout? name view).isSome ↔ name ∈ app.registry.names
  /-- What a node of a field leads to is registered, however deep the node is. -/
  nodes : ∀ name view tree, app.layout? name view = some tree →
    ∀ node ∈ tree.root.nodes, ∀ target, node.config = .field (some target) →
      app.registry.contains target = true
  /-- No field of a registered resource that a layout asks for is a dangling embed. -/
  lookups : ∀ resource ∈ app.registry.resources, ∀ view name kind id,
    LayoutScope.field ⟨resource, app.registry, view⟩ name ≠ .error (.missingReference kind id)

end AppSchema

namespace AppDeclaration

variable {declaration : AppDeclaration} {registry : Registry}

/-- What is left of compiling where the naming rules are read. -/
theorem compile_eq_of_ofRules_eq_ok {backends : Backends} {policy : NamingPolicy}
    (ruled : NamingPolicy.ofRules declaration.namingRules = .ok policy) :
    declaration.compile backends =
      declaration.validate backends >>= fun _ =>
      Registry.build declaration.resources backends policy >>= fun registry =>
      declaration.validateLayouts registry >>= fun _ =>
      registry.resources.mapM (declaration.compileLayouts registry) >>= fun layouts =>
      .ok { registry, layouts } := by
  rw [compile, ruled]
  rfl

/-- Compiling lays out the views of the resources that are built under the policy of the
rules, in their order. -/
theorem exists_policy_of_compile_eq_ok {backends : Backends} {app : AppSchema}
    (compiled : declaration.compile backends = .ok app) :
    ∃ policy, NamingPolicy.ofRules declaration.namingRules = .ok policy ∧
      Registry.build declaration.resources backends policy = .ok app.registry ∧
      app.registry.resources.mapM (declaration.compileLayouts app.registry) = .ok app.layouts := by
  obtain ⟨_, _, compiled⟩ := Outcome.bind_eq_ok_iff.1 compiled
  obtain ⟨policy, ruled, compiled⟩ := Outcome.bind_eq_ok_iff.1 compiled
  obtain ⟨registry, built, compiled⟩ := Outcome.bind_eq_ok_iff.1 compiled
  obtain ⟨_, _, compiled⟩ := Outcome.bind_eq_ok_iff.1 compiled
  obtain ⟨layouts, laidOut, same⟩ := Outcome.bind_eq_ok_iff.1 compiled
  cases same
  exact ⟨policy, ruled, built, laidOut⟩

theorem exists_build_of_compile_eq_ok {backends : Backends} {app : AppSchema}
    (compiled : declaration.compile backends = .ok app) :
    (∃ policy, Registry.build declaration.resources backends policy = .ok app.registry) ∧
      app.registry.resources.mapM (declaration.compileLayouts app.registry) = .ok app.layouts := by
  obtain ⟨policy, _, built, laidOut⟩ := exists_policy_of_compile_eq_ok compiled
  exact ⟨⟨policy, built⟩, laidOut⟩

theorem names_of_layouts {layouts : List (String × ViewTrees)}
    (laidOut : registry.resources.mapM (declaration.compileLayouts registry) = .ok layouts) :
    layouts.map (·.1) = registry.names := by
  refine Outcome.map_eq_of_mapM_eq_ok ?_ laidOut
  intro resource entry compiled
  obtain ⟨trees, _, same⟩ := Outcome.map_eq_ok_iff.1 compiled
  exact same ▸ rfl

theorem exists_named_of_mem_layouts {layouts : List (String × ViewTrees)}
    (laidOut : registry.resources.mapM (declaration.compileLayouts registry) = .ok layouts)
    {entry : String × ViewTrees} (member : entry ∈ layouts) :
    ∃ resource ∈ registry.resources, resource.name = entry.1 ∧ ∀ view,
      LayoutTree.compile resource view (declaration.layout? resource.name) registry =
        .ok (entry.2.get view) := by
  obtain ⟨resource, isRegistered, compiled⟩ :=
    Outcome.exists_of_mem_of_mapM_eq_ok laidOut member
  obtain ⟨trees, compiledTrees, same⟩ := Outcome.map_eq_ok_iff.1 compiled
  subst same
  exact ⟨resource, isRegistered, rfl, ViewTrees.compile_get compiledTrees⟩

theorem exists_resource_of_mem_layouts {layouts : List (String × ViewTrees)}
    (laidOut : registry.resources.mapM (declaration.compileLayouts registry) = .ok layouts)
    {entry : String × ViewTrees} (member : entry ∈ layouts) (view : View) :
    ∃ resource ∈ registry.resources, ∃ declared,
      LayoutTree.compile resource view declared registry = .ok (entry.2.get view) := by
  obtain ⟨resource, isRegistered, _, compiled⟩ := exists_named_of_mem_layouts laidOut member
  exact ⟨resource, isRegistered, _, compiled view⟩

theorem layout?_isSome_iff {app : AppSchema}
    (names : app.layouts.map (·.1) = app.registry.names) (name : String) (view : View) :
    (app.layout? name view).isSome ↔ name ∈ app.registry.names := by
  rw [AppSchema.layout?, Option.isSome_map, List.find?_isSome, ← names, List.mem_map]
  simp only [decide_eq_true_eq]

/-- A compiled application is closed. -/
theorem closed_of_compile_eq_ok {backends : Backends} {app : AppSchema}
    (compiled : declaration.compile backends = .ok app) : app.Closed := by
  obtain ⟨⟨policy, built⟩, laidOut⟩ := exists_build_of_compile_eq_ok compiled
  have closed : app.registry.Closed := Registry.closed_of_build_eq_ok built
  constructor
  · exact closed
  · exact layout?_isSome_iff (names_of_layouts laidOut)
  · intro name view tree shown node member target leads
    obtain ⟨entry, found, same⟩ := Option.map_eq_some_iff.1 shown
    subst same
    obtain ⟨resource, isRegistered, declared, compiledTree⟩ :=
      exists_resource_of_mem_layouts laidOut (List.mem_of_find?_eq_some found) view
    obtain ⟨key, field, stored, related⟩ :=
      LayoutTree.showsFieldsOf_of_compile_eq_ok compiledTree node member _ leads
    exact closed.related resource isRegistered key field target stored related
  · exact fun _ isRegistered => closed.field_ne_missingReference isRegistered

/-- Posts with an author and with embedded metadata, which embed more. -/
def blogCatalog : SchemaCatalog where
  schemas := [
    { name := ⟨"Post"⟩
      fields := []
      associations := [
        { name := "meta", kind := .embedOne, destination := ⟨"Meta"⟩ },
        { name := "author", kind := .manyToOne, destination := ⟨"Author"⟩ }] },
    { name := ⟨"Meta"⟩
      fields := []
      associations := [{ name := "seo", kind := .embedOne, destination := ⟨"Seo"⟩ }] },
    { name := ⟨"Seo"⟩, fields := [{ name := "keywords", nativeType := "string" }] },
    { name := ⟨"Author"⟩, fields := [{ name := "name", nativeType := "string" }] }]

def blogBackends : Backends where
  simple := some blogCatalog

def blogDeclaration (name schema : String) : ResourceDeclaration :=
  { ResourceDeclaration.simple name schema none with routes := { only := some [] } }

def blog : AppDeclaration where
  resources := [blogDeclaration "post" "Post", blogDeclaration "author" "Author"]

def blogResource (name schema : String) : Resource :=
  .discover name (.simple blogCatalog) ⟨schema⟩ none (some (blogDeclaration name schema)) {} none

theorem synthesizeEmbeds_blogPost :
    (blogResource "post" "Post").synthesizeEmbeds {} =
      .ok [(blogResource "post" "Post").embedded {} ⟨"post", "post__meta", ⟨"Meta"⟩⟩,
        ((blogResource "post" "Post").embedded {} ⟨"post", "post__meta", ⟨"Meta"⟩⟩).embedded {}
          ⟨"post__meta", "post__meta__seo", ⟨"Seo"⟩⟩] := by
  generalize posts : blogResource "post" "Post" = post
  generalize metas : post.embedded {} ⟨"post", "post__meta", ⟨"Meta"⟩⟩ = metadata
  generalize seos : metadata.embedded {} ⟨"post__meta", "post__meta__seo", ⟨"Seo"⟩⟩ = seo
  have postEmbeds : post.embeds = [⟨"post", "post__meta", ⟨"Meta"⟩⟩] := by
    subst posts
    decide +kernel
  have metadataEmbeds : metadata.embeds = [⟨"post__meta", "post__meta__seo", ⟨"Seo"⟩⟩] := by
    subst metas posts
    decide +kernel
  have seoEmbeds : seo.embeds = [] := by
    subst seos metas posts
    decide +kernel
  have schema : post.schema = ⟨"Post"⟩ := posts ▸ rfl
  rw [Resource.synthesizeEmbeds, postEmbeds, schema, Resource.synthesize_cons_eq_ok_iff, metas,
    metadataEmbeds]
  refine ⟨by decide, [seo], [], ?_, Resource.synthesize_nil, rfl⟩
  rw [Resource.synthesize_cons_eq_ok_iff, seos, seoEmbeds]
  exact ⟨by decide, [], [], Resource.synthesize_nil, Resource.synthesize_nil, rfl⟩

theorem synthesizeEmbeds_blogAuthor :
    (blogResource "author" "Author").synthesizeEmbeds {} = .ok [] := by
  have embeds : (blogResource "author" "Author").embeds = [] := by decide +kernel
  rw [Resource.synthesizeEmbeds, embeds, Resource.synthesize_nil]

theorem register_eq_insertAll {backends : Backends} {policy : NamingPolicy}
    {resource : ResourceDeclaration} {root : Resource} {embedded : List Resource}
    (registry : Registry) (discovered : Registry.discover backends policy resource = .ok root)
    (descended : root.synthesizeEmbeds policy = .ok embedded) :
    Registry.register backends policy registry resource =
      registry.insertAll (root :: embedded) := by
  rw [Registry.register, discovered]
  change (root.synthesizeEmbeds policy >>= _) = _
  rw [descended]
  rfl

theorem register_blogPost (registry : Registry) :
    Registry.register blogBackends {} registry (blogDeclaration "post" "Post") =
      registry.insertAll [blogResource "post" "Post",
        (blogResource "post" "Post").embedded {} ⟨"post", "post__meta", ⟨"Meta"⟩⟩,
        ((blogResource "post" "Post").embedded {} ⟨"post", "post__meta", ⟨"Meta"⟩⟩).embedded {}
          ⟨"post__meta", "post__meta__seo", ⟨"Seo"⟩⟩] :=
  register_eq_insertAll registry rfl synthesizeEmbeds_blogPost

theorem register_blogAuthor (registry : Registry) :
    Registry.register blogBackends {} registry (blogDeclaration "author" "Author") =
      registry.insertAll [blogResource "author" "Author"] :=
  register_eq_insertAll registry rfl synthesizeEmbeds_blogAuthor

theorem names_compile_blog :
    (blog.compile blogBackends).toOption.map (·.registry.names) =
      some ["post", "post__meta", "post__meta__seo", "author"] := by
  have ruled : NamingPolicy.ofRules blog.namingRules = .ok {} := rfl
  rw [compile_eq_of_ofRules_eq_ok ruled, Registry.build]
  simp only [blog, List.foldlM_cons, List.foldlM_nil, register_blogPost, register_blogAuthor]
  decide +kernel

/-- The blog has its embedded resources right after the post that they are
part of, and it is closed. -/
theorem closed_blog : ∃ app, blog.compile blogBackends = .ok app ∧
    app.registry.names = ["post", "post__meta", "post__meta__seo", "author"] ∧ app.Closed := by
  have names := names_compile_blog
  cases compiled : blog.compile blogBackends with
  | error fault =>
    rw [compiled] at names
    cases names
  | ok app =>
    rw [compiled] at names
    exact ⟨app, rfl, Option.some.inj names, closed_of_compile_eq_ok compiled⟩

end AppDeclaration

end Backoffice
