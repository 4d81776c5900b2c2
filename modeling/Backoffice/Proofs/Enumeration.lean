import Backoffice.Proofs.Closedness
import Backoffice.Proofs.Operation.Enumeration
import Backoffice.Proofs.Resource.Links

/-!
Compiling with the entries of each map enumerated in some order: those of the overrides of a
resource, of the layouts by resource, and of the fields of a resource.

The order of the fields makes no difference. That of the overrides decides which of several keys of
one spelling gives an operation its name, which the checks do not rule out, and which of several
unknown keys is reported; that of the layouts decides which of several dangling ones is reported.
Nothing else depends on an order.
-/

namespace Backoffice

/-- An order for the entries of each map that compiling goes through. -/
structure Enumeration where
  operations : ResourceDeclaration → Table (Option String)
  layouts : AppDeclaration → List LayoutDeclaration
  fields : Resource → List (String × Field)
  operationsComplete : ∀ resource, (operations resource).Perm resource.operations
  layoutsComplete : ∀ declaration, (layouts declaration).Perm declaration.layouts
  fieldsComplete : ∀ resource, (fields resource).Perm resource.fields

namespace Enumeration

/-- The order in which the entries are stored. -/
def listed : Enumeration where
  operations := (·.operations)
  layouts := (·.layouts)
  fields := (·.fields)
  operationsComplete _ := .refl _
  layoutsComplete _ := .refl _
  fieldsComplete _ := .refl _

def reversed : Enumeration where
  operations := (·.operations.reverse)
  layouts := (·.layouts.reverse)
  fields := (·.fields.reverse)
  operationsComplete _ := List.reverse_perm _
  layoutsComplete _ := List.reverse_perm _
  fieldsComplete _ := List.reverse_perm _

def arrange (enumeration : Enumeration) (resource : ResourceDeclaration) : ResourceDeclaration :=
  { resource with operations := enumeration.operations resource }

end Enumeration

/-- The registry of some declarations, linked with the fields of each
resource listed in some order. -/
def Registry.buildListed (declarations : List ResourceDeclaration) (backends : Backends)
    (policy : NamingPolicy) (listed : Resource → List (String × Field)) :
    Except Error Registry := do
  let registry ← declarations.foldlM (register backends policy) {}
  declarations.foldlM attach (registry.linkListed listed)

namespace AppDeclaration

def arrange (declaration : AppDeclaration) (enumeration : Enumeration) : AppDeclaration :=
  { declaration with resources := declaration.resources.map enumeration.arrange }

/-- What compiling makes of a declaration, with the entries of each map in the
order of an enumeration. -/
def compileIn (declaration : AppDeclaration) (enumeration : Enumeration) (backends : Backends) :
    Except Error AppSchema := do
  (declaration.arrange enumeration).validate backends
  let policy ← NamingPolicy.ofRules declaration.namingRules
  let registry ← Registry.buildListed (declaration.arrange enumeration).resources backends policy
    enumeration.fields
  validateLayouts { declaration with layouts := enumeration.layouts declaration } registry
  let layouts ← registry.resources.mapM (declaration.compileLayouts registry)
  .ok { registry, layouts }

end AppDeclaration

/-! ### Building -/

instance (overrides : OperationOverrides) (op : LogicalOp) : Decidable (overrides.Determined op) :=
  inferInstanceAs
    (Decidable (∀ entry ∈ overrides.deciding op, ∀ other ∈ overrides.deciding op,
      entry.2 = other.2))

/-- Whether the name of no operation of a resource depends on the order of its overrides. -/
def ResourceDeclaration.Determined (resource : ResourceDeclaration) : Prop :=
  ∀ op, (OperationOverrides.ofDeclaration resource).Determined op

namespace Enumeration

variable {enumeration : Enumeration} {backends : Backends} {policy : NamingPolicy}
  {registry : Registry} {declarations : List ResourceDeclaration}
  {declaration : ResourceDeclaration}

theorem register_arrange (registry : Registry) (declaration : ResourceDeclaration) :
    Registry.register backends policy registry (enumeration.arrange declaration) =
      Registry.register backends policy registry declaration :=
  rfl

theorem withOperations_arrange (determined : declaration.Determined) (resource : Resource) :
    resource.withOperations (enumeration.arrange declaration) =
      resource.withOperations declaration := by
  have reordered : (OperationOverrides.ofDeclaration declaration).names.Perm
      (OperationOverrides.ofDeclaration (enumeration.arrange declaration)).names :=
    (enumeration.operationsComplete declaration).symm
  have sameNames (op : LogicalOp) :
      (OperationOverrides.ofDeclaration declaration).nameFor op =
        (OperationOverrides.ofDeclaration (enumeration.arrange declaration)).nameFor op :=
    OperationOverrides.nameFor_eq_of_perm reordered (determined op)
  have sameNew : (OperationOverrides.ofDeclaration declaration).newEntity =
      (OperationOverrides.ofDeclaration (enumeration.arrange declaration)).newEntity := rfl
  have sameRoutes : (enumeration.arrange declaration).routes = declaration.routes := rfl
  rw [Resource.withOperations, Resource.withOperations]
  simp only [sameRoutes, ← OperationOverrides.requiredOps_eq_of_perm reordered sameNew,
    ← OperationScope.resolve_congr sameNames sameNew]

theorem attach_arrange (determined : declaration.Determined) (registry : Registry) :
    registry.attach (enumeration.arrange declaration) = registry.attach declaration := by
  have sameName : (enumeration.arrange declaration).name = declaration.name := rfl
  rw [Registry.attach, Registry.attach]
  simp only [sameName, withOperations_arrange determined]

theorem attachAll_arrange (determined : ∀ declaration ∈ declarations, declaration.Determined) :
    (declarations.map enumeration.arrange).foldlM Registry.attach registry =
      declarations.foldlM Registry.attach registry := by
  induction declarations generalizing registry with
  | nil => rfl
  | cons declaration rest inductionHypothesis =>
    rw [List.forall_mem_cons] at determined
    rw [List.map_cons, List.foldlM_cons, List.foldlM_cons, attach_arrange determined.1]
    cases registry.attach declaration with
    | error fault => rfl
    | ok next => exact inductionHypothesis determined.2

/-- In every order of the overrides the same registry is built, where no
name depends on the order. -/
theorem build_arrange (determined : ∀ declaration ∈ declarations, declaration.Determined) :
    Registry.build (declarations.map enumeration.arrange) backends policy =
      Registry.build declarations backends policy := by
  rw [Registry.build, Registry.build, List.foldlM_map]
  simp only [register_arrange, attachAll_arrange determined]

end Enumeration

/-- The order in which fields are listed makes no difference to a registry. -/
theorem Registry.buildListed_eq_build {declarations : List ResourceDeclaration}
    {backends : Backends} {policy : NamingPolicy} {listed : Resource → List (String × Field)}
    (complete : ∀ resource, (listed resource).Perm resource.fields) :
    buildListed declarations backends policy listed = build declarations backends policy := by
  rw [buildListed, build]
  cases registering : declarations.foldlM (register backends policy) {} with
  | error fault => rfl
  | ok registered =>
    have linked : registered.linkListed listed = registered.link := by
      apply linkListed_eq_link
      · exact (sound_of_registering registering).nodup
      · exact fun resource member => (discovered_of_registering registering resource member).tabled
      · exact fun resource _ => complete resource
    change declarations.foldlM attach (registered.linkListed listed) = _
    rw [linked]
    rfl

/-! ### Faults -/

/-- Whether two faults are the same but for which of several faulty entries of one map they name:
keys of a resource that stand for no operation, or layouts for resources that are not registered. -/
inductive Error.Beside (declaration : AppDeclaration) (backends : Backends) :
    Error → Error → Prop where
  | keys {resource entry other} :
      resource ∈ declaration.resources → entry ∈ resource.operations → other ∈ resource.operations →
      LogicalOp.ofOverrideKey? entry.1 = none → LogicalOp.ofOverrideKey? other.1 = none →
      entry.1 ≠ other.1 →
      Beside declaration backends (.validation (.unknownOperationKey resource.name entry.1))
        (.validation (.unknownOperationKey resource.name other.1))
  | layouts {policy registry layout other} :
      NamingPolicy.ofRules declaration.namingRules = .ok policy →
      Registry.build declaration.resources backends policy = .ok registry →
      layout ∈ declaration.layouts → other ∈ declaration.layouts →
      layout.resource ∉ registry.names → other.resource ∉ registry.names →
      layout.resource ≠ other.resource →
      Beside declaration backends (.missingReference .resource layout.resource)
        (.missingReference .resource other.resource)

/-- Whether two outcomes are the same, or fail beside each other. -/
def AppDeclaration.Agree {Value : Type} (declaration : AppDeclaration) (backends : Backends)
    (first second : Except Error Value) : Prop :=
  first = second ∨ ∃ fault other, fault.Beside declaration backends other ∧ first = .error fault ∧
    second = .error other

namespace AppDeclaration

variable {declaration : AppDeclaration} {backends : Backends} {Value Other : Type}

theorem Agree.bind {first second : Except Error Value} {next further : Value → Except Error Other}
    (agree : declaration.Agree backends first second)
    (agreeNext : ∀ value, first = .ok value →
      declaration.Agree backends (next value) (further value)) :
    declaration.Agree backends (first >>= next) (second >>= further) := by
  rcases agree with same | ⟨fault, other, beside, failed, failedToo⟩
  · subst same
    cases first with
    | error fault => exact .inl rfl
    | ok value => exact agreeNext value rfl
  · subst failed failedToo
    exact .inr ⟨fault, other, beside, rfl, rfl⟩

variable (first second : Enumeration)

theorem agree_validateOperations {resource : ResourceDeclaration}
    (declared : resource ∈ declaration.resources) :
    declaration.Agree backends (first.arrange resource).validateOperations
      (second.arrange resource).validateOperations := by
  have perm : (first.arrange resource).operations.Perm (second.arrange resource).operations :=
    (first.operationsComplete resource).trans (second.operationsComplete resource).symm
  have own {entry : String × Option String} (member : entry ∈ (first.arrange resource).operations) :
      entry ∈ resource.operations :=
    (first.operationsComplete resource).mem_iff.1 member
  rw [ResourceDeclaration.validateOperations, ResourceDeclaration.validateOperations]
  rcases find?_of_perm _ perm with
    ⟨found, foundToo⟩ | ⟨entry, member, other, memberToo, unknown, unknownToo, found, foundToo⟩
  · rw [found, foundToo]
    exact .inl rfl
  · rw [found, foundToo]
    rw [Option.isNone_iff_eq_none] at unknown unknownToo
    by_cases same : entry.1 = other.1
    · refine .inl ?_
      change Except.error (Error.validation (.unknownOperationKey resource.name entry.1)) =
        .error (.validation (.unknownOperationKey resource.name other.1))
      rw [same]
    · exact .inr ⟨_, _, .keys declared (own member) (own memberToo) unknown unknownToo same,
        rfl, rfl⟩

theorem agree_validateAll (resources : List ResourceDeclaration) (earlier : List String)
    (declared : ∀ resource ∈ resources, resource ∈ declaration.resources) :
    declaration.Agree backends
      (ResourceDeclaration.validateAll backends earlier (resources.map first.arrange))
      (ResourceDeclaration.validateAll backends earlier (resources.map second.arrange)) := by
  induction resources generalizing earlier with
  | nil => exact .inl rfl
  | cons resource rest inductionHypothesis =>
    rw [List.forall_mem_cons] at declared
    refine .bind ?_ fun _ _ => inductionHypothesis _ declared.2
    -- The checks before that on overrides do not look at them.
    refine .bind (.inl rfl) fun _ _ => .bind (.inl rfl) fun _ _ => .bind (.inl rfl) fun _ _ => ?_
    exact agree_validateOperations first second declared.1

theorem agree_validate : declaration.Agree backends ((declaration.arrange first).validate backends)
    ((declaration.arrange second).validate backends) := by
  have sameNames (enumeration : Enumeration) :
      (declaration.arrange enumeration).resourceNames = declaration.resourceNames := by
    rw [resourceNames, arrange, List.map_map]
    rfl
  rw [validate, validate, sameNames, sameNames]
  refine .bind ?_ fun _ _ => .inl rfl
  exact agree_validateAll first second declaration.resources [] fun _ member => member

theorem agree_validateLayouts {policy : NamingPolicy} {registry : Registry}
    (ruled : NamingPolicy.ofRules declaration.namingRules = .ok policy)
    (built : Registry.build declaration.resources backends policy = .ok registry) :
    declaration.Agree backends
      (validateLayouts { declaration with layouts := first.layouts declaration } registry)
      (validateLayouts { declaration with layouts := second.layouts declaration } registry) := by
  have perm : (first.layouts declaration).Perm (second.layouts declaration) :=
    (first.layoutsComplete declaration).trans (second.layoutsComplete declaration).symm
  have own {layout : LayoutDeclaration} (member : layout ∈ first.layouts declaration) :
      layout ∈ declaration.layouts :=
    (first.layoutsComplete declaration).mem_iff.1 member
  have absent {layout : LayoutDeclaration} (unknown : (!registry.contains layout.resource) = true) :
      layout.resource ∉ registry.names := by
    simpa [Registry.contains] using unknown
  rw [validateLayouts, validateLayouts]
  dsimp only
  rcases find?_of_perm _ perm with
    ⟨found, foundToo⟩ | ⟨layout, member, other, memberToo, unknown, unknownToo, found, foundToo⟩
  · rw [found, foundToo]
    exact .inl rfl
  · rw [found, foundToo]
    by_cases same : layout.resource = other.resource
    · refine .inl ?_
      dsimp only
      rw [same]
    · exact .inr ⟨_, _,
        .layouts ruled built (own member) (own memberToo) (absent unknown) (absent unknownToo) same,
        rfl, rfl⟩

/-! ### Compiling -/

theorem compileIn_eq_of_ofRules_eq_ok {enumeration : Enumeration} {policy : NamingPolicy}
    (ruled : NamingPolicy.ofRules declaration.namingRules = .ok policy) :
    declaration.compileIn enumeration backends =
      (declaration.arrange enumeration).validate backends >>= fun _ =>
      Registry.buildListed (declaration.arrange enumeration).resources backends policy
        enumeration.fields >>= fun registry =>
      validateLayouts { declaration with layouts := enumeration.layouts declaration }
        registry >>= fun _ =>
      registry.resources.mapM (declaration.compileLayouts registry) >>= fun layouts =>
      .ok { registry, layouts } := by
  rw [compileIn, ruled]
  rfl

theorem compileIn_listed :
    declaration.compileIn .listed backends = declaration.compile backends := by
  have sameResources : declaration.resources.map Enumeration.listed.arrange =
      declaration.resources :=
    List.map_id _
  have same : declaration.arrange .listed = declaration := by
    rw [arrange, sameResources]
  rw [compileIn, same, compile]
  simp only [Registry.buildListed_eq_build Enumeration.listed.fieldsComplete]
  rfl

theorem agree_compileIn (determined : ∀ resource ∈ declaration.resources, resource.Determined) :
    declaration.Agree backends (declaration.compileIn first backends)
      (declaration.compileIn second backends) := by
  have built (enumeration : Enumeration) (policy : NamingPolicy) :
      Registry.buildListed (declaration.arrange enumeration).resources backends policy
        enumeration.fields =
        Registry.build declaration.resources backends policy := by
    rw [Registry.buildListed_eq_build enumeration.fieldsComplete]
    exact Enumeration.build_arrange determined
  rw [compileIn, compileIn]
  refine .bind (agree_validate first second) fun _ _ => .bind (.inl rfl) fun policy ruled => ?_
  rw [built, built]
  refine .bind (.inl rfl) fun registry succeeded => ?_
  exact .bind (agree_validateLayouts first second ruled succeeded) fun _ _ => .inl rfl

/-- Compiling does not depend on the order in which the entries of maps are enumerated, as far
as the overrides do not leave the name of an operation to that order: all orders lead to the
same application, or to the same fault, or to faults that name different ones of several
faulty entries of one map. -/
theorem compileIn_any_order (declaration : AppDeclaration) (backends : Backends) :
    declaration.compileIn .listed backends = declaration.compile backends ∧
      (∀ resource : ResourceDeclaration, resource.Determined ↔
        ∀ listed, listed.Perm resource.operations → ∀ op,
          (OperationOverrides.ofDeclaration { resource with operations := listed }).nameFor op =
            (OperationOverrides.ofDeclaration resource).nameFor op) ∧
      ((∀ resource ∈ declaration.resources, resource.Determined) → ∀ first second,
        declaration.Agree backends (declaration.compileIn first backends)
          (declaration.compileIn second backends)) := by
  refine ⟨compileIn_listed, ?_,
    fun determined first second => agree_compileIn first second determined⟩
  intro resource
  constructor
  · intro determined listed perm op
    exact OperationOverrides.determined_iff.1 (determined op) listed perm
  · intro same op
    exact OperationOverrides.determined_iff.2 fun listed perm => same listed perm op

/-- Events, which can be listed in two ways. -/
def agendaCatalog : SchemaCatalog where
  schemas := [{ name := ⟨"Event"⟩, fields := [{ name := "title", nativeType := "string" }] }]
  contexts := [
    { name := ⟨"Agenda"⟩
      functions :=
        [{ name := "list_events", arity := 1 }, { name := "upcoming_events", arity := 1 }] }]

def agendaBackends : Backends where
  simple := some agendaCatalog

/-- Events whose listing is overridden under one key in two spellings. -/
def eventDeclaration (camel snake : String) : ResourceDeclaration :=
  { ResourceDeclaration.simple "event" "Event" (some "Agenda") with
    routes := { only := some [.index] }
    operations := [("listFunction", some camel), ("list_function", some snake)] }

def agenda (camel snake : String) : AppDeclaration where
  resources := [eventDeclaration camel snake]

theorem determined_event : (eventDeclaration "list_events" "list_events").Determined := by
  have all : ∀ op ∈ LogicalOp.all,
      (OperationOverrides.ofDeclaration
        (eventDeclaration "list_events" "list_events")).Determined op := by
    decide +kernel
  exact fun op => all op (LogicalOp.mem_all op)

/-- Two spellings of one key make no difference where they carry one name. -/
theorem compileIn_agenda :
    (∀ resource ∈ (agenda "list_events" "list_events").resources, resource.Determined) ∧
      ∀ first second, (agenda "list_events" "list_events").compileIn first agendaBackends =
        (agenda "list_events" "list_events").compileIn second agendaBackends := by
  have determined : ∀ resource ∈ (agenda "list_events" "list_events").resources,
      resource.Determined := by
    intro resource member
    rw [List.mem_singleton.1 member]
    exact determined_event
  refine ⟨determined, ?_⟩
  intro first second
  rcases (compileIn_any_order _ agendaBackends).2.2 determined first second
    with same | ⟨_, _, beside, _⟩
  · exact same
  · cases beside with
    | keys declared member _ unknown _ _ =>
      rw [List.mem_singleton.1 declared] at member
      have known : ∀ entry ∈ (eventDeclaration "list_events" "list_events").operations,
          LogicalOp.ofOverrideKey? entry.1 ≠ none := by decide +kernel
      exact absurd unknown (known _ member)
    | layouts _ _ member _ _ _ _ => cases member

def listing? (app : AppSchema) : Option String :=
  app.registry.resources.head?.bind fun resource =>
    (resource.operation? .list).bind fun reference => reference.action?.map (·.name)

def eventResource (camel snake : String) : Resource :=
  .discover "event" (.simple agendaCatalog) ⟨"Event"⟩ (some ⟨"Agenda"⟩)
    (some (eventDeclaration camel snake)) {} none

theorem listing?_agenda :
    ((agenda "list_events" "upcoming_events").compileIn .listed agendaBackends).toOption.map
      listing? =
        some (some "list_events") ∧
      ((agenda "list_events" "upcoming_events").compileIn .reversed agendaBackends).toOption.map
        listing? =
        some (some "upcoming_events") := by
  have noEmbeds : (eventResource "list_events" "upcoming_events").synthesizeEmbeds {} = .ok [] := by
    have none : (eventResource "list_events" "upcoming_events").embeds = [] := by decide +kernel
    rw [Resource.synthesizeEmbeds, none, Resource.synthesize_nil]
  have events (enumeration : Enumeration) (registry : Registry) :
      Registry.register agendaBackends {} registry
        (enumeration.arrange (eventDeclaration "list_events" "upcoming_events")) =
          registry.insertAll [eventResource "list_events" "upcoming_events"] :=
    register_eq_insertAll registry rfl noEmbeds
  have ruled : NamingPolicy.ofRules (agenda "list_events" "upcoming_events").namingRules = .ok {} :=
    rfl
  constructor
  · rw [compileIn_eq_of_ofRules_eq_ok ruled, Registry.buildListed]
    simp only [arrange, agenda, List.map_cons, List.map_nil, List.foldlM_cons,
      List.foldlM_nil, events]
    decide +kernel
  · rw [compileIn_eq_of_ofRules_eq_ok ruled, Registry.buildListed]
    simp only [arrange, agenda, List.map_cons, List.map_nil, List.foldlM_cons,
      List.foldlM_nil, events]
    decide +kernel

/-- The checks accept two spellings of one key with two names, and the order of the overrides
decides which of these functions lists the entities. -/
theorem compileIn_ne_agenda :
    (agenda "list_events" "upcoming_events").validate agendaBackends = .ok () ∧
      (agenda "list_events" "upcoming_events").compileIn .listed agendaBackends ≠
        (agenda "list_events" "upcoming_events").compileIn .reversed agendaBackends ∧
      (OperationOverrides.ofDeclaration
        (eventDeclaration "list_events" "upcoming_events")).nameFor .list ≠
        (OperationOverrides.ofDeclaration (Enumeration.reversed.arrange
          (eventDeclaration "list_events" "upcoming_events"))).nameFor .list := by
  refine ⟨by decide +kernel, ?_, by decide +kernel⟩
  intro same
  obtain ⟨first, second⟩ := listing?_agenda
  rw [same, second] at first
  exact absurd (Option.some.inj (Option.some.inj first)) (by decide)

end AppDeclaration

end Backoffice
