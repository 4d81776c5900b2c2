import Backoffice.Proofs.Operation.Overrides
import Backoffice.Proofs.Operation.Resolution
import Backoffice.Proofs.Table

/-!
Which of the actions of a resource an operation is resolved to, in a catalog of typed actions
where no name overrides it.

The actions that will do are those of the kind of the operation that the domain of the scope
exposes, and for pages those that return pages. The first primary one of them counts, else the
first one. So actions that are declared after the others make no difference to what has been found
before, unless they are primary.
-/

namespace Backoffice

/-! ### What a domain exposes -/

/-- Whether an action of a resource is exposed: everywhere where no domain is asked, by an interface
that names it, or by a domain that lists the resource and has no interface for it. -/
inductive Domain.Exposing (domains : List Domain) (resource : SchemaName) :
    Option ContextName → String → Prop where
  | anywhere {action : String} : Exposing domains resource none action
  | byInterface {domain : Domain} {interface : Interface} : domain ∈ domains →
    interface ∈ domain.interfaces →
      interface.resource = resource → Exposing domains resource (some domain.name) interface.action
  | byListing {domain : Domain} {action : String} : domain ∈ domains → resource ∈ domain.resources →
      (∀ interface ∈ domain.interfaces, interface.resource ≠ resource) →
      Exposing domains resource (some domain.name) action

namespace Domain

variable {domains : List Domain} {domain : Domain} {resource : SchemaName} {name : ContextName}
  {action : String}

theorem exposes_iff : domain.exposes resource action = true ↔
    (∃ interface ∈ domain.interfaces, interface.resource = resource ∧ interface.action = action) ∨
      (resource ∈ domain.resources ∧
        ∀ interface ∈ domain.interfaces, interface.resource ≠ resource) := by
  rw [exposes]
  split
  · next none =>
    have others : ∀ interface ∈ domain.interfaces, interface.resource ≠ resource := by
      simpa [List.filter_eq_nil_iff] using none
    rw [List.contains_iff_mem]
    constructor
    · exact fun listed => .inr ⟨listed, others⟩
    · rintro (⟨interface, member, own, _⟩ | ⟨listed, _⟩)
      · exact absurd own (others interface member)
      · exact listed
  · next interfaces some =>
    obtain ⟨first, isFirst⟩ := List.exists_mem_of_ne_nil _ some
    obtain ⟨member, own⟩ := List.mem_filter.1 isFirst
    simp only [List.any_filter, List.any_eq_true, Bool.and_eq_true, decide_eq_true_eq]
    constructor
    · exact .inl
    · rintro (named | ⟨_, others⟩)
      · exact named
      · exact absurd (of_decide_eq_true own) (others first member)

theorem exposing_some_iff : Exposing domains resource (some name) action ↔
    ∃ domain ∈ domains, domain.name = name ∧ domain.exposes resource action = true := by
  simp only [exposes_iff]
  constructor
  · rintro (_ | ⟨member, isInterface, own⟩ | ⟨member, listed, others⟩)
    · exact ⟨_, member, rfl, .inl ⟨_, isInterface, own, rfl⟩⟩
    · exact ⟨_, member, rfl, .inr ⟨listed, others⟩⟩
  · rintro ⟨domain, member, rfl, ⟨interface, isInterface, own, rfl⟩ | ⟨listed, others⟩⟩
    · exact .byInterface member isInterface own
    · exact .byListing member listed others

instance : (within : Option ContextName) → Decidable (Exposing domains resource within action)
  | none => .isTrue .anywhere
  | some _ => decidable_of_iff _ exposing_some_iff.symm

end Domain

/-! ### What an operation chooses from -/

namespace OperationScope

structure Suits (scope : OperationScope) (domains : List Domain) (op : LogicalOp)
    (action : Action) : Prop where
  kind : op.actionKind? = some action.kind
  exposed : Domain.Exposing domains scope.schema scope.context action.name
  pages : op = .listPaginated → action.pagination.isEnabled = true

instance (scope : OperationScope) (domains : List Domain) (op : LogicalOp) (action : Action) :
    Decidable (scope.Suits domains op action) :=
  decidable_of_iff
    (op.actionKind? = some action.kind ∧
      Domain.Exposing domains scope.schema scope.context action.name ∧
      (op = .listPaginated → action.pagination.isEnabled = true))
    ⟨fun ⟨kind, exposed, pages⟩ => ⟨kind, exposed, pages⟩,
      fun ⟨kind, exposed, pages⟩ => ⟨kind, exposed, pages⟩⟩

def suitable (scope : OperationScope) (catalog : ActionCatalog) (op : LogicalOp) : List Action :=
  ((catalog.resources.filter (·.name = scope.schema)).flatMap (·.actions)).filter
    (scope.Suits catalog.domains op)

/-- The action that counts among some: the first primary one, or the first
one if none is primary. -/
inductive Counts : List Action → Action → Prop where
  | primary {before after : List Action} {action : Action} :
    (∀ earlier ∈ before, earlier.primary = false) →
      action.primary = true → Counts (before ++ action :: after) action
  | first {action : Action} {rest : List Action} :
    (∀ other ∈ action :: rest, other.primary = false) →
      Counts (action :: rest) action

section Choice

variable {actions more : List Action} {action : Action}

theorem choose?_eq_some_iff : choose? actions = some action ↔ Counts actions action := by
  constructor
  · intro chosen
    rw [choose?, Option.or_eq_some_iff] at chosen
    rcases chosen with primary | ⟨none, isFirst⟩
    · obtain ⟨isPrimary, before, after, split, others⟩ := List.find?_eq_some_iff_append.1 primary
      subst split
      exact .primary (by simpa using others) isPrimary
    · obtain ⟨rest, split⟩ := List.head?_eq_some_iff.1 isFirst
      subst split
      exact .first (by simpa using none)
  · intro counts
    cases counts with
    | @primary before after _ others isPrimary =>
      have found : (before ++ action :: after).find? (·.primary) = some action :=
        List.find?_eq_some_iff_append.2 ⟨isPrimary, before, after, rfl, by simpa using others⟩
      rw [choose?, found, Option.some_or]
    | first others => rw [choose?_eq_head? others, List.head?_cons]

theorem Counts.append (counts : Counts actions action)
    (plain : ∀ other ∈ more, other.primary = false) :
    Counts (actions ++ more) action := by
  cases counts with
  | primary others isPrimary =>
    rw [List.append_assoc]
    exact .primary others isPrimary
  | first others => exact .first (List.forall_mem_append.2 ⟨others, plain⟩)

end Choice

end OperationScope

/-! ### Catalogs without repeated names -/

namespace ActionCatalog

variable {catalog : ActionCatalog} {schema : SchemaName} {within : Option ContextName}
  {kind : ActionKind} {more : List Action}

theorem not_exposing_of_domain?_eq_none {name : ContextName} {action : String}
    (unknown : catalog.domain? name = none) :
    ¬ Domain.Exposing catalog.domains schema (some name) action := by
  intro exposing
  obtain ⟨domain, member, named, _⟩ := Domain.exposing_some_iff.1 exposing
  exact List.find?_eq_none.1 unknown domain member (decide_eq_true named)

theorem exposing_iff_of_domain?_eq_some (distinct : (catalog.domains.map (·.name)).Nodup)
    {name : ContextName} {domain : Domain} (found : catalog.domain? name = some domain)
    {action : String} :
    Domain.Exposing catalog.domains schema (some name) action ↔
      domain.exposes schema action = true := by
  rw [Domain.exposing_some_iff]
  constructor
  · rintro ⟨other, isOther, named, exposes⟩
    subst named
    cases found.symm.trans (find?_key_eq_some distinct isOther)
    exact exposes
  · intro exposes
    exact ⟨domain, List.mem_of_find?_eq_some found, by simpa using List.find?_some found, exposes⟩

def declareAfter (catalog : ActionCatalog) (schema : SchemaName) (more : List Action) :
    ActionCatalog :=
  { catalog with resources := catalog.resources.map fun resource =>
      if resource.name = schema then { resource with actions := resource.actions ++ more }
      else resource }

theorem map_name_declareAfter :
    (catalog.declareAfter schema more).resources.map (·.name) = catalog.resources.map (·.name) := by
  rw [declareAfter, List.map_map]
  apply List.map_congr_left
  intro resource _
  rw [Function.comp_apply]
  split <;> rfl

theorem filter_declareAfter :
    (catalog.declareAfter schema more).resources.filter (·.name = schema) =
    (catalog.resources.filter (·.name = schema)).map fun resource =>
      { resource with actions := resource.actions ++ more } := by
  rw [declareAfter]
  generalize catalog.resources = resources
  induction resources with
  | nil => rfl
  | cons resource rest inductionHypothesis =>
    by_cases own : resource.name = schema
    · simp only [List.map_cons, List.filter_cons, own, decide_true, if_true, inductionHypothesis]
    · simp only [List.map_cons, List.filter_cons, own, decide_false, Bool.false_eq_true, if_false,
        inductionHypothesis]

section Distinct

variable (distinct : (catalog.resources.map (·.name)).Nodup)

include distinct

theorem filter_name_eq_toList_resource? :
    catalog.resources.filter (·.name = schema) = (catalog.resource? schema).toList := by
  have found : catalog.resource? schema = catalog.resources.find? (·.name = schema) :=
    (find?_key_eq_of_perm (List.reverse_perm _).symm distinct schema).symm
  rw [found]
  exact filter_key_eq_toList_find? distinct schema

theorem actions_eq_filter (distinctDomains : (catalog.domains.map (·.name)).Nodup) :
    catalog.actions schema within kind =
      ((catalog.resources.filter (·.name = schema)).flatMap (·.actions)).filter fun action =>
        action.kind = kind ∧ Domain.Exposing catalog.domains schema within action.name := by
  rw [filter_name_eq_toList_resource? distinct, actions]
  cases catalog.resource? schema with
  | none => rfl
  | some found =>
    simp only [Option.toList_some, List.flatMap_singleton]
    cases within with
    | none =>
      apply List.filter_congr
      intro action _
      simp only [Domain.Exposing.anywhere, and_true]
    | some name =>
      dsimp only
      cases isDomain : catalog.domain? name with
      | none =>
        symm
        rw [List.filter_eq_nil_iff]
        intro action _ both
        exact not_exposing_of_domain?_eq_none isDomain (of_decide_eq_true both).2
      | some domain =>
        dsimp only
        rw [List.filter_filter]
        apply List.filter_congr
        intro action _
        simp only [exposing_iff_of_domain?_eq_some distinctDomains isDomain, Bool.decide_and,
          Bool.decide_eq_true, Bool.and_comm]

theorem flatMap_actions_declareAfter {found : ActionResource}
    (isResource : catalog.resource? schema = some found) :
    ((catalog.declareAfter schema more).resources.filter (·.name = schema)).flatMap (·.actions) =
      (catalog.resources.filter (·.name = schema)).flatMap (·.actions) ++ more := by
  rw [filter_declareAfter, filter_name_eq_toList_resource? distinct, isResource]
  simp

end Distinct

end ActionCatalog

/-! ### Resolving without an override -/

namespace OperationScope

variable {scope : OperationScope} {catalog : ActionCatalog} {op : LogicalOp} {kind : ActionKind}
  {overrides : OperationOverrides}

def searchedAny (op : LogicalOp) (kind : ActionKind) : String :=
  if op = .listPaginated then "any paginated " ++ kind.name ++ " action"
    else "any " ++ kind.name ++ " action"

theorem suits_iff {domains : List Domain} (acts : op.actionKind? = some kind) {action : Action} :
    scope.Suits domains op action ↔
      (action.kind = kind ∧ Domain.Exposing domains scope.schema scope.context action.name) ∧
        (op = .listPaginated → action.pagination.isEnabled = true) := by
  constructor
  · rintro ⟨ofKind, exposed, pages⟩
    rw [acts, Option.some_inj] at ofKind
    exact ⟨⟨ofKind.symm, exposed⟩, pages⟩
  · rintro ⟨⟨ofKind, exposed⟩, pages⟩
    exact ⟨ofKind ▸ acts, exposed, pages⟩

theorem fitting_wanted_eq_suitable (distinct : (catalog.resources.map (·.name)).Nodup)
    (distinctDomains : (catalog.domains.map (·.name)).Nodup) (acts : op.actionKind? = some kind)
    (free : (overrides.nameFor op).join = none) :
    fitting op (scope.wanted (.declarative catalog) op kind overrides) =
      scope.suitable catalog op := by
  have all : scope.wanted (.declarative catalog) op kind overrides =
      catalog.actions scope.schema scope.context kind := by
    rw [wanted, free]
    rfl
  rw [all, ActionCatalog.actions_eq_filter distinct distinctDomains, suitable, fitting]
  split
  · next paged =>
    rw [List.filter_filter]
    apply List.filter_congr
    intro action _
    rw [Bool.eq_iff_iff, decide_eq_true_iff, suits_iff acts]
    simp [paged, and_comm]
  · next plain =>
    apply List.filter_congr
    intro action _
    rw [decide_eq_decide, suits_iff acts]
    simp only [plain, false_implies, and_true]

theorem counts_suitable_declareAfter (distinct : (catalog.resources.map (·.name)).Nodup)
    {more : List Action} (plain : ∀ action ∈ more, action.primary = false) {action : Action}
    (counts : Counts (scope.suitable catalog op) action) :
    Counts (scope.suitable (catalog.declareAfter scope.schema more) op) action := by
  cases isResource : catalog.resource? scope.schema with
  | none =>
    -- Nothing counts among the actions of a resource that there is not.
    rw [suitable, ActionCatalog.filter_name_eq_toList_resource? distinct, isResource] at counts
    have chosen := mem_of_choose?_eq_some (choose?_eq_some_iff.2 counts)
    cases chosen
  | some found =>
    rw [suitable, ActionCatalog.flatMap_actions_declareAfter distinct isResource,
      List.filter_append]
    exact counts.append fun other member => plain other (List.mem_of_mem_filter member)

def actionReference (scope : OperationScope) (op : LogicalOp) (action : Action) :
    OperationReference :=
  ⟨op, scope.resource, .declarativeAction, scope.schema, scope.context, .action action⟩

variable (scope)

theorem resolve_eq_ok_iff_counts (distinct : (catalog.resources.map (·.name)).Nodup)
    (distinctDomains : (catalog.domains.map (·.name)).Nodup) (acts : op.actionKind? = some kind)
    (free : (overrides.nameFor op).join = none) (reference : OperationReference) :
    scope.resolve (.declarative catalog) op overrides = .ok reference ↔
      ∃ action, Counts (scope.suitable catalog op) action ∧
      reference = scope.actionReference op action := by
  rw [resolve_eq_ok_iff_of_kind acts]
  simp only [resolveAction_of_standIn?_eq_none (standIn?_eq_none free),
    fitting_wanted_eq_suitable distinct distinctDomains acts free, choose?_eq_some_iff]
  rfl

theorem resolve_of_suitable_eq_nil (distinct : (catalog.resources.map (·.name)).Nodup)
    (distinctDomains : (catalog.domains.map (·.name)).Nodup) (acts : op.actionKind? = some kind)
    (free : (overrides.nameFor op).join = none) (none : scope.suitable catalog op = []) :
    scope.resolve (.declarative catalog) op overrides =
      .error (.missingOperation scope.resource kind (searchedAny op kind)) := by
  have nothing : choose? (fitting op (scope.wanted (.declarative catalog) op kind overrides)) =
      Option.none := by
    rw [fitting_wanted_eq_suitable distinct distinctDomains acts free, none]
    rfl
  have missing := resolveAction_of_choose?_eq_none (standIn?_eq_none free) nothing
  rw [free] at missing
  rw [resolve, resolveTarget, acts]
  simp only [missing]
  rfl

/-- An operation that no name overrides is resolved to the first primary action that suits it, else
to the first one that does, and it is missing exactly if there is none. Whatever is declared after
the actions of the schema changes nothing that has been resolved, as long as it is not primary. -/
theorem resolves_iff_counts (distinct : (catalog.resources.map (·.name)).Nodup)
    (distinctDomains : (catalog.domains.map (·.name)).Nodup) (acts : op.actionKind? = some kind)
    (free : (overrides.nameFor op).join = none) :
    let resolved := scope.resolve (.declarative catalog) op overrides
    let missing := .error (.missingOperation scope.resource kind (searchedAny op kind))
    (∀ reference, resolved = .ok reference ↔
        ∃ action, Counts (scope.suitable catalog op) action ∧
        reference = scope.actionReference op action) ∧
      (resolved = missing ↔ scope.suitable catalog op = []) ∧
      ((∃ reference, resolved = .ok reference) ∨ resolved = missing) ∧
      ∀ more, (∀ action ∈ more, action.primary = false) → ∀ reference, resolved = .ok reference →
        scope.resolve (.declarative (catalog.declareAfter scope.schema more)) op overrides =
          .ok reference := by
  intro resolved missing
  have succeeds := resolve_eq_ok_iff_counts scope distinct distinctDomains acts free
  have fails := resolve_of_suitable_eq_nil scope distinct distinctDomains acts free
  have found (some : scope.suitable catalog op ≠ []) : ∃ reference, resolved = .ok reference := by
    obtain ⟨action, chosen⟩ := exists_choose?_eq_some some
    exact ⟨_, (succeeds _).2 ⟨action, choose?_eq_some_iff.1 chosen, rfl⟩⟩
  refine ⟨succeeds, ⟨fun isMissing => ?_, fails⟩, ?_, ?_⟩
  · refine Decidable.byContradiction fun some => ?_
    obtain ⟨reference, succeeded⟩ := found some
    have clash : Except.ok reference = Except.error _ := succeeded.symm.trans isMissing
    cases clash
  · by_cases none : scope.suitable catalog op = []
    · exact .inr (fails none)
    · exact .inl (found none)
  · intro more plain reference succeeded
    obtain ⟨action, counts, same⟩ := (succeeds reference).1 succeeded
    -- The catalog has the same names as before, so the same action is found in
    -- it if it still counts.
    have distinctToo : ((catalog.declareAfter scope.schema more).resources.map (·.name)).Nodup := by
      rw [ActionCatalog.map_name_declareAfter]
      exact distinct
    refine (resolve_eq_ok_iff_counts scope distinctToo distinctDomains acts free reference).2
      ⟨action, ?_, same⟩
    exact counts_suitable_declareAfter distinct plain counts

def stall : ActionCatalog where
  resources := [
    { name := ⟨"Article"⟩
      attributes := []
      actions := [
        { name := "audit", kind := .read, primary := true },
        { name := "search", kind := .read, pagination := .flag true },
        { name := "browse", kind := .read, primary := true },
        { name := "archive", kind := .destroy }] },
    { name := ⟨"Basket"⟩, attributes := [], actions := [{ name := "fill", kind := .create }] }]
  domains := [
    { name := ⟨"Stall"⟩
      resources := [⟨"Article"⟩, ⟨"Basket"⟩]
      interfaces := [
        { name := "find", resource := ⟨"Article"⟩, action := "search" },
        { name := "look", resource := ⟨"Article"⟩, action := "browse" }] }]

def stallScope (resource schema : String) : OperationScope :=
  ⟨resource, ⟨schema⟩, some ⟨"Stall"⟩⟩

/-- Of the articles the first primary action that the stall has a name for counts, or the one with
pages, and none deletes them, as the stall has no name for that. -/
theorem resolves_article :
    (∃ reference, (stallScope "article" "Article").resolve (.declarative stall) .list {} =
      .ok reference ∧
      reference.action? = some { name := "browse", kind := .read, primary := true } ∧
      ∀ more, (∀ action ∈ more, action.primary = false) →
        (stallScope "article" "Article").resolve
        (.declarative (stall.declareAfter ⟨"Article"⟩ more)) .list {} =
          .ok reference) ∧
    (stallScope "article" "Article").resolve (.declarative stall) .delete {} =
      .error (.missingOperation "article" .destroy "any destroy action") := by
  have distinct : (stall.resources.map (·.name)).Nodup := by decide
  have distinctDomains : (stall.domains.map (·.name)).Nodup := by decide
  have lists : LogicalOp.list.actionKind? = some .read := rfl
  have deletes : LogicalOp.delete.actionKind? = some .destroy := rfl
  have free (op : LogicalOp) : (OperationOverrides.nameFor {} op).join = none := by
    rw [OperationOverrides.nameFor_empty, Option.join_none]
  have listing :=
    resolves_iff_counts (stallScope "article" "Article") distinct distinctDomains lists (free .list)
  have deleting :=
    resolves_iff_counts (stallScope "article" "Article") distinct distinctDomains
      deletes (free .delete)
  have browses : Counts ((stallScope "article" "Article").suitable stall .list)
      { name := "browse", kind := .read, primary := true } :=
    choose?_eq_some_iff.1 (by decide +kernel)
  have resolved := (listing.1 _).2 ⟨_, browses, rfl⟩
  refine ⟨⟨_, resolved, rfl, fun more plain => listing.2.2.2 more plain _ resolved⟩, ?_⟩
  exact deleting.2.1.2 (by decide +kernel)

end OperationScope

end Backoffice
