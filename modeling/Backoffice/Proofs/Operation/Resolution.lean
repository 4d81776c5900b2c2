import Backoffice.Operation.Resolution
import Backoffice.Proofs.Outcome

/-!
What operations are resolved to.

The candidates are narrowed to the ones of the wanted name. Where none is left, a function that an
override names may stand in; otherwise one of those left is chosen. Either way the action is of the
kind of the operation, and returns pages where pages are asked for.
-/

namespace Backoffice

/-! ### Actions of a kind -/

namespace ActionCatalog

variable {catalog : ActionCatalog} {schema : SchemaName} {action : Action}

def Declares (catalog : ActionCatalog) (schema : SchemaName) (action : Action) : Prop :=
  ∃ resource, catalog.resource? schema = some resource ∧ action ∈ resource.actions

instance : Decidable (catalog.Declares schema action) :=
  decidable_of_iff (∃ resource ∈ catalog.resource? schema, action ∈ resource.actions) Iff.rfl

theorem declares_of_mem_actions {domain : Option ContextName} {kind : ActionKind}
    (member : action ∈ catalog.actions schema domain kind) :
    catalog.Declares schema action ∧ action.kind = kind := by
  rw [actions] at member
  split at member
  · cases member
  · next resource found =>
    have ofKind : action ∈ resource.actions.filter (·.kind = kind) := by
      split at member
      · exact member
      · split at member
        · cases member
        · exact List.mem_of_mem_filter member
    rw [List.mem_filter, decide_eq_true_eq] at ofKind
    exact ⟨⟨resource, found, ofKind.1⟩, ofKind.2⟩

end ActionCatalog

namespace Backend

variable {backend : Backend} {context : ContextName} {kind : ActionKind} {action : Action}

theorem kind_of_mem_actions {schema : SchemaName} {within : Option ContextName}
    (member : action ∈ backend.actions schema within kind) : action.kind = kind := by
  cases backend with
  | simple catalog =>
    obtain ⟨function, _, same⟩ := List.mem_map.1 member
    exact same ▸ rfl
  | declarative catalog => exact (ActionCatalog.declares_of_mem_actions member).2

theorem kind_of_explicitAction?_eq_some {name : String}
    (found : backend.explicitAction? context name kind = some action) : action.kind = kind := by
  cases backend with
  | simple catalog =>
    obtain ⟨function, _, typed⟩ := Option.bind_eq_some_iff.1 found
    split at typed
    · cases typed
      rfl
    · cases typed
  | declarative catalog => cases found

end Backend

namespace OperationScope

/-! ### Choosing among candidates -/

section Choice

variable {actions : List Action} {action : Action}

theorem mem_of_choose?_eq_some (chosen : choose? actions = some action) : action ∈ actions := by
  rw [choose?, Option.or_eq_some_iff] at chosen
  rcases chosen with primary | ⟨_, first⟩
  · exact List.mem_of_find?_eq_some primary
  · exact List.mem_of_head? first

theorem exists_choose?_eq_some (nonempty : actions ≠ []) :
    ∃ action, choose? actions = some action := by
  obtain ⟨first, rest, same⟩ := List.exists_cons_of_ne_nil nonempty
  rw [← Option.isSome_iff_exists, choose?, Option.isSome_or, same]
  simp

theorem choose?_eq_head? (plain : ∀ action ∈ actions, action.primary = false) :
    choose? actions = actions.head? := by
  have none : actions.find? (·.primary) = none := by simpa using plain
  rw [choose?, none, Option.none_or]

end Choice

/-! ### Stages of resolution -/

section Stages

variable (scope : OperationScope) (backend : Backend) (op : LogicalOp) (kind : ActionKind)
  (overrides : OperationOverrides)

def wanted : List Action :=
  (scope.candidates backend op kind (overrides.nameFor op).join).named

/-- The function that an override names, where no candidate has the wanted name. -/
def standIn? : Option Action :=
  if (scope.wanted backend op kind overrides).isEmpty then
    scope.context.bind fun context =>
      (overrides.nameFor op).join.bind fun name => backend.explicitAction? context name kind
  else none

/-- The actions that will do for an operation: only some of them return pages. -/
def fitting (actions : List Action) : List Action :=
  if op = .listPaginated then actions.filter (·.pagination.isEnabled) else actions

end Stages

variable {scope : OperationScope} {backend : Backend} {op : LogicalOp} {kind : ActionKind}
  {overrides : OperationOverrides} {action : Action}

theorem mem_fitting_iff {actions : List Action} :
    action ∈ fitting op actions ↔
      action ∈ actions ∧ (op = .listPaginated → action.pagination.isEnabled = true) := by
  rw [fitting]
  split
  · next pages => simp [pages]
  · next plain => simp [plain]

theorem mem_named_iff {candidates : Candidates} :
    action ∈ candidates.named ↔
      action ∈ candidates.actions ∧ ∀ name, candidates.wanted = some name → action.name = name := by
  rw [Candidates.named]
  split
  · next name wanted => simp [wanted]
  · next free => simp [free]

theorem standIn?_eq_some_iff :
    scope.standIn? backend op kind overrides = some action ↔
      scope.wanted backend op kind overrides = [] ∧ ∃ context name, scope.context = some context ∧
        overrides.nameFor op = some (some name) ∧
          backend.explicitAction? context name kind = some action := by
  rw [standIn?]
  split
  · next empty =>
    simp only [Option.bind_eq_some_iff, Option.join_eq_some_iff, List.isEmpty_iff.1 empty, true_and]
    constructor
    · rintro ⟨context, within, name, given, found⟩
      exact ⟨context, name, within, given, found⟩
    · rintro ⟨context, name, within, given, found⟩
      exact ⟨context, within, name, given, found⟩
  · next nonempty =>
    rw [List.isEmpty_iff] at nonempty
    simp [nonempty]

theorem standIn?_eq_none (free : (overrides.nameFor op).join = none) :
    scope.standIn? backend op kind overrides = none := by
  rw [Option.eq_none_iff_forall_ne_some]
  intro action standsIn
  obtain ⟨_, _, _, _, given, _⟩ := standIn?_eq_some_iff.1 standsIn
  rw [given] at free
  cases free

theorem resolveAction_of_standIn?_eq_some {found : Action}
    (standsIn : scope.standIn? backend op kind overrides = some found) :
    scope.resolveAction backend op kind overrides =
      .ok (if op = .listPaginated then found.paginated else found) := by
  rw [standIn?, wanted] at standsIn
  simp only [resolveAction, standsIn]

theorem resolveAction_of_standIn?_eq_none
    (standsIn : scope.standIn? backend op kind overrides = none) :
    scope.resolveAction backend op kind overrides = .ok action ↔
      choose? (fitting op (scope.wanted backend op kind overrides)) = some action := by
  rw [standIn?, wanted] at standsIn
  simp only [resolveAction, standsIn]
  rw [fitting, wanted]
  split
  · next found chosen => simp [chosen]
  · next missing => simp [missing]

theorem resolveAction_of_choose?_eq_none
    (standsIn : scope.standIn? backend op kind overrides = none)
    (nothing : choose? (fitting op (scope.wanted backend op kind overrides)) = none) :
    scope.resolveAction backend op kind overrides = .error (.missingOperation scope.resource kind
      ((scope.candidates backend op kind (overrides.nameFor op).join).searched op kind)) := by
  rw [standIn?, wanted] at standsIn
  rw [fitting, wanted] at nothing
  simp only [resolveAction, standsIn, nothing]

theorem resolveAction_eq_ok_iff :
    scope.resolveAction backend op kind overrides = .ok action ↔
      (∃ found, scope.standIn? backend op kind overrides = some found ∧
        (if op = .listPaginated then found.paginated else found) = action) ∨
      (scope.standIn? backend op kind overrides = none ∧
        choose? (fitting op (scope.wanted backend op kind overrides)) = some action) := by
  cases standsIn : scope.standIn? backend op kind overrides with
  | some found => simp [resolveAction_of_standIn?_eq_some standsIn]
  | none => simp [resolveAction_of_standIn?_eq_none standsIn]

theorem mem_candidates_of_mem_wanted (member : action ∈ scope.wanted backend op kind overrides) :
    action ∈ (scope.candidates backend op kind (overrides.nameFor op).join).actions :=
  (mem_named_iff.1 member).1

theorem kind_of_mem_candidates {explicit : Option String}
    (member : action ∈ (scope.candidates backend op kind explicit).actions) :
    action.kind = kind := by
  cases explicit with
  | none => exact Backend.kind_of_mem_actions member
  | some name =>
    simp only [candidates] at member
    split at member
    · exact Backend.kind_of_mem_actions member
    · exact Backend.kind_of_mem_actions member

/-- A resolved action is of the kind that was asked for, and returns pages where these were. -/
theorem kind_and_pages_of_resolveAction_eq_ok
    (resolved : scope.resolveAction backend op kind overrides = .ok action) :
    action.kind = kind ∧ (op = .listPaginated → action.pagination.isEnabled = true) := by
  rcases resolveAction_eq_ok_iff.1 resolved with ⟨found, standsIn, same⟩ | ⟨_, chosen⟩
  · obtain ⟨_, _, _, _, _, explicit⟩ := standIn?_eq_some_iff.1 standsIn
    have ofKind : found.kind = kind := Backend.kind_of_explicitAction?_eq_some explicit
    subst same
    split
    · exact ⟨ofKind, fun _ => rfl⟩
    · next plain => exact ⟨ofKind, fun pages => absurd pages plain⟩
  · obtain ⟨member, pages⟩ := mem_fitting_iff.1 (mem_of_choose?_eq_some chosen)
    exact ⟨kind_of_mem_candidates (mem_candidates_of_mem_wanted member), pages⟩

end OperationScope

/-! ### References -/

namespace LogicalOp

variable {op : LogicalOp}

theorem actionKind?_eq_none_iff : op.actionKind? = none ↔ op = .new := by
  cases op <;> simp [actionKind?]

theorem ne_new_of_actionKind?_eq_some {kind : ActionKind} (acts : op.actionKind? = some kind) :
    op ≠ .new := by
  intro new
  rw [actionKind?_eq_none_iff.2 new] at acts
  cases acts

end LogicalOp

/-- A reference for an operation of a scope, with a target that the operation can use. -/
structure OperationReference.Serves (reference : OperationReference) (op : LogicalOp)
    (scope : OperationScope) (backend : BackendKind) : Prop where
  operation : reference.op = op
  resource : reference.resource = scope.resource
  backend : reference.backend = backend
  schema : reference.schema = scope.schema
  context : reference.context = scope.context
  initializer : op = .new → ∃ initializer, reference.target = .initializer initializer
  action : op ≠ .new → ∃ action, reference.target = .action action ∧
    op.actionKind? = some action.kind ∧
      (op = .listPaginated → action.pagination.isEnabled = true)

namespace OperationScope

variable {scope : OperationScope} {backend : Backend} {op : LogicalOp} {kind : ActionKind}
  {overrides : OperationOverrides} {reference : OperationReference}

theorem resolve_eq_ok_iff_of_kind (acts : op.actionKind? = some kind) :
    scope.resolve backend op overrides = .ok reference ↔
      ∃ action, scope.resolveAction backend op kind overrides = .ok action ∧
        reference = ⟨op, scope.resource, backend.kind, scope.schema, scope.context,
          .action action⟩ := by
  rw [resolve, resolveTarget, acts, Outcome.map_eq_ok_iff]
  simp only [Outcome.map_eq_ok_iff]
  constructor
  · rintro ⟨_, ⟨action, resolved, rfl⟩, same⟩
    exact ⟨action, resolved, same.symm⟩
  · rintro ⟨action, resolved, same⟩
    exact ⟨_, ⟨action, resolved, rfl⟩, same.symm⟩

theorem serves_of_resolve_eq_ok (resolved : scope.resolve backend op overrides = .ok reference) :
    reference.Serves op scope backend.kind := by
  cases acts : op.actionKind? with
  | some kind =>
    obtain ⟨action, resolved, same⟩ := (resolve_eq_ok_iff_of_kind acts).1 resolved
    obtain ⟨ofKind, pages⟩ := kind_and_pages_of_resolveAction_eq_ok resolved
    have acting : op ≠ .new := LogicalOp.ne_new_of_actionKind?_eq_some acts
    subst same
    exact {
      operation := rfl
      resource := rfl
      backend := rfl
      schema := rfl
      context := rfl
      initializer := fun new => absurd new acting
      action := fun _ => ⟨action, rfl, by rw [acts, ofKind], pages⟩ }
  | none =>
    have new : op = .new := LogicalOp.actionKind?_eq_none_iff.1 acts
    rw [resolve, resolveTarget, acts, Outcome.map_eq_ok_iff] at resolved
    obtain ⟨_, made, same⟩ := resolved
    obtain ⟨initializer, _, leads⟩ := Outcome.map_eq_ok_iff.1 made
    subst leads same
    exact {
      operation := rfl
      resource := rfl
      backend := rfl
      schema := rfl
      context := rfl
      initializer := fun _ => ⟨initializer, rfl⟩
      action := fun acting => absurd new acting }

end OperationScope

end Backoffice
