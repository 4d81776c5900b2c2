import Backoffice.Declaration.Validation
import Backoffice.Proofs.Outcome
import Backoffice.Proofs.Text.Separator

/-!
What it means that a declaration passes its checks.

The checks go through resources and layouts one after the other, each beside the names before it.
`apart_cons_iff` is the step that both have in common: a list of names is without repetitions if
each name is new when its turn comes.
-/

namespace Backoffice

theorem apart_cons_iff {Entry : Type} {name : Entry → String} {earlier : List String}
    {entry : Entry} {rest : List Entry} :
    (name entry ∉ earlier ∧ (rest.map name).Nodup ∧
      ∀ other ∈ rest, name other ∉ earlier ++ [name entry]) ↔
      ((entry :: rest).map name).Nodup ∧ ∀ other ∈ entry :: rest, name other ∉ earlier := by
  simp only [List.mem_append, List.mem_singleton, not_or, List.map_cons, List.nodup_cons,
    List.mem_map, not_exists, not_and, List.forall_mem_cons]
  constructor
  · rintro ⟨free, distinct, apart⟩
    exact ⟨⟨fun other member => (apart other member).2, distinct⟩, free,
      fun other member => (apart other member).1⟩
  · rintro ⟨⟨fresh, distinct⟩, free, apart⟩
    exact ⟨free, distinct, fun other member => ⟨apart other member, fresh other member⟩⟩

namespace ResourceDeclaration

/-- What is checked of a declared resource on its own. -/
structure Usable (backends : Backends) (declaration : ResourceDeclaration) : Prop where
  named : declaration.name ≠ ""
  plain : Text.hasSeparator declaration.name = false
  backed : declaration.validateBackend backends = .ok ()
  fields : (declaration.fields.map (·.name)).Nodup
  operations : ∀ entry ∈ declaration.operations, (LogicalOp.ofOverrideKey? entry.1).isSome

variable {backends : Backends} {earlier : List String} {declaration : ResourceDeclaration}

theorem validateName_eq_ok_iff {name : String} :
    validateName earlier name = .ok () ↔
      name ≠ "" ∧ Text.hasSeparator name = false ∧ name ∉ earlier := by
  rw [validateName]
  split
  · next empty => simp [empty]
  · next nonempty =>
    split
    · next reserved => simp [reserved]
    · next plain =>
      split
      · next taken => simp [List.contains_iff_mem.1 taken]
      · next free =>
        rw [List.contains_iff_mem] at free
        simp [nonempty, plain, free]

theorem validateFields_eq_ok_iff :
    declaration.validateFields = .ok () ↔ (declaration.fields.map (·.name)).Nodup := by
  rw [validateFields]
  split
  · next field repeated =>
    have not : ¬ repeated? [] (declaration.fields.map (·.name)) = none := by simp [repeated]
    rw [repeated?_eq_none_iff] at not
    simpa using not
  · next none =>
    rw [repeated?_eq_none_iff] at none
    simpa using none.1

theorem validateOperations_eq_ok_iff :
    declaration.validateOperations = .ok () ↔
      ∀ entry ∈ declaration.operations, (LogicalOp.ofOverrideKey? entry.1).isSome := by
  rw [validateOperations]
  split
  · next key value found =>
    have member := List.mem_of_find?_eq_some found
    have unknown := List.find?_some found
    constructor
    · nofun
    · intro known
      rw [Option.isNone_iff_eq_none] at unknown
      have := known _ member
      rw [unknown] at this
      cases this
  · next none =>
    rw [List.find?_eq_none] at none
    simpa [Option.isSome_iff_ne_none] using none

theorem validate_eq_ok_iff :
    declaration.validate backends earlier = .ok () ↔
      declaration.Usable backends ∧ declaration.name ∉ earlier := by
  rw [validate, Outcome.check_bind_eq_ok_iff, Outcome.check_bind_eq_ok_iff,
    Outcome.check_bind_eq_ok_iff, validateName_eq_ok_iff, validateFields_eq_ok_iff,
    validateOperations_eq_ok_iff]
  constructor
  · rintro ⟨⟨named, plain, free⟩, backed, fields, operations⟩
    exact ⟨⟨named, plain, backed, fields, operations⟩, free⟩
  · rintro ⟨⟨named, plain, backed, fields, operations⟩, free⟩
    exact ⟨⟨named, plain, free⟩, backed, fields, operations⟩

/-- Declarations pass exactly if each is usable and no name is taken when its turn comes. -/
theorem validateAll_eq_ok_iff {declarations : List ResourceDeclaration} :
    validateAll backends earlier declarations = .ok () ↔
      (∀ declaration ∈ declarations, declaration.Usable backends) ∧
        (declarations.map (·.name)).Nodup ∧ ∀ declaration ∈ declarations,
          declaration.name ∉ earlier := by
  induction declarations generalizing earlier with
  | nil => simp [validateAll]
  | cons declaration rest inductionHypothesis =>
    rw [validateAll, Outcome.check_bind_eq_ok_iff, validate_eq_ok_iff, inductionHypothesis,
      List.forall_mem_cons, ← apart_cons_iff]
    constructor
    · rintro ⟨⟨usable, free⟩, others, distinct, apart⟩
      exact ⟨⟨usable, others⟩, free, distinct, apart⟩
    · rintro ⟨⟨usable, others⟩, free, distinct, apart⟩
      exact ⟨⟨usable, free⟩, others, distinct, apart⟩

/-- Whether a declaration names one schema, that of a backend which is configured and knows it. -/
inductive Backed (backends : Backends) (declaration : ResourceDeclaration) : Prop where
  | simple {schema catalog} :
      declaration.schema = some schema → declaration.resource = none →
        backends.simple = some catalog →
      schema ∈ catalog.schemas.map (·.name) → Backed backends declaration
  | declarative {resource catalog} :
      declaration.schema = none → declaration.resource = some resource →
        backends.declarative = some catalog →
      resource ∈ catalog.resources.map (·.name) → Backed backends declaration

theorem validateBackend_eq_ok_iff_of_backend_eq_ok {kind : BackendKind} {schema : SchemaName}
    {context : Option ContextName} (asked : declaration.backend = .ok (kind, schema, context)) :
    declaration.validateBackend backends = .ok () ↔
      ∃ backend, backends.get? kind = some backend ∧ schema ∈ backend.schemaNames := by
  rw [validateBackend, asked]
  simp only [bind, Except.bind]
  cases backends.get? kind with
  | none => simp
  | some backend => simp [Backend.hasSchema]

theorem validateBackend_eq_ok_iff :
    declaration.validateBackend backends = .ok () ↔ declaration.Backed backends := by
  constructor
  · intro passed
    obtain ⟨⟨kind, schema, context⟩, asked, _⟩ := Outcome.bind_eq_ok_iff.1 passed
    obtain ⟨backend, configured, known⟩ :=
      (validateBackend_eq_ok_iff_of_backend_eq_ok asked).1 passed
    rw [ResourceDeclaration.backend] at asked
    split at asked
    · next ofSchema noResource =>
      cases asked
      obtain ⟨catalog, isCatalog, same⟩ := Option.map_eq_some_iff.1 configured
      subst same
      exact .simple ofSchema noResource isCatalog known
    · next noSchema ofResource =>
      cases asked
      obtain ⟨catalog, isCatalog, same⟩ := Option.map_eq_some_iff.1 configured
      subst same
      exact .declarative noSchema ofResource isCatalog known
    · cases asked
    · cases asked
  · intro backed
    cases backed with
    | @simple schema catalog ofSchema noResource configured known =>
      have asked : declaration.backend = .ok (.simpleSchema, schema, declaration.context) := by
        rw [ResourceDeclaration.backend, ofSchema, noResource]
      rw [validateBackend_eq_ok_iff_of_backend_eq_ok asked]
      exact ⟨.simple catalog, congrArg (Option.map _) configured, known⟩
    | @declarative resource catalog noSchema ofResource configured known =>
      have asked :
          declaration.backend = .ok (.declarativeAction, resource, declaration.domain) := by
        rw [ResourceDeclaration.backend, noSchema, ofResource]
      rw [validateBackend_eq_ok_iff_of_backend_eq_ok asked]
      exact ⟨.declarative catalog, congrArg (Option.map _) configured, known⟩

end ResourceDeclaration

namespace LayoutDeclaration

/-- Layouts pass exactly if each is for a known name or below one, and none is for
the same as another one. -/
theorem validateAll_eq_ok_iff {names earlier : List String} {layouts : List LayoutDeclaration} :
    validateAll names earlier layouts = .ok () ↔
      (∀ layout ∈ layouts, Text.embedRoot layout.resource ∈ names) ∧
        (layouts.map (·.resource)).Nodup ∧ ∀ layout ∈ layouts, layout.resource ∉ earlier := by
  induction layouts generalizing earlier with
  | nil => simp [validateAll]
  | cons layout rest inductionHypothesis =>
    have step : validateAll names earlier (layout :: rest) = .ok () ↔
        Text.embedRoot layout.resource ∈ names ∧ layout.resource ∉ earlier ∧
          validateAll names (earlier ++ [layout.resource]) rest = .ok () := by
      rw [validateAll]
      by_cases known : Text.embedRoot layout.resource ∈ names
      · by_cases taken : layout.resource ∈ earlier
        · simp [known, taken]
        · simp [known, taken]
      · simp [known]
    rw [step, inductionHypothesis, List.forall_mem_cons, ← apart_cons_iff]
    constructor
    · rintro ⟨known, free, others, distinct, apart⟩
      exact ⟨⟨known, others⟩, free, distinct, apart⟩
    · rintro ⟨⟨known, others⟩, free, distinct, apart⟩
      exact ⟨known, free, others, distinct, apart⟩

end LayoutDeclaration

namespace AppDeclaration

variable {declaration : AppDeclaration} {backends : Backends}

theorem usable_of_validate_eq_ok (valid : declaration.validate backends = .ok ()) :
    (∀ resource ∈ declaration.resources, resource.Usable backends) ∧
      declaration.resourceNames.Nodup := by
  rw [validate, Outcome.check_bind_eq_ok_iff, ResourceDeclaration.validateAll_eq_ok_iff] at valid
  exact ⟨valid.1.1, valid.1.2.1⟩

end AppDeclaration

end Backoffice
