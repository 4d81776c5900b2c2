import Backoffice.Proofs.Operation.Enumeration
import Backoffice.Proofs.Operation.Origin

/-!
New entities made by a function of a context.

The function is looked up by its name alone, and only then asked for its arguments. So of the
functions of a name that the contexts of a name declare the first one counts, and one with two
arguments that is declared after it is not found.
-/

namespace Backoffice

namespace OperationOverrides

/-- Whether an operation is overridden by a name, under whatever key, and by no other. -/
structure OnlyBy (overrides : OperationOverrides) (op : LogicalOp) (name : String) : Prop where
  overridden : ∃ entry ∈ overrides.names, LogicalOp.ofOverrideKey? entry.1 = some op
  agree : ∀ entry ∈ overrides.names, LogicalOp.ofOverrideKey? entry.1 = some op →
    entry.2 = some name

variable {overrides : OperationOverrides} {op : LogicalOp} {name : String}

theorem mem_deciding {entry : String × Option String} (decides : entry ∈ overrides.deciding op) :
    entry ∈ overrides.names ∧ LogicalOp.ofOverrideKey? entry.1 = some op := by
  rw [deciding] at decides
  cases spelling : overrides.spelling? op with
  | none =>
    rw [spelling] at decides
    cases decides
  | some wanted =>
    rw [spelling] at decides
    obtain ⟨member, isSpelled⟩ := List.mem_filter.1 decides
    have spelled : Text.snakeCase entry.1 = wanted := of_decide_eq_true isSpelled
    exact ⟨member,
      LogicalOp.ofOverrideKey?_eq_some_iff.2 (spelled ▸ List.mem_of_find?_eq_some spelling)⟩

theorem deciding_ne_nil {entry : String × Option String} (member : entry ∈ overrides.names)
    (overridesOp : LogicalOp.ofOverrideKey? entry.1 = some op) : overrides.deciding op ≠ [] := by
  have isKey := LogicalOp.ofOverrideKey?_eq_some_iff.1 overridesOp
  have isSpelled : entry ∈ overrides.spelled (Text.snakeCase entry.1) :=
    List.mem_filter.2 ⟨member, by simp⟩
  cases spelling : overrides.spelling? op with
  | none =>
    -- The spelling of the entry is among those that are tried.
    have empty := List.find?_eq_none.1 spelling _ isKey
    rw [Bool.not_eq_true, Bool.not_eq_false', List.isEmpty_iff] at empty
    rw [empty] at isSpelled
    cases isSpelled
  | some wanted =>
    have some := List.find?_some spelling
    rw [deciding, spelling]
    simpa using some

theorem OnlyBy.nameFor_eq (only : overrides.OnlyBy op name) :
    overrides.nameFor op = some (some name) := by
  obtain ⟨entry, member, isKey⟩ := only.overridden
  obtain ⟨first, rest, deciding⟩ := List.exists_cons_of_ne_nil (deciding_ne_nil member isKey)
  have decides : first ∈ overrides.deciding op := deciding ▸ List.mem_cons_self
  obtain ⟨isEntry, overridesOp⟩ := mem_deciding decides
  rw [OperationOverrides.nameFor_eq, deciding, List.head?_cons, Option.map_some,
    only.agree first isEntry overridesOp]

end OperationOverrides

namespace SchemaCatalog

/-- Whether the first function of a name, among those that the contexts of a name declare, takes
a number of arguments. -/
def FirstTakes (catalog : SchemaCatalog) (context : ContextName) (name : String)
    (arity : Nat) : Prop :=
  ∃ before function after, catalog.functions (some context) = before ++ function :: after ∧
    (∀ earlier ∈ before, earlier.name ≠ name) ∧ function.name = name ∧ function.arity = arity

variable {catalog : SchemaCatalog} {context : ContextName} {name : String} {arity : Nat}

theorem firstTakes_iff : catalog.FirstTakes context name arity ↔
    ∃ function, catalog.function? context name = some function ∧ function.arity = arity := by
  simp only [FirstTakes, function?, List.find?_eq_some_iff_append, decide_eq_true_eq,
    Bool.not_eq_true', decide_eq_false_iff_not]
  constructor
  · rintro ⟨before, function, after, split, others, named, takes⟩
    exact ⟨function, ⟨named, before, after, split, others⟩, takes⟩
  · rintro ⟨function, ⟨named, before, after, split, others⟩, takes⟩
    exact ⟨before, function, after, split, others, named, takes⟩

instance : Decidable (catalog.FirstTakes context name arity) :=
  decidable_of_iff (∃ function ∈ catalog.function? context name, function.arity = arity)
    firstTakes_iff.symm

theorem FirstTakes.declares (first : catalog.FirstTakes context name arity) :
    catalog.Declares context name (some arity) := by
  obtain ⟨before, function, after, split, _, named, takes⟩ := first
  have exposed : function ∈ catalog.functions (some context) :=
    split ▸ List.mem_append_right _ List.mem_cons_self
  exact named ▸ takes ▸ declares_of_mem_functions exposed

theorem firstTakes_of_nodup (distinct : ((catalog.functions (some context)).map (·.name)).Nodup)
    (declared : catalog.Declares context name (some arity)) :
    catalog.FirstTakes context name arity := by
  obtain ⟨definition, isContext, ofContext, function, member, named, takes⟩ := declared
  have exposed : function ∈ catalog.functions (some context) :=
    mem_functions_iff.2 ⟨definition, isContext, ofContext, member⟩
  have found : catalog.function? context name = some function :=
    named ▸ find?_key_eq_some distinct exposed
  exact firstTakes_iff.2 ⟨function, found, Option.some.inj takes⟩

end SchemaCatalog

namespace OperationScope

variable {scope : OperationScope} {catalog : SchemaCatalog} {context : ContextName}
  {overrides : OperationOverrides} {name : String}

def functionReference (scope : OperationScope) (context : ContextName) (name : String) :
    OperationReference :=
  ⟨.new, scope.resource, .simpleSchema, scope.schema, scope.context,
    .initializer (.function context name)⟩

theorem resolve_new_named {backend : Backend} (nonempty : name ≠ "")
    (plain : overrides.newEntity = none) (named : overrides.nameFor .new = some (some name)) :
    scope.resolve backend .new overrides =
      ((scope.namedInitializer backend name).mapError
        (.invalidInitializer scope.resource)).map fun initializer =>
          ⟨.new, scope.resource, backend.kind, scope.schema, scope.context,
            .initializer initializer⟩ := by
  have made : scope.initializerFor backend (some (some name)) =
      scope.namedInitializer backend name := by
    rw [initializerFor]
    exact nonempty
  have resolved : scope.resolveInitializer backend overrides =
      (scope.namedInitializer backend name).mapError (.invalidInitializer scope.resource) := by
    rw [resolveInitializer, plain]
    simp only [named, made]
  rw [resolve, resolveTarget]
  simp only [LogicalOp.actionKind?, resolved]
  cases scope.namedInitializer backend name <;> rfl

theorem namedInitializer_simple (within : scope.context = some context) :
    scope.namedInitializer (.simple catalog) name =
      match catalog.function? context name with
      | none => .error (.notFound name context)
      | some function =>
        if function.arity = 2 then .ok (.function context name)
          else .error (.wrongArity name function.arity) := by
  rw [namedInitializer, within]
  simp only [Backend.target?, SchemaCatalog.target?]
  cases catalog.function? context name with
  | none => rfl
  | some function =>
    simp only [Option.map_some]
    split
    · next two => rw [if_pos (Option.some.inj two)]
    · next arity other same =>
      cases same
      rw [if_neg other]
    · next none => cases none

theorem resolve_new_simple (within : scope.context = some context) (nonempty : name ≠ "")
    (plain : overrides.newEntity = none) (named : overrides.nameFor .new = some (some name)) :
    (catalog.FirstTakes context name 2 ∧
        scope.resolve (.simple catalog) .new overrides =
        .ok (scope.functionReference context name)) ∨
      (¬ catalog.FirstTakes context name 2 ∧ ∃ fault,
        scope.resolve (.simple catalog) .new overrides =
        .error (.invalidInitializer scope.resource fault)) := by
  rw [resolve_new_named nonempty plain named, namedInitializer_simple within,
    SchemaCatalog.firstTakes_iff]
  cases found : catalog.function? context name with
  | none => exact .inr ⟨by simp, _, rfl⟩
  | some function =>
    by_cases takes : function.arity = 2
    · refine .inl ⟨⟨function, rfl, takes⟩, ?_⟩
      simp only [if_pos takes]
      rfl
    · refine .inr ⟨by simpa using takes, .wrongArity name function.arity, ?_⟩
      simp only [if_neg takes]
      rfl

/-- Where new entities are made by a name alone, they are made by a function of the context exactly
if the first function of that name takes two arguments, and otherwise the initializer is invalid. So
that the context declares such a function is enough exactly if it is then the first of its name, as
always where no name is declared twice. -/
theorem resolves_new_iff_firstTakes (within : scope.context = some context) (nonempty : name ≠ "")
    (plain : overrides.newEntity = none) (only : overrides.OnlyBy .new name) :
    let resolved := scope.resolve (.simple catalog) .new overrides
    let made := resolved = .ok (scope.functionReference context name)
    let declared := catalog.Declares context name (some 2)
    (made ↔ catalog.FirstTakes context name 2) ∧
      (¬ made → ∃ fault, resolved = .error (.invalidInitializer scope.resource fault)) ∧
      ((made ↔ declared) ↔ (declared → catalog.FirstTakes context name 2)) ∧
      (((catalog.functions (some context)).map (·.name)).Nodup → (made ↔ declared)) := by
  intro resolved made declared
  have firstDeclares : catalog.FirstTakes context name 2 → declared :=
    SchemaCatalog.FirstTakes.declares
  have makes : made ↔ catalog.FirstTakes context name 2 := by
    rcases resolve_new_simple within nonempty plain only.nameFor_eq
      with ⟨first, succeeds⟩ | ⟨other, fault, fails⟩
    · exact iff_of_true succeeds first
    · refine iff_of_false (fun succeeds => ?_) other
      cases fails.symm.trans succeeds
  refine ⟨makes, fun fails => ?_, ?_, fun distinct => ?_⟩
  · rcases resolve_new_simple within nonempty plain only.nameFor_eq
      with ⟨_, succeeds⟩ | ⟨_, invalid⟩
    · exact absurd succeeds fails
    · exact invalid
  · rw [makes]
    exact ⟨fun same => same.2, fun found => ⟨firstDeclares, found⟩⟩
  · rw [makes]
    exact ⟨firstDeclares, SchemaCatalog.firstTakes_of_nodup distinct⟩

/-- A function with one argument and one with two, under one name in the first context and in the
other order in the second. -/
def shop : SchemaCatalog where
  schemas := [{ name := ⟨"Product"⟩, fields := [] }]
  contexts := [
    { name := ⟨"Shop"⟩,
      functions := [{ name := "new_product", arity := 1 }, { name := "new_product", arity := 2 }] },
    { name := ⟨"Depot"⟩,
      functions := [{ name := "new_product", arity := 2 }, { name := "new_product", arity := 1 }] }]

def shopScope (context : String) : OperationScope :=
  ⟨"product", ⟨"Product"⟩, some ⟨context⟩⟩

def shopOverrides : OperationOverrides where
  names := [("list", some "all_products"), ("newFunction", some "new_product")]

theorem shopOverrides_onlyBy : shopOverrides.OnlyBy .new "new_product" where
  overridden := by decide +kernel
  agree := by decide +kernel

/-- The depot declares the function with two arguments first. -/
theorem resolves_new_depot :
    (shopScope "Depot").resolve (.simple shop) .new shopOverrides =
      .ok ((shopScope "Depot").functionReference ⟨"Depot"⟩ "new_product") :=
  (resolves_new_iff_firstTakes rfl (by decide) rfl shopOverrides_onlyBy).1.2 (by decide +kernel)

/-- The shop declares it second, so it is not found. -/
theorem shop_misses_new :
    shopOverrides.OnlyBy .new "new_product" ∧ shopOverrides.newEntity = none ∧
      shop.Declares ⟨"Shop"⟩ "new_product" (some 2) ∧
      (shopScope "Shop").resolve (.simple shop) .new shopOverrides =
        .error (.invalidInitializer "product" (.wrongArity "new_product" 1)) :=
  ⟨shopOverrides_onlyBy, rfl, by decide +kernel, rfl⟩

end OperationScope

end Backoffice
