import Backoffice.Proofs.Operation.Convention

/-!
Where the actions that operations are resolved to are declared.

Without an overriding name they are those of the scope. An overriding name is looked up in the
context, and what it points at may lie elsewhere: in a catalog of contexts the functions of its
schema are then listed across all contexts, and in a catalog of resources the interface may be for
another resource, while the reference keeps the schema and the context of the scope.
-/

namespace Backoffice

/-! ### Functions of contexts -/

namespace SchemaCatalog

/-- Whether a context of the name declares a function of a name and an arity. -/
def Declares (catalog : SchemaCatalog) (context : ContextName) (name : String)
    (arity : Option Nat) : Prop :=
  ∃ definition ∈ catalog.contexts, definition.name = context ∧
    ∃ function ∈ definition.functions, function.name = name ∧ some function.arity = arity

instance (catalog : SchemaCatalog) (context : ContextName) (name : String) (arity : Option Nat) :
    Decidable (catalog.Declares context name arity) :=
  inferInstanceAs (Decidable (∃ definition ∈ catalog.contexts, definition.name = context ∧
    ∃ function ∈ definition.functions, function.name = name ∧ some function.arity = arity))

def schemaNamed? (catalog : SchemaCatalog) (context : ContextName) (name : String) :
    Option SchemaName :=
  (catalog.function? context name).bind catalog.schemaOf?

/-- The first function of a name, in whatever context, that is of a kind and on a schema. -/
def firstNamesake? (catalog : SchemaCatalog) (kind : ActionKind) (schema : SchemaName)
    (name : String) : Option ContextFunction :=
  (catalog.functions none).find? fun function =>
    function.name = name && (function.kind? = some kind && catalog.schemaOf? function = some schema)

variable {catalog : SchemaCatalog} {context : ContextName} {kind : ActionKind} {name : String}
  {function : ContextFunction} {action : Action}

theorem declares_of_mem_functions (member : function ∈ catalog.functions (some context)) :
    catalog.Declares context function.name (some function.arity) := by
  obtain ⟨definition, isContext, named, declared⟩ := mem_functions_iff.1 member
  exact ⟨definition, isContext, named, function, declared, rfl, rfl⟩

theorem declares_of_mem_actions {schema : SchemaName}
    (member : action ∈ catalog.actions schema (some context) kind) :
    catalog.Declares context action.name action.arity := by
  obtain ⟨function, exposed, _, _, same⟩ := mem_actions_iff.1 member
  exact same ▸ declares_of_mem_functions exposed

theorem mem_functions_of_function?_eq_some
    (found : catalog.function? context name = some function) :
    function ∈ catalog.functions (some context) ∧ function.name = name :=
  ⟨List.mem_of_find?_eq_some found, by simpa using List.find?_some found⟩

theorem declares_of_explicitAction?_eq_some
    (found : catalog.explicitAction? context name kind = some action) :
    catalog.Declares context action.name action.arity := by
  obtain ⟨function, exposed, typed⟩ := Option.bind_eq_some_iff.1 found
  split at typed
  · cases typed
    exact declares_of_mem_functions (mem_functions_of_function?_eq_some exposed).1
  · cases typed

theorem plain_of_mem_actions {schema : SchemaName} {within : Option ContextName}
    (member : action ∈ catalog.actions schema within kind) :
    action.primary = false ∧
      action.pagination = .flag (Text.hasEnding paginatedEnding.toList action.name.toList) := by
  obtain ⟨function, _, _, _, same⟩ := mem_actions_iff.1 member
  subst same
  exact ⟨rfl, rfl⟩

/-- Of the actions of a name on a schema, the first one is that of the first function. -/
theorem head?_actions_named (catalog : SchemaCatalog) (kind : ActionKind) (schema : SchemaName)
    (name : String) :
    ((catalog.actions schema none kind).filter (·.name = name)).head? =
      (catalog.firstNamesake? kind schema name).map (·.asAction kind) := by
  rw [actions, List.filter_map, List.filter_filter, List.head?_map, List.head?_filter]
  rfl

end SchemaCatalog

namespace OperationScope

/-- The function that an overriding name leads to: the context tells the schema of the name, and the
first function of that name and schema counts, wherever it is declared. -/
def namesake? (scope : OperationScope) (catalog : SchemaCatalog) (op : LogicalOp)
    (kind : ActionKind) (overrides : OperationOverrides) : Option ContextFunction := do
  let context ← scope.context
  let name ← (overrides.nameFor op).join
  let schema ← catalog.schemaNamed? context name
  catalog.firstNamesake? kind schema name

variable {scope : OperationScope} {catalog : SchemaCatalog} {context : ContextName}
  {op : LogicalOp} {kind : ActionKind} {overrides : OperationOverrides} {name : String}
  {action : Action}

/-- The candidates under a name of the context: those on its schema, from all contexts, or
else those of the scope. -/
theorem candidates_named_simple (within : scope.context = some context) :
    scope.candidates (.simple catalog) op kind (some name) =
      { wanted := some name
        actions :=
          match catalog.schemaNamed? context name with
          | some schema => catalog.actions schema none kind
          | none => catalog.actions scope.schema (some context) kind } := by
  simp only [candidates, within, Option.bind_some, Backend.target?, SchemaCatalog.target?,
    Backend.actions, SchemaCatalog.schemaNamed?]
  cases found : catalog.function? context name with
  | none => rfl
  | some function =>
    obtain ⟨_, named⟩ := SchemaCatalog.mem_functions_of_function?_eq_some found
    cases ofSchema : catalog.schemaOf? function with
    | none => simp [named, ofSchema]
    | some schema => simp [named, ofSchema]

theorem fitting_eq_self {actions : List Action} (member : action ∈ fitting op actions)
    (alike : ∀ other ∈ actions, other.pagination = action.pagination) :
    fitting op actions = actions := by
  have pages := (mem_fitting_iff.1 member).2
  rw [fitting]
  split
  · next paged =>
    rw [List.filter_eq_self]
    intro other inActions
    rw [alike other inActions]
    exact pages paged
  · rfl

/-- What stands in for the candidates is declared in the context, also where pages are asked for. -/
theorem declares_of_standIn?_eq_some {found : Action} (within : scope.context = some context)
    (standsIn : scope.standIn? (.simple catalog) op kind overrides = some found)
    (same : (if op = .listPaginated then found.paginated else found) = action) :
    catalog.Declares context action.name action.arity := by
  obtain ⟨_, other, name, sameContext, _, explicit⟩ := standIn?_eq_some_iff.1 standsIn
  rw [within] at sameContext
  cases sameContext
  have declared := SchemaCatalog.declares_of_explicitAction?_eq_some explicit
  subst same
  split
  · exact declared
  · exact declared

theorem namesake?_eq (within : scope.context = some context) :
    scope.namesake? catalog op kind overrides = (overrides.nameFor op).join.bind fun name =>
      (catalog.schemaNamed? context name).bind fun schema =>
        catalog.firstNamesake? kind schema name := by
  rw [namesake?, within]
  rfl

/-- A name whose schema the context tells leads to the first function of the name on that schema;
where there is none of the kind, the function of the context stands in. -/
theorem resolveAction_led (within : scope.context = some context) {schema : SchemaName}
    (given : (overrides.nameFor op).join = some name)
    (led : catalog.schemaNamed? context name = some schema)
    (resolved : scope.resolveAction (.simple catalog) op kind overrides = .ok action) :
    (∃ first, catalog.firstNamesake? kind schema name = some first ∧ action = first.asAction kind) ∨
      (catalog.firstNamesake? kind schema name = none ∧
        catalog.Declares context action.name action.arity) := by
  have listed : scope.wanted (.simple catalog) op kind overrides =
      (catalog.actions schema none kind).filter (·.name = name) := by
    rw [wanted, given, candidates_named_simple within, led]
    rfl
  have first := catalog.head?_actions_named kind schema name
  rw [← listed] at first
  rcases resolveAction_eq_ok_iff.1 resolved with ⟨found, standsIn, same⟩ | ⟨_, chosen⟩
  · right
    rw [(standIn?_eq_some_iff.1 standsIn).1] at first
    exact ⟨Option.map_eq_none_iff.1 first.symm, declares_of_standIn?_eq_some within standsIn same⟩
  · left
    have plain : ∀ other ∈ scope.wanted (.simple catalog) op kind overrides, other.primary = false ∧
        other.pagination = .flag (Text.hasEnding paginatedEnding.toList name.toList) := by
      intro other member
      rw [listed, List.mem_filter, decide_eq_true_eq] at member
      obtain ⟨primary, pagination⟩ := SchemaCatalog.plain_of_mem_actions member.1
      rw [member.2] at pagination
      exact ⟨primary, pagination⟩
    -- They have one name, so they return pages all together, and none of them is primary:
    -- the first one is chosen.
    have fits := mem_of_choose?_eq_some chosen
    have own := plain action (mem_fitting_iff.1 fits).1
    rw [fitting_eq_self fits fun other member => (plain other member).2.trans own.2.symm,
      choose?_eq_head? fun other member => (plain other member).1, first] at chosen
    obtain ⟨function, found, same⟩ := Option.map_eq_some_iff.1 chosen
    exact ⟨function, found, same.symm⟩

/-- Where no name is given, or the context does not tell its schema, the action
is one of the context. -/
theorem declares_of_resolveAction_eq_ok (within : scope.context = some context)
    (own : ∀ name, (overrides.nameFor op).join = some name →
      catalog.schemaNamed? context name = none)
    (resolved : scope.resolveAction (.simple catalog) op kind overrides = .ok action) :
    catalog.Declares context action.name action.arity := by
  rcases resolveAction_eq_ok_iff.1 resolved with ⟨found, standsIn, same⟩ | ⟨_, chosen⟩
  · exact declares_of_standIn?_eq_some within standsIn same
  · have candidate :=
      mem_candidates_of_mem_wanted (mem_fitting_iff.1 (mem_of_choose?_eq_some chosen)).1
    cases given : (overrides.nameFor op).join with
    | none =>
      rw [given, candidates, within] at candidate
      exact SchemaCatalog.declares_of_mem_actions candidate
    | some name =>
      rw [given, candidates_named_simple within, own name given] at candidate
      exact SchemaCatalog.declares_of_mem_actions candidate

/-- The action is that of the function an overriding name leads to, or one
that the context declares. -/
theorem namesake_or_declared (within : scope.context = some context)
    (resolved : scope.resolveAction (.simple catalog) op kind overrides = .ok action) :
    (∃ first, scope.namesake? catalog op kind overrides = some first ∧
      action = first.asAction kind) ∨
      (scope.namesake? catalog op kind overrides = none ∧
        catalog.Declares context action.name action.arity) := by
  rw [namesake?_eq within]
  cases given : (overrides.nameFor op).join with
  | none =>
    refine .inr ⟨rfl, declares_of_resolveAction_eq_ok within ?_ resolved⟩
    intro name named
    rw [given] at named
    cases named
  | some name =>
    cases led : catalog.schemaNamed? context name with
    | none =>
      refine .inr ⟨by rw [Option.bind_some, led, Option.bind_none], ?_⟩
      refine declares_of_resolveAction_eq_ok within ?_ resolved
      intro other named
      rw [given, Option.some_inj] at named
      exact named ▸ led
    | some schema =>
      rw [Option.bind_some, led, Option.bind_some]
      exact resolveAction_led within given led resolved

/-- In a catalog of contexts an operation is resolved to a function that the context of the
scope declares exactly if the context declares, with name and arity, whatever function an
overriding name leads to. -/
theorem declared_in_context_iff_namesake_is {reference : OperationReference}
    (within : scope.context = some context) (acts : op.actionKind? = some kind)
    (resolved : scope.resolve (.simple catalog) op overrides = .ok reference) :
    ∃ action, reference.target = .action action ∧
      (catalog.Declares context action.name action.arity ↔
        ∀ first, scope.namesake? catalog op kind overrides = some first →
          catalog.Declares context first.name (some first.arity)) := by
  obtain ⟨action, resolved, same⟩ := (resolve_eq_ok_iff_of_kind acts).1 resolved
  refine ⟨action, same ▸ rfl, ?_⟩
  rcases namesake_or_declared within resolved with ⟨first, found, same⟩ | ⟨absent, declared⟩
  · rw [same, found]
    constructor
    · rintro declared _ ⟨⟩
      exact declared
    · intro declares
      exact declares first rfl
  · rw [absent]
    refine iff_of_true declared ?_
    rintro _ ⟨⟩

/-- Two contexts with functions of one name on one schema. -/
def warehouse : SchemaCatalog where
  schemas := [{ name := ⟨"Inventory.Product"⟩, fields := [] }]
  contexts := [
    { name := ⟨"Billing"⟩, functions := [{ name := "list_products", arity := 7 }] },
    { name := ⟨"Inventory"⟩, functions := [{ name := "list_products", arity := 1 }] }]

def warehouseProducts (context : String) : OperationScope :=
  ⟨"product", ⟨"Inventory.Product"⟩, some ⟨context⟩⟩

theorem declared_in_billing : ∃ reference,
    (warehouseProducts "Billing").resolve (.simple warehouse) .list
        { names := [("list", some "list_products")] } = .ok reference ∧
      ∃ action, reference.target = .action action ∧
        (warehouse.Declares ⟨"Billing"⟩ action.name action.arity ↔
          ∀ first, (warehouseProducts "Billing").namesake? warehouse .list .read
              { names := [("list", some "list_products")] } = some first →
            warehouse.Declares ⟨"Billing"⟩ first.name (some first.arity)) := by
  have resolved : (warehouseProducts "Billing").resolveAction (.simple warehouse) .list .read
      { names := [("list", some "list_products")] } =
        .ok { name := "list_products", kind := .read, arity := some 7 } := by decide +kernel
  have found := (resolve_eq_ok_iff_of_kind rfl).2 ⟨_, resolved, rfl⟩
  exact ⟨_, found, declared_in_context_iff_namesake_is rfl rfl found⟩

/-- For the second context it is a function of the first, of an arity that
the second does not have. -/
theorem inventory_lists_by_billing :
    ((warehouseProducts "Inventory").resolve (.simple warehouse) .list
        { names := [("list", some "list_products")] }).toOption.bind (·.action?) =
      some { name := "list_products", kind := .read, arity := some 7 } ∧
    ¬ warehouse.Declares ⟨"Inventory"⟩ "list_products" (some 7) := by
  decide +kernel

end OperationScope

/-! ### Actions of resources -/

namespace OperationScope

/-- The interface that an overriding name stands for in the domain of the scope. -/
def interface? (scope : OperationScope) (catalog : ActionCatalog) (op : LogicalOp)
    (overrides : OperationOverrides) : Option Interface := do
  let context ← scope.context
  let name ← (overrides.nameFor op).join
  let domain ← catalog.domain? context
  domain.interfaces.find? (·.name = name)

/-- The schema whose resource has the actions to choose from. -/
def providing (scope : OperationScope) (catalog : ActionCatalog) (op : LogicalOp)
    (overrides : OperationOverrides) : SchemaName :=
  ((scope.interface? catalog op overrides).map (·.resource)).getD scope.schema

def interfaceAction? (scope : OperationScope) (catalog : ActionCatalog) (op : LogicalOp)
    (kind : ActionKind) (overrides : OperationOverrides) : Option Action := do
  let interface ← scope.interface? catalog op overrides
  choose? (fitting op
    ((catalog.actions interface.resource none kind).filter (·.name = interface.action)))

variable {scope : OperationScope} {catalog : ActionCatalog} {op : LogicalOp} {kind : ActionKind}
  {overrides : OperationOverrides} {action : Action}

theorem bind_target?_declarative (scope : OperationScope) (catalog : ActionCatalog)
    (overrides : OperationOverrides) {name : String}
    (given : (overrides.nameFor op).join = some name) :
    scope.context.bind (fun context => (Backend.declarative catalog).target? context name) =
      (scope.interface? catalog op overrides).map fun interface =>
        ⟨some interface.resource, interface.action, interface.arity⟩ := by
  rw [interface?, given]
  cases scope.context with
  | none => rfl
  | some context =>
    simp only [Option.bind_some, Option.bind_eq_bind, Backend.target?, ActionCatalog.target?]
    cases catalog.domain? context with
    | none => rfl
    | some domain =>
      simp only [Option.bind_some]
      cases domain.interfaces.find? (·.name = name) <;> rfl

theorem wanted_declarative_of_interface {interface : Interface}
    (exposed : scope.interface? catalog op overrides = some interface) :
    scope.wanted (.declarative catalog) op kind overrides =
      (catalog.actions interface.resource none kind).filter (·.name = interface.action) := by
  obtain ⟨name, given⟩ : ∃ name, (overrides.nameFor op).join = some name := by
    cases given : (overrides.nameFor op).join with
    | none =>
      rw [interface?, given] at exposed
      cases within : scope.context <;> simp [within] at exposed
    | some name => exact ⟨name, rfl⟩
  rw [wanted, given, candidates, bind_target?_declarative scope catalog overrides given, exposed]
  rfl

theorem wanted_declarative_subset (hidden : scope.interface? catalog op overrides = none)
    (member : action ∈ scope.wanted (.declarative catalog) op kind overrides) :
    action ∈ catalog.actions scope.schema scope.context kind := by
  have candidate := mem_candidates_of_mem_wanted member
  cases given : (overrides.nameFor op).join with
  | none =>
    rw [given] at candidate
    exact candidate
  | some name =>
    rw [given, candidates, bind_target?_declarative scope catalog overrides given, hidden]
      at candidate
    exact candidate

/-- Typed actions are only found among the candidates. -/
theorem resolveAction_declarative :
    scope.resolveAction (.declarative catalog) op kind overrides = .ok action ↔
      choose? (fitting op (scope.wanted (.declarative catalog) op kind overrides)) =
        some action := by
  have nothing : scope.standIn? (.declarative catalog) op kind overrides = none := by
    rw [Option.eq_none_iff_forall_ne_some]
    intro other standsIn
    obtain ⟨_, _, _, _, _, found⟩ := standIn?_eq_some_iff.1 standsIn
    cases found
  exact resolveAction_of_standIn?_eq_none nothing

/-- In a catalog of resources an operation is resolved to an action of the resource that provides
it, which may not be the one in the reference: the latter declares the action exactly if it declares
whatever action an interface leads to. -/
theorem declared_by_referenced_iff_interfaceAction_is {reference : OperationReference}
    (acts : op.actionKind? = some kind)
    (resolved : scope.resolve (.declarative catalog) op overrides = .ok reference) :
    ∃ action, reference.target = .action action ∧
      catalog.Declares (scope.providing catalog op overrides) action ∧
      (catalog.Declares reference.schema action ↔
        ∀ other, scope.interfaceAction? catalog op kind overrides = some other →
          catalog.Declares reference.schema other) := by
  obtain ⟨action, found, same⟩ := (resolve_eq_ok_iff_of_kind acts).1 resolved
  refine ⟨action, same ▸ rfl, ?_⟩
  have chosen := resolveAction_declarative.1 found
  obtain ⟨member, _⟩ := mem_fitting_iff.1 (mem_of_choose?_eq_some chosen)
  subst same
  rw [providing, interfaceAction?]
  cases exposed : scope.interface? catalog op overrides with
  | none =>
    have declared :=
      (ActionCatalog.declares_of_mem_actions (wanted_declarative_subset exposed member)).1
    refine ⟨declared, iff_of_true declared ?_⟩
    rintro _ ⟨⟩
  | some interface =>
    rw [wanted_declarative_of_interface exposed] at chosen member
    refine ⟨(ActionCatalog.declares_of_mem_actions (List.mem_of_mem_filter member)).1, ?_⟩
    rw [Option.bind_eq_bind, Option.bind_some, chosen]
    constructor
    · rintro declared _ ⟨⟩
      exact declared
    · intro declares
      exact declares action rfl

def market : ActionCatalog where
  resources := [
    { name := ⟨"Shop.Product"⟩, attributes := [] },
    { name := ⟨"Shop.Order"⟩, attributes := [], actions := [{ name := "index", kind := .read }] }]
  domains := [
    { name := ⟨"Shop"⟩
      interfaces := [{ name := "all_orders", resource := ⟨"Shop.Order"⟩, action := "index" }] }]

def marketScope (resource schema : String) : OperationScope :=
  ⟨resource, ⟨schema⟩, some ⟨"Shop"⟩⟩

theorem declared_by_order : ∃ reference,
    (marketScope "order" "Shop.Order").resolve (.declarative market) .list
        { names := [("list", some "all_orders")] } = .ok reference ∧
      ∃ action, reference.target = .action action ∧
        market.Declares ((marketScope "order" "Shop.Order").providing market .list
          { names := [("list", some "all_orders")] }) action ∧
        (market.Declares reference.schema action ↔
          ∀ other, (marketScope "order" "Shop.Order").interfaceAction? market .list .read
              { names := [("list", some "all_orders")] } = some other →
            market.Declares reference.schema other) := by
  have resolved : (marketScope "order" "Shop.Order").resolveAction (.declarative market) .list .read
      { names := [("list", some "all_orders")] } = .ok { name := "index", kind := .read } := by
    decide +kernel
  have found := (resolve_eq_ok_iff_of_kind rfl).2 ⟨_, resolved, rfl⟩
  exact ⟨_, found, declared_by_referenced_iff_interfaceAction_is rfl found⟩

/-- For products it leads to an action of orders, in a reference to products. -/
theorem product_lists_by_order :
    ((marketScope "product" "Shop.Product").resolve (.declarative market) .list
        { names := [("list", some "all_orders")] }).toOption.map (fun reference =>
          (reference.schema, reference.action?)) =
      some (⟨"Shop.Product"⟩, some { name := "index", kind := .read }) ∧
    ¬ market.Declares ⟨"Shop.Product"⟩ { name := "index", kind := .read } := by
  decide +kernel

end OperationScope

end Backoffice
