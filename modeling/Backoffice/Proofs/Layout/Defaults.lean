import Backoffice.Proofs.Omission

/-!
Views that are not declared can be written out.

A view that is not declared lists certain fields of its resource in their order. In a built registry
a declaration that lists the same fields gives the same tree: each of them is found under its own
key, is not omitted, and embeds only what is registered. A view without any field is the one that
cannot be written out, as a declared view must not be empty.
-/

namespace Backoffice

/-- Whether a field is listed in a view that is not declared. An index has no column that leads to
another schema. In a view with details, entries that belong to the resource are listed only if it is
known which resource they are of. -/
def Field.ListedIn (field : Field) (view : View) : Prop :=
  field.omitted = false ∧
    match view with
    | .index => field.type.isAssociation = false
    | .detail | .form =>
      field.type ∈ [.oneToMany, .embedOne, .embedMany] → field.relatedResource?.isSome = true

instance (field : Field) : (view : View) → Decidable (field.ListedIn view)
  | .index => inferInstanceAs (Decidable (_ ∧ _))
  | .detail | .form => inferInstanceAs (Decidable (_ ∧ (_ → _)))

def Resource.listedNames (resource : Resource) (view : View) : List String :=
  resource.order.filter fun key => (resource.field? key).any (·.ListedIn view)

/-- Whether a declaration lists the fields of some names in a view, without options. -/
def LayoutDeclaration.WritesOut (declaration : LayoutDeclaration) (view : View)
    (names : List String) : Prop :=
  match view with
  | .index => declaration.index = some { columns := names.map (.field · []), opts := [] }
  | .detail => declaration.detail = some (names.map (.field · []))
  | .form => declaration.form = some (names.map (.field · []))

theorem LayoutDeclaration.WritesOut.items? {declaration : LayoutDeclaration} {view : View}
    {names : List String} (writes : declaration.WritesOut view names) :
    declaration.items? view = some (names.map (.field · [])) := by
  cases view with
  | index => exact congrArg (Option.map (·.columns)) writes
  | detail => exact writes
  | form => exact writes

def Resource.listedFields (resource : Resource) (view : View) : List Field :=
  resource.orderedFields.filter (·.ListedIn view)

theorem Resource.Keyed.map_key_listedFields {resource : Resource} (keyed : resource.Keyed)
    (view : View) :
    (resource.listedFields view).map (·.key) = resource.listedNames view := by
  rw [listedFields, listedNames, orderedFields]
  induction resource.order with
  | nil => rfl
  | cons key rest inductionHypothesis =>
    rw [List.filterMap_cons, List.filter_cons]
    cases stored : resource.field? key with
    | none => exact inductionHypothesis
    | some field =>
      have same : field.key = key := keyed key field stored
      by_cases listed : field.ListedIn view
      · simp [listed, same, inductionHypothesis]
      · simp [listed, inductionHypothesis]

namespace LayoutScope

open LayoutNode

variable {scope : LayoutScope} {fields : List Field}

def listing (scope : LayoutScope) (fields : List Field) : LayoutNode :=
  match scope.view with
  | .index => scope.root scope.resource.opts (fields.map (fieldNode scope.resource.opts))
  | .detail | .form => scope.root [] [stack (fields.map (fieldNode []))]

theorem fieldNames_listing : (scope.listing fields).fieldNames = fields.map (·.key) := by
  have names (opts : Members) :
      (fields.map (fieldNode opts)).flatMap fieldNames = fields.map (·.key) := by
    rw [List.flatMap_map, List.map_eq_flatMap]
    simp only [fieldNames_fieldNode]
  have stacked : (scope.root [] [stack (fields.map (fieldNode []))]).fieldNames =
      fields.map (·.key) := by
    rw [root, fieldNames_mk, List.flatMap_singleton, stack, fieldNames_mk, names]
    · simp
    · simp
  obtain ⟨resource, registry, view⟩ := scope
  cases view with
  | index =>
    rw [listing, root, fieldNames_mk, names]
    simp
  | detail => exact stacked
  | form => exact stacked

theorem isDefaultColumn_eq (field : Field) :
    isDefaultColumn field = decide (field.ListedIn .index) := by
  rw [Bool.eq_iff_iff, isDefaultColumn, Bool.and_eq_true, Bool.not_eq_true', Bool.not_eq_true',
    decide_eq_true_eq, Field.ListedIn]

theorem isDefaultDetail_eq {view : View} (details : view ≠ .index) (field : Field) :
    isDefaultDetail field = decide (field.ListedIn view) := by
  have shown : isDefaultDetail field = true ↔ field.omitted = false ∧
      (field.type ∈ [.oneToMany, .embedOne, .embedMany] →
        field.relatedResource?.isSome = true) := by
    rw [isDefaultDetail, Bool.and_eq_true, Bool.not_eq_true']
    cases field.type <;> simp
  rw [Bool.eq_iff_iff, shown, decide_eq_true_eq]
  cases view with
  | index => exact absurd rfl details
  | detail => exact Iff.rfl
  | form => exact Iff.rfl

/-! ### Declared listings -/

section Found

variable (found : ∀ field ∈ fields, scope.field field.key = .ok field)

include found

theorem mapM_column_fields (opts : Members) :
    ((fields.map (·.key)).map (.field · [])).mapM (scope.column opts) =
      .ok (fields.map (fieldNode opts)) := by
  rw [Outcome.mapM_eq_ok_iff, List.map_map, List.forall₂_map_left_iff, List.forall₂_map_right_iff,
    List.forall₂_same]
  intro field member
  change (scope.field field.key >>= _) = _
  rw [found field member]
  rfl

theorem items_fields (number : Nat) :
    scope.items [] number ((fields.map (·.key)).map (.field · [])) =
      .ok (fields.map (fieldNode [])) := by
  induction fields generalizing number with
  | nil => rw [List.map_nil, List.map_nil, LayoutScope.items]; rfl
  | cons field rest inductionHypothesis =>
    obtain ⟨foundField, foundRest⟩ := List.forall_mem_cons.1 found
    rw [List.map_cons, List.map_cons, LayoutScope.items, LayoutScope.item, foundField]
    change (scope.items _ _ _ >>= _) = _
    rw [inductionHypothesis foundRest]
    rfl

theorem index_fields (notEmpty : fields ≠ []) :
    scope.index (some { columns := (fields.map (·.key)).map (.field · []), opts := [] }) =
      .ok (scope.root scope.resource.opts (fields.map (fieldNode scope.resource.opts))) := by
  rw [LayoutScope.index, if_neg (by simpa using notEmpty)]
  change (List.mapM _ _ >>= _) = _
  rw [mapM_column_fields found]
  rfl

/-- A single field is stacked as several are. -/
theorem content_fields (notEmpty : fields ≠ []) :
    scope.content (some ((fields.map (·.key)).map (.field · []))) =
      .ok (stack (fields.map (fieldNode []))) := by
  have stacked : scope.content (some ((fields.map (·.key)).map (.field · []))) =
      (scope.items [] 0 ((fields.map (·.key)).map (.field · []))).map stack := by
    match fields with
    | [] => exact absurd rfl notEmpty
    | [field] => rfl
    | first :: second :: rest => rfl
  rw [stacked, items_fields found]
  rfl

end Found

end LayoutScope

namespace LayoutTree

variable {resource : Resource} {view : View} {registry : Registry} {fields : List Field}

theorem compile_none (resource : Resource) (view : View) (registry : Registry) :
    compile resource view none registry =
      .ok ⟨resource.name, view,
        LayoutScope.listing ⟨resource, registry, view⟩ (resource.listedFields view)⟩ := by
  by_cases details : view = .index
  · subst details
    rw [compile_index, Resource.listedFields, ← funext LayoutScope.isDefaultColumn_eq]
    rfl
  · rw [compile_details details, Resource.listedFields,
      ← funext (LayoutScope.isDefaultDetail_eq details)]
    cases view with
    | index => exact absurd rfl details
    | detail => rfl
    | form => rfl

theorem compile_writtenOut {declaration : LayoutDeclaration}
    (found : ∀ field ∈ fields, LayoutScope.field ⟨resource, registry, view⟩ field.key = .ok field)
    (notEmpty : fields ≠ []) (writes : declaration.WritesOut view (fields.map (·.key))) :
    compile resource view (some declaration) registry =
      .ok ⟨resource.name, view, LayoutScope.listing ⟨resource, registry, view⟩ fields⟩ := by
  by_cases details : view = .index
  · subst details
    change declaration.index = _ at writes
    rw [compile_index, Option.bind_some, writes, LayoutScope.index_fields found notEmpty]
    rfl
  · rw [compile_details details, Option.bind_some, writes.items?,
      LayoutScope.content_fields found notEmpty]
    cases view with
    | index => exact absurd rfl details
    | detail => rfl
    | form => rfl

/-- A declared view must not be empty. -/
theorem compile_ne_ok_of_writesOut_nil {declaration : LayoutDeclaration}
    (writes : declaration.WritesOut view []) (tree : LayoutTree) :
    compile resource view (some declaration) registry ≠ .ok tree := by
  intro compiled
  by_cases details : view = .index
  · subst details
    change declaration.index = _ at writes
    rw [compile_index, Option.bind_some, writes] at compiled
    cases compiled
  · rw [compile_details details, Option.bind_some, writes.items?] at compiled
    cases compiled

end LayoutTree

/-! ### Built registries -/

namespace Registry

variable {declarations : List ResourceDeclaration} {backends : Backends} {policy : NamingPolicy}
  {registry : Registry} {resource : Resource}

theorem Closed.field_key_eq_ok (closed : registry.Closed) (member : resource ∈ registry.resources)
    (keyed : resource.Keyed) (view : View) : ∀ field ∈ resource.listedFields view,
      LayoutScope.field ⟨resource, registry, view⟩ field.key = .ok field := by
  intro field listed
  obtain ⟨inOrder, isListed⟩ := List.mem_filter.1 listed
  obtain ⟨key, stored⟩ := Resource.exists_field_of_mem_orderedFields inOrder
  have same : field.key = key := keyed key field stored
  rw [same]
  exact closed.field_eq_ok member view stored (of_decide_eq_true isListed).1

/-- A view that is not declared compiles to the same tree as a declaration that lists its
fields, if it has any. -/
theorem compile_writesOut_iff_of_build_eq_ok
    (built : build declarations backends policy = .ok registry)
    (member : resource ∈ registry.resources) (view : View) :
    ∃ tree, LayoutTree.compile resource view none registry = .ok tree ∧
      tree.fieldNames = resource.listedNames view ∧
      ∀ declaration : LayoutDeclaration, declaration.WritesOut view (resource.listedNames view) →
        (LayoutTree.compile resource view (some declaration) registry = .ok tree ↔
          tree.fieldNames ≠ []) := by
  have keyed : resource.Keyed := (flaggedBy_of_build_eq_ok built member).keyed
  have found := (closed_of_build_eq_ok built).field_key_eq_ok member keyed view
  have names := keyed.map_key_listedFields view
  refine ⟨_, LayoutTree.compile_none resource view registry,
    LayoutScope.fieldNames_listing.trans names, ?_⟩
  intro declaration writes
  rw [LayoutTree.fieldNames, LayoutScope.fieldNames_listing]
  rw [← names] at writes
  constructor
  · intro compiled empty
    rw [empty] at writes
    exact LayoutTree.compile_ne_ok_of_writesOut_nil writes _ compiled
  · intro notEmpty
    exact LayoutTree.compile_writtenOut found (mt (congrArg (List.map (·.key))) notEmpty) writes

open AppDeclaration (vault vaultBackends vaultPolicy accountDeclaration)

theorem listedNames_build_vault :
    (build vault.resources vaultBackends vaultPolicy).toOption.map (·.resources.map fun resource =>
        (resource.listedNames .index, resource.listedNames .form)) =
      some [(["secret_hint", "email"], ["secret_hint", "email", "profile"]),
        (["bio"], ["bio"])] := by
  have accounts (registry : Registry) :
      register vaultBackends vaultPolicy registry accountDeclaration = _ :=
    AppDeclaration.register_eq_insertAll registry rfl AppDeclaration.synthesizeEmbeds_vaultAccount
  rw [build]
  simp only [vault, List.foldlM_cons, List.foldlM_nil, accounts]
  decide +kernel

def accountForm : LayoutDeclaration where
  resource := "account"
  form := some [.field "secret_hint" [], .field "email" [], .field "profile" []]

theorem compile_accountForm :
    ∃ registry resource tree, build vault.resources vaultBackends vaultPolicy = .ok registry ∧
    resource ∈ registry.resources ∧ LayoutTree.compile resource .form none registry = .ok tree ∧
    LayoutTree.compile resource .form (some accountForm) registry = .ok tree := by
  obtain ⟨registry, built, names⟩ :=
    Outcome.exists_ok_of_toOption_map_eq_some listedNames_build_vault
  obtain ⟨resource, others, listed, listedNames, _⟩ := List.map_eq_cons_iff.1 names
  obtain ⟨_, formNames⟩ := Prod.mk.inj listedNames
  have member : resource ∈ registry.resources := listed ▸ List.mem_cons_self
  obtain ⟨tree, compiled, shown, writtenOut⟩ :=
    compile_writesOut_iff_of_build_eq_ok built member .form
  have writes : accountForm.WritesOut .form (resource.listedNames .form) := by
    rw [formNames]
    rfl
  have notEmpty : tree.fieldNames ≠ [] := by
    rw [shown, formNames]
    exact nofun
  exact ⟨registry, resource, tree, built, member, compiled,
    (writtenOut accountForm writes).2 notEmpty⟩

end Registry

end Backoffice
