import Backoffice.Proofs.Layout.WellFormed

/-!
Compiling a declared view succeeds exactly if it is well-formed, and fails with the error of
its first item with a fault.

`fault?_item` is the step: compiling an item fails as the first fault among its visits says.
`fits_iff` ties the visits to the judgement, item by item. A view puts the two together.
-/

namespace Backoffice

namespace LayoutScope

/-! ### Compiling stops at the first fault -/

theorem findSome?_fault?_cons (scope : LayoutScope) (visit : LayoutVisit)
    (rest : List LayoutVisit) :
    (visit :: rest).findSome? scope.fault? =
      (scope.fault? visit).or (rest.findSome? scope.fault?) := by
  rw [List.findSome?_cons]
  cases scope.fault? visit with
  | none => rfl
  | some error => rfl

mutual

theorem fault?_item (scope : LayoutScope) (inherited : Members) (number : Nat) :
    ∀ item : LayoutItem, Outcome.fault? (scope.item inherited number item) =
      (item.visits .content number).findSome? scope.fault?
  | .field name own => by
    rw [LayoutScope.item, Outcome.fault?_bind_ok, fault?_field, LayoutItem.visits,
      findSome?_fault?_cons, List.findSome?_nil, Option.or_none]
    rfl
  | .stacked items own => by
    rw [LayoutScope.item, fault?_container, fault?_items, LayoutItem.visits,
      findSome?_fault?_cons]
    rfl
  | .inline items own => by
    rw [LayoutScope.item, fault?_container, fault?_items, LayoutItem.visits,
      findSome?_fault?_cons]
    rfl
  | .group title items own => by
    rw [LayoutScope.item, fault?_container, fault?_items, LayoutItem.visits,
      findSome?_fault?_cons]
    rfl
  | .tabs items own => by
    rw [LayoutScope.item, LayoutItem.visits, findSome?_fault?_cons]
    simp only [fault?, emptyFault?]
    split
    · rfl
    · rw [Outcome.fault?_bind_ok, fault?_tabs, Option.none_or]
  | .tab label active items own => by
    rw [LayoutScope.item, LayoutItem.visits, findSome?_fault?_cons]
    rfl

theorem fault?_items (scope : LayoutScope) (inherited : Members) (number : Nat) :
    ∀ items : List LayoutItem, Outcome.fault? (scope.items inherited number items) =
      (LayoutItem.visitsOfList .content number items).findSome? scope.fault?
  | [] => rfl
  | head :: rest => by
    rw [LayoutScope.items, Outcome.fault?_bind fun _ => Outcome.fault?_bind_ok,
      fault?_item, fault?_items, LayoutItem.visitsOfList, List.findSome?_append]
    rfl

theorem fault?_tabs (scope : LayoutScope) (inherited : Members) (group : Nat) (explicit : Bool)
    (index number : Nat) :
    ∀ items : List LayoutItem, Outcome.fault?
        (scope.tabs inherited (scope.sectionsId group) explicit index number items) =
      (LayoutItem.visitsOfList (.tabs group index) number items).findSome? scope.fault?
  | [] => rfl
  | .tab label active items own :: rest => by
    rw [LayoutScope.tabs, LayoutItem.visitsOfList, LayoutItem.visits, List.findSome?_append,
      findSome?_fault?_cons, ← fault?_items scope (Table.merge inherited own), Option.or_assoc,
      LayoutPlace.next, LayoutItem.tabsCount, ← fault?_tabs scope inherited group explicit]
    simp only [fault?]
    rw [← fault?_requireItems]
    exact Outcome.fault?_bind fun _ => Outcome.fault?_bind fun _ => Outcome.fault?_bind_ok
  | .field name own :: rest => rfl
  | .stacked items own :: rest => rfl
  | .inline items own :: rest => rfl
  | .group title items own :: rest => rfl
  | .tabs items own :: rest => rfl

end

/-! ### Items without faults -/

theorem fits_field_iff {scope : LayoutScope} {name : String} {opts : Members} :
    scope.Fits (.field name opts) ↔ scope.Shows name := by
  constructor
  · intro fits
    cases fits with
    | field shown => exact shown
  · exact .field

theorem fits_stacked_iff {scope : LayoutScope} {items : List LayoutItem} {opts : Members} :
    scope.Fits (.stacked items opts) ↔ items ≠ [] ∧ ∀ item ∈ items, scope.Fits item := by
  constructor
  · intro fits
    cases fits with
    | stacked nonempty fit => exact ⟨nonempty, fit⟩
  · exact fun ⟨nonempty, fit⟩ => .stacked nonempty fit

theorem fits_inline_iff {scope : LayoutScope} {items : List LayoutItem} {opts : Members} :
    scope.Fits (.inline items opts) ↔ items ≠ [] ∧ ∀ item ∈ items, scope.Fits item := by
  constructor
  · intro fits
    cases fits with
    | inline nonempty fit => exact ⟨nonempty, fit⟩
  · exact fun ⟨nonempty, fit⟩ => .inline nonempty fit

theorem fits_group_iff {scope : LayoutScope} {title : String} {items : List LayoutItem}
    {opts : Members} :
    scope.Fits (.group title items opts) ↔ items ≠ [] ∧ ∀ item ∈ items, scope.Fits item := by
  constructor
  · intro fits
    cases fits with
    | group nonempty fit => exact ⟨nonempty, fit⟩
  · exact fun ⟨nonempty, fit⟩ => .group nonempty fit

theorem fits_tabs_iff {scope : LayoutScope} {items : List LayoutItem} {opts : Members} :
    scope.Fits (.tabs items opts) ↔ items ≠ [] ∧ ∀ item ∈ items, scope.FitsTabs item := by
  constructor
  · intro fits
    cases fits with
    | tabs nonempty fit => exact ⟨nonempty, fit⟩
  · exact fun ⟨nonempty, fit⟩ => .tabs nonempty fit

theorem not_fits_tab {scope : LayoutScope} {label : String} {active : Option Bool}
    {items : List LayoutItem} {opts : Members} :
    ¬ scope.Fits (.tab label active items opts) := by
  intro fits
  cases fits

theorem fitsTabs_tab_iff {scope : LayoutScope} {label : String} {active : Option Bool}
    {items : List LayoutItem} {opts : Members} :
    scope.FitsTabs (.tab label active items opts) ↔
      items ≠ [] ∧ ∀ item ∈ items, scope.Fits item := by
  constructor
  · intro fits
    cases fits with
    | tab nonempty fit => exact ⟨nonempty, fit⟩
  · exact fun ⟨nonempty, fit⟩ => .tab nonempty fit

theorem mem_visits_self (place : LayoutPlace) (number : Nat) (item : LayoutItem) :
    ⟨place, number, item⟩ ∈ item.visits place number := by
  cases item <;> simp [LayoutItem.visits]

/-- Anything but a tab in a group of tabs is a misfit, and the visit to it has a fault. -/
theorem forall_fitsTabs_iff_of_stray {scope : LayoutScope} {group index number : Nat}
    {item : LayoutItem} {rest : List LayoutItem} (misfit : ¬ scope.FitsTabs item)
    (stray : scope.fault? ⟨.tabs group index, number, item⟩ ≠ none) :
    (∀ other ∈ item :: rest, scope.FitsTabs other) ↔
      ∀ visit ∈ LayoutItem.visitsOfList (.tabs group index) number (item :: rest),
        scope.fault? visit = none := by
  apply iff_of_false
  · exact fun fit => misfit (fit item List.mem_cons_self)
  · intro faultless
    apply stray
    apply faultless
    exact List.mem_append_left _ (mem_visits_self _ _ item)

mutual

theorem fits_iff (scope : LayoutScope) (number : Nat) :
    ∀ item : LayoutItem, scope.Fits item ↔
      ∀ visit ∈ item.visits .content number, scope.fault? visit = none
  | .field name own => by
    rw [fits_field_iff, LayoutItem.visits, List.forall_mem_singleton]
    exact (fieldFault?_eq_none_iff scope name).symm
  | .stacked items own => by
    rw [fits_stacked_iff, LayoutItem.visits, List.forall_mem_cons]
    exact and_congr (emptyFault?_eq_none_iff scope _ items).symm
      (forall_fits_iff scope number items)
  | .inline items own => by
    rw [fits_inline_iff, LayoutItem.visits, List.forall_mem_cons]
    exact and_congr (emptyFault?_eq_none_iff scope _ items).symm
      (forall_fits_iff scope number items)
  | .group title items own => by
    rw [fits_group_iff, LayoutItem.visits, List.forall_mem_cons]
    exact and_congr (emptyFault?_eq_none_iff scope _ items).symm
      (forall_fits_iff scope number items)
  | .tabs items own => by
    rw [fits_tabs_iff, LayoutItem.visits, List.forall_mem_cons]
    exact and_congr (emptyFault?_eq_none_iff scope _ items).symm
      (forall_fitsTabs_iff scope number 0 (number + 1) items)
  | .tab label active items own => by
    apply iff_of_false not_fits_tab
    intro faultless
    cases faultless _ (mem_visits_self .content number _)

theorem forall_fits_iff (scope : LayoutScope) (number : Nat) :
    ∀ items : List LayoutItem, (∀ item ∈ items, scope.Fits item) ↔
      ∀ visit ∈ LayoutItem.visitsOfList .content number items, scope.fault? visit = none
  | [] => by simp [LayoutItem.visitsOfList]
  | head :: rest => by
    rw [LayoutItem.visitsOfList, List.forall_mem_cons, List.forall_mem_append]
    exact and_congr (fits_iff scope number head)
      (forall_fits_iff scope (number + head.tabsCount) rest)

theorem forall_fitsTabs_iff (scope : LayoutScope) (group index number : Nat) :
    ∀ items : List LayoutItem, (∀ item ∈ items, scope.FitsTabs item) ↔
      ∀ visit ∈ LayoutItem.visitsOfList (.tabs group index) number items,
        scope.fault? visit = none
  | [] => by simp [LayoutItem.visitsOfList]
  | .tab label active items own :: rest => by
    rw [LayoutItem.visitsOfList, LayoutItem.visits, List.forall_mem_cons, fitsTabs_tab_iff,
      List.forall_mem_append, List.forall_mem_cons]
    apply and_congr
    · exact and_congr (emptyFault?_eq_none_iff scope _ items).symm
        (forall_fits_iff scope number items)
    · exact forall_fitsTabs_iff scope group (index + 1) _ rest
  | .field _ _ :: _ => forall_fitsTabs_iff_of_stray nofun nofun
  | .stacked _ _ :: _ => forall_fitsTabs_iff_of_stray nofun nofun
  | .inline _ _ :: _ => forall_fitsTabs_iff_of_stray nofun nofun
  | .group _ _ _ :: _ => forall_fitsTabs_iff_of_stray nofun nofun
  | .tabs _ _ :: _ => forall_fitsTabs_iff_of_stray nofun nofun

end

/-! ### Views -/

theorem fault?_column (scope : LayoutScope) (inherited : Members) (number : Nat)
    (item : LayoutItem) :
    Outcome.fault? (scope.column inherited item) =
      (item.visits .column number).findSome? scope.fault? := by
  cases item with
  | field name own =>
    rw [column, Outcome.fault?_bind_ok, fault?_field, LayoutItem.visits,
      findSome?_fault?_cons, List.findSome?_nil, Option.or_none]
    rfl
  | _ => rfl

theorem fault?_columns (scope : LayoutScope) (inherited : Members) (number : Nat)
    (columns : List LayoutItem) :
    Outcome.fault? (columns.mapM (scope.column inherited)) =
      (LayoutItem.visitsOfList .column number columns).findSome? scope.fault? := by
  rw [Outcome.fault?_mapM]
  induction columns generalizing number with
  | nil => rfl
  | cons head rest inductionHypothesis =>
    rw [List.findSome?_cons, LayoutItem.visitsOfList, List.findSome?_append,
      ← fault?_column scope inherited number head, inductionHypothesis (number + head.tabsCount)]
    cases Outcome.fault? (scope.column inherited head) with
    | none => rfl
    | some error => rfl

theorem fitsIndex_iff (scope : LayoutScope) (number : Nat) (item : LayoutItem) :
    scope.FitsIndex item ↔ ∀ visit ∈ item.visits .column number, scope.fault? visit = none := by
  cases item with
  | field name own =>
    rw [LayoutItem.visits, List.forall_mem_singleton]
    constructor
    · rintro ⟨shown⟩
      exact (fieldFault?_eq_none_iff scope name).2 shown
    · exact fun faultless => .field ((fieldFault?_eq_none_iff scope name).1 faultless)
  | _ =>
    apply iff_of_false nofun
    intro faultless
    cases faultless _ (mem_visits_self .column number _)

theorem forall_fitsIndex_iff (scope : LayoutScope) (number : Nat) (columns : List LayoutItem) :
    (∀ item ∈ columns, scope.FitsIndex item) ↔
      ∀ visit ∈ LayoutItem.visitsOfList .column number columns, scope.fault? visit = none := by
  induction columns generalizing number with
  | nil => simp [LayoutItem.visitsOfList]
  | cons head rest inductionHypothesis =>
    rw [LayoutItem.visitsOfList, List.forall_mem_cons, List.forall_mem_append]
    exact and_congr (fitsIndex_iff scope number head)
      (inductionHypothesis (number + head.tabsCount))

def viewFault? (scope : LayoutScope) (items : List LayoutItem) : Option Error :=
  (scope.emptyFault? scope.nothingDeclared items).or ((scope.visits items).findSome? scope.fault?)

theorem viewFault?_eq_none_iff (scope : LayoutScope) (items : List LayoutItem) :
    scope.viewFault? items = none ↔ scope.WellFormed items := by
  rw [viewFault?, Option.or_eq_none_iff, emptyFault?_eq_none_iff, List.findSome?_eq_none_iff,
    WellFormed, visits]
  apply and_congr_right
  intro _
  cases scope.view with
  | index => exact (forall_fitsIndex_iff scope 0 items).symm
  | detail => exact (forall_fits_iff scope 0 items).symm
  | form => exact (forall_fits_iff scope 0 items).symm

theorem viewFault?_eq_some_iff (scope : LayoutScope) (items : List LayoutItem) (error : Error) :
    scope.viewFault? items = some error ↔ scope.FirstFault items error := by
  cases items with
  | nil =>
    simp [viewFault?, emptyFault?, FirstFault, visits, LayoutItem.visitsOfList, eq_comm]
  | cons head rest =>
    rw [viewFault?, emptyFault?, List.isEmpty_cons, if_neg Bool.false_ne_true, Option.none_or,
      List.findSome?_eq_some_iff, FirstFault]
    constructor
    · rintro ⟨before, visit, after, split, faulty, faultless⟩
      exact .inr ⟨before, visit, after, split, faultless, faulty⟩
    · rintro (⟨empty, _⟩ | ⟨before, visit, after, split, faultless, faulty⟩)
      · exact absurd empty (List.cons_ne_nil head rest)
      · exact ⟨before, visit, after, split, faulty, faultless⟩

theorem fault?_index (scope : LayoutScope) (index : scope.view = .index)
    (declared : Option IndexDeclaration) :
    Outcome.fault? (scope.index declared) =
      (declared.map (·.columns)).bind scope.viewFault? := by
  cases declared with
  | none => rfl
  | some declared =>
    rw [LayoutScope.index, Option.map_some, Option.bind_some, viewFault?, emptyFault?,
      nothingDeclared, visits, index]
    split
    · rfl
    · rw [Outcome.fault?_bind_ok, fault?_columns scope _ 0]
      rfl

theorem fault?_content (scope : LayoutScope) (details : scope.view ≠ .index)
    (declared : Option (List LayoutItem)) :
    Outcome.fault? (scope.content declared) = declared.bind scope.viewFault? := by
  have visited (items : List LayoutItem) :
      scope.visits items = LayoutItem.visitsOfList .content 0 items := by
    unfold visits
    cases view : scope.view with
    | index => exact absurd view details
    | _ => rfl
  have stacked (items : List LayoutItem) :
      Outcome.fault? ((scope.items [] 0 items).map stack) =
        (scope.visits items).findSome? scope.fault? := by
    rw [Outcome.fault?_map, fault?_items, visited]
  cases declared with
  | none => rfl
  | some items =>
    rw [Option.bind_some, viewFault?]
    match items with
    | [] =>
      unfold content nothingDeclared
      cases view : scope.view with
      | index => exact absurd view details
      | _ => rfl
    | [single] =>
      rw [content]
      split
      · rw [fault?_item, visited, LayoutItem.visitsOfList, LayoutItem.visitsOfList,
          List.append_nil]
        rfl
      · exact stacked [single]
    | first :: second :: rest => exact stacked (first :: second :: rest)

theorem fault?_details (scope : LayoutScope) (details : scope.view ≠ .index)
    (declared : Option (List LayoutItem)) :
    Outcome.fault? (scope.details declared) = declared.bind scope.viewFault? := by
  rw [LayoutScope.details, Outcome.fault?_bind_ok, fault?_content scope details]

end LayoutScope

namespace LayoutTree

theorem fault?_compile (resource : Resource) (view : View) (declared : Option LayoutDeclaration)
    (registry : Registry) :
    Outcome.fault? (compile resource view declared registry) =
      (declared.bind (·.items? view)).bind
        (LayoutScope.viewFault? { resource, registry, view }) := by
  cases view with
  | index =>
    apply Outcome.fault?_bind_ok.trans
    rw [LayoutScope.fault?_index _ rfl]
    cases declared with
    | none => rfl
    | some declaration => rfl
  | detail =>
    apply Outcome.fault?_bind_ok.trans
    apply LayoutScope.fault?_details
    exact nofun
  | form =>
    apply Outcome.fault?_bind_ok.trans
    apply LayoutScope.fault?_details
    exact nofun

/-- A view compiles exactly if it is not declared or well-formed. If it does not, it
declares nothing, or some item has a fault, and the error is that of the first one in
the order of declaration. -/
theorem compile_ok_iff_wellFormed_and_error_iff_firstFault (resource : Resource)
    (registry : Registry) (view : View) (declared : Option LayoutDeclaration) :
    ((∃ tree, compile resource view declared registry = .ok tree) ↔
      ∀ items, declared.bind (·.items? view) = some items →
        LayoutScope.WellFormed { resource, registry, view } items) ∧
    ∀ error, compile resource view declared registry = .error error ↔
      ∃ items, declared.bind (·.items? view) = some items ∧
        LayoutScope.FirstFault { resource, registry, view } items error := by
  constructor
  · rw [← Outcome.fault?_eq_none_iff, fault?_compile, Option.bind_eq_none_iff]
    apply forall_congr'
    intro items
    rw [LayoutScope.viewFault?_eq_none_iff]
  · intro error
    rw [← Outcome.fault?_eq_some_iff, fault?_compile, Option.bind_eq_some_iff]
    apply exists_congr
    intro items
    rw [LayoutScope.viewFault?_eq_some_iff]

end LayoutTree

end Backoffice
