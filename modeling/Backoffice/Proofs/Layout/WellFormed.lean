import Backoffice.Layout.Compile
import Backoffice.Proofs.Outcome

/-!
Which declared views compile, and which item is to blame when one does not.

`WellFormed` says what a declared view may look like, by the kind of each item, and without an
order. `visits` lists the items of a view where they stand, each before those inside it, and
`fault?` looks at one of them alone. Compiling succeeds exactly on well-formed views, and its error
is that of the first visited item with a fault.
-/

namespace Backoffice

namespace LayoutDeclaration

def items? (declaration : LayoutDeclaration) : View → Option (List LayoutItem)
  | .index => declaration.index.map (·.columns)
  | .detail => declaration.detail
  | .form => declaration.form

end LayoutDeclaration

/-! ### Well-formed views -/

namespace LayoutScope

/-- A field that can be shown: the resource has it, it is not omitted, and what it embeds is
registered. -/
def Shows (scope : LayoutScope) (name : String) : Prop :=
  ∃ field, scope.resource.field? name = some field ∧ field.omitted = false ∧
    ∀ embed, field.embed? = some embed → scope.registry.contains embed.resource = true

mutual

/-- Items that may stand at the top of a view with details, in a container, or in a tab.
A tab is none of them. -/
inductive Fits (scope : LayoutScope) : LayoutItem → Prop where
  | field {name opts} : scope.Shows name → Fits scope (.field name opts)
  | stacked {items opts} :
      items ≠ [] → (∀ item ∈ items, Fits scope item) → Fits scope (.stacked items opts)
  | inline {items opts} :
      items ≠ [] → (∀ item ∈ items, Fits scope item) → Fits scope (.inline items opts)
  | group {title items opts} :
      items ≠ [] → (∀ item ∈ items, Fits scope item) → Fits scope (.group title items opts)
  | tabs {items opts} :
      items ≠ [] → (∀ item ∈ items, FitsTabs scope item) → Fits scope (.tabs items opts)

/-- Items that may stand in a group of tabs: tabs, and nothing else. -/
inductive FitsTabs (scope : LayoutScope) : LayoutItem → Prop where
  | tab {label active items opts} :
      items ≠ [] → (∀ item ∈ items, Fits scope item) →
      FitsTabs scope (.tab label active items opts)

end

/-- Items that may stand in an index: fields, and nothing else. -/
inductive FitsIndex (scope : LayoutScope) : LayoutItem → Prop where
  | field {name opts} : scope.Shows name → FitsIndex scope (.field name opts)

/-- A declared view that can be compiled. -/
def WellFormed (scope : LayoutScope) (items : List LayoutItem) : Prop :=
  items ≠ [] ∧
    match scope.view with
    | .index => ∀ item ∈ items, scope.FitsIndex item
    | .detail | .form => ∀ item ∈ items, scope.Fits item

end LayoutScope

/-! ### The order of the items -/

/-- Where an item stands. -/
inductive LayoutPlace where
  /-- Among the columns of an index. -/
  | column
  /-- At the top of a view with details, in a container, or in a tab. -/
  | content
  /-- In the group of tabs of a number, after so many others. -/
  | tabs (group index : Nat)
  deriving DecidableEq, Repr

/-- An item where it stands, and the number of groups of tabs that are declared before it. -/
structure LayoutVisit where
  place : LayoutPlace
  number : Nat
  item : LayoutItem

def LayoutPlace.next : LayoutPlace → LayoutPlace
  | tabs group index => tabs group (index + 1)
  | place => place

namespace LayoutItem

mutual

/-- The item and all items inside it, each one before those inside it, and those before
the item that follows. -/
def visits (place : LayoutPlace) (number : Nat) : LayoutItem → List LayoutVisit
  | field name opts => [⟨place, number, field name opts⟩]
  | stacked items opts =>
    ⟨place, number, stacked items opts⟩ :: visitsOfList .content number items
  | inline items opts =>
    ⟨place, number, inline items opts⟩ :: visitsOfList .content number items
  | group title items opts =>
    ⟨place, number, group title items opts⟩ :: visitsOfList .content number items
  | tabs items opts =>
    ⟨place, number, tabs items opts⟩ :: visitsOfList (.tabs number 0) (number + 1) items
  | tab label active items opts =>
    ⟨place, number, tab label active items opts⟩ :: visitsOfList .content number items

def visitsOfList (place : LayoutPlace) (number : Nat) : List LayoutItem → List LayoutVisit
  | [] => []
  | item :: rest =>
    visits place number item ++ visitsOfList place.next (number + item.tabsCount) rest

end

end LayoutItem

namespace LayoutScope

def visits (scope : LayoutScope) (items : List LayoutItem) : List LayoutVisit :=
  LayoutItem.visitsOfList
    (match scope.view with
      | .index => .column
      | .detail | .form => .content) 0 items

/-! ### Faults -/

/-- What is wrong with a field that cannot be shown. -/
def fieldFault? (scope : LayoutScope) (name : String) : Option Error :=
  match scope.resource.field? name with
  | none => some (.unknownField scope.resource.name name)
  | some field =>
    if field.omitted then some (.omittedField scope.resource.name name)
    else field.embed?.bind fun embed =>
      if scope.registry.contains embed.resource then none
      else some (.missingReference .resource embed.resource)

def emptyFault? (scope : LayoutScope) (fault : LayoutFault) (items : List LayoutItem) :
    Option Error :=
  if items.isEmpty then some (scope.malformed fault) else none

/-- What is wrong with an item where it stands, whatever is wrong with those inside it. -/
def fault? (scope : LayoutScope) (visit : LayoutVisit) : Option Error :=
  match visit.place, visit.item with
  | .column, .field name _ | .content, .field name _ => scope.fieldFault? name
  | .column, _ => some (scope.malformed .columnNotField)
  | .content, .stacked items _ => scope.emptyFault? (.emptyContainer .stacked "stacked") items
  | .content, .inline items _ => scope.emptyFault? (.emptyContainer .inline "inline") items
  | .content, .group title items _ => scope.emptyFault? (.emptyContainer .group title) items
  | .content, .tabs items _ =>
    scope.emptyFault? (.emptyTabs (scope.sectionsId visit.number)) items
  | .content, .tab label _ _ _ => some (scope.malformed (.strayTab label))
  | .tabs group index, .tab _ _ items _ =>
    scope.emptyFault? (.emptyContainer .tab (tabId (scope.sectionsId group) index)) items
  | .tabs group _, _ => some (scope.malformed (.notTab (scope.sectionsId group)))

def nothingDeclared (scope : LayoutScope) : LayoutFault :=
  match scope.view with
  | .index => .noColumns
  | view => .noItems view

/-- The error of a view: that it declares nothing, or that of its first item with a fault. -/
def FirstFault (scope : LayoutScope) (items : List LayoutItem) (error : Error) : Prop :=
  (items = [] ∧ error = scope.malformed scope.nothingDeclared) ∨
    ∃ before visit after, scope.visits items = before ++ visit :: after ∧
      (∀ earlier ∈ before, scope.fault? earlier = none) ∧ scope.fault? visit = some error

/-! ### Faults of fields and containers -/

theorem fault?_field (scope : LayoutScope) (name : String) :
    Outcome.fault? (scope.field name) = scope.fieldFault? name := by
  unfold field fieldFault?
  cases scope.resource.field? name with
  | none => rfl
  | some found =>
    simp only
    split
    · rfl
    · cases found.embed? with
      | none => rfl
      | some embed =>
        simp only [Option.bind_some]
        split
        · rfl
        · rfl

theorem fieldFault?_eq_none_iff (scope : LayoutScope) (name : String) :
    scope.fieldFault? name = none ↔ scope.Shows name := by
  unfold fieldFault? Shows
  cases scope.resource.field? name with
  | none => simp
  | some found =>
    cases omitted : found.omitted with
    | true => simp [omitted]
    | false =>
      cases embedded : found.embed? with
      | none => simp [omitted, embedded]
      | some embed => simp [omitted, embedded]

theorem fault?_requireItems (scope : LayoutScope) (kind : ContainerKind) (name : String)
    (items : List LayoutItem) :
    Outcome.fault? (scope.requireItems kind name items) =
      scope.emptyFault? (.emptyContainer kind name) items := by
  unfold requireItems emptyFault?
  split
  · rfl
  · rfl

theorem emptyFault?_eq_none_iff (scope : LayoutScope) (fault : LayoutFault)
    (items : List LayoutItem) : scope.emptyFault? fault items = none ↔ items ≠ [] := by
  cases items with
  | nil => simp [emptyFault?]
  | cons item rest => simp [emptyFault?]

/-- A container fails for want of items, or as its content does. -/
theorem fault?_container (scope : LayoutScope) (kind : ContainerKind) (name : String)
    (items : List LayoutItem) {Content Node : Type} (content : Except Error Content)
    (node : Content → Node) :
    Outcome.fault? (do
      scope.requireItems kind name items
      let content ← content
      .ok (node content) : Except Error Node) =
      (scope.emptyFault? (.emptyContainer kind name) items).or (Outcome.fault? content) := by
  rw [← fault?_requireItems]
  exact Outcome.fault?_bind fun _ => Outcome.fault?_bind_ok

end LayoutScope

end Backoffice
