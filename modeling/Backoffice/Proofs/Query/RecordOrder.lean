import Backoffice.Proofs.Binary64.Order
import Backoffice.Proofs.Query.Concealment
import Backoffice.Proofs.Sorting

/-!
The order of records under the terms of a sort.

Values of one kind compare: truth values, texts, and numbers by their nearest doubles. One
record comes before another by the first term that tells their values apart. That is a
preorder of the records of a class if under each term their values all compare, or none of
them comes before another.
-/

namespace Backoffice

/-! ### Values -/

namespace Json

/-- How two values of one kind compare. -/
inductive Compares : Json → Json → Ordering → Prop where
  | null : Compares .null .null .eq
  | bool (left right : Bool) : Compares (.bool left) (.bool right) (compare left right)
  | number {left right : Number} {x y : Binary64} :
      left.toBinary64? = some x → right.toBinary64? = some y →
      Compares (.number left) (.number right) (compare x.value y.value)
  | string (left right : String) : Compares (.string left) (.string right) (compare left right)

theorem compare?_eq_some_iff {left right : Json} {order : Ordering} :
    left.compare? right = some order ↔ Compares left right order := by
  constructor
  · intro compared
    cases left <;> cases right <;> simp only [compare?, Option.some.injEq, reduceCtorEq] at compared
    case null.null => exact compared ▸ .null
    case bool.bool => exact compared ▸ .bool _ _
    case string.string => exact compared ▸ .string _ _
    case number.number left right =>
      obtain ⟨x, nearest, compared⟩ := Option.bind_eq_some_iff.1 compared
      obtain ⟨y, nearestToo, compared⟩ := Option.bind_eq_some_iff.1 compared
      cases compared
      rw [Binary64.compare_orderKey]
      exact .number nearest nearestToo
  · intro compares
    cases compares with
    | null => rfl
    | bool => rfl
    | string => rfl
    | number nearest nearestToo =>
      rw [compare?, Number.compare?, nearest, nearestToo, ← Binary64.compare_orderKey]
      rfl

namespace Compares

variable {first second third : Json} {order orderToo : Ordering}

theorem swap (compares : Compares first second order) : Compares second first order.swap := by
  cases compares with
  | null => exact .null
  | bool left right =>
    rw [← Std.OrientedOrd.eq_swap]
    exact .bool right left
  | number nearest nearestToo =>
    rw [← Std.OrientedOrd.eq_swap]
    exact .number nearestToo nearest
  | string left right =>
    rw [← Std.OrientedOrd.eq_swap]
    exact .string right left

theorem trans (compares : Compares first second order)
    (comparesToo : Compares second third orderToo) :
    ∃ outer, Compares first third outer ∧
      (order.isLE = true → orderToo.isLE = true → outer.isLE = true) := by
  cases compares with
  | null =>
    cases comparesToo with
    | null => exact ⟨.eq, .null, fun _ _ => rfl⟩
  | bool =>
    cases comparesToo with
    | bool => exact ⟨_, .bool _ _, Std.TransOrd.isLE_trans⟩
  | number nearest shared =>
    cases comparesToo with
    | number sharedToo nearestToo =>
      cases Option.some.inj (shared.symm.trans sharedToo)
      exact ⟨_, .number nearest nearestToo, Std.TransOrd.isLE_trans⟩
  | string =>
    cases comparesToo with
    | string => exact ⟨_, .string _ _, Std.TransOrd.isLE_trans⟩

theorem unique (compares : Compares first second order)
    (comparesToo : Compares first second orderToo) :
    order = orderToo :=
  Option.some.inj
    ((compare?_eq_some_iff.2 compares).symm.trans (compare?_eq_some_iff.2 comparesToo))

end Compares

/-- How two values compare; values that do not compare count as equal. -/
def order (left right : Json) : Ordering := (left.compare? right).getD .eq

theorem order_eq_of_compares {left right : Json} {order : Ordering}
    (compares : Compares left right order) :
    left.order right = order := by
  rw [Json.order, compare?_eq_some_iff.2 compares, Option.getD_some]

theorem compares_or_order_eq (left right : Json) :
    Compares left right (left.order right) ∨ left.order right = .eq := by
  cases compared : left.compare? right with
  | none => exact .inr (by rw [order, compared, Option.getD_none])
  | some order =>
    have compares := compare?_eq_some_iff.1 compared
    exact .inl (order_eq_of_compares compares ▸ compares)

theorem order_eq_lt_iff {left right : Json} : left.order right = .lt ↔ Compares left right .lt := by
  refine ⟨fun below => ?_, order_eq_of_compares⟩
  rcases compares_or_order_eq left right with compares | tied
  · exact below ▸ compares
  · rw [below] at tied
    cases tied

theorem order_swap (left right : Json) : right.order left = (left.order right).swap := by
  rcases compares_or_order_eq left right with compares | tied
  · exact order_eq_of_compares compares.swap
  · rcases compares_or_order_eq right left with compares | tiedToo
    · rw [order_eq_of_compares compares.swap, Ordering.swap_swap]
    · rw [tied, tiedToo]
      rfl

end Json

/-! ### Conditions -/

namespace Condition

variable {Value : Type} [LinearOrder Value] {actual asked : Json} {held wanted : Value}

theorem holds_eq_iff (compared : actual.compare? asked = some (compare held wanted)) :
    (Condition.eq asked).holds actual = true ↔ held = wanted := by
  rw [holds, compared, decide_eq_true_iff, Option.some.injEq, compare_eq_iff_eq]

theorem holds_gte_iff (compared : actual.compare? asked = some (compare held wanted)) :
    (Condition.gte asked).holds actual = true ↔ wanted ≤ held := by
  rw [holds, compared, Bool.or_eq_true, decide_eq_true_iff, decide_eq_true_iff, Option.some.injEq,
    Option.some.injEq, compare_gt_iff_gt, compare_eq_iff_eq]
  exact (le_iff_lt_or_eq.trans (or_congr_right eq_comm)).symm

theorem holds_lte_iff (compared : actual.compare? asked = some (compare held wanted)) :
    (Condition.lte asked).holds actual = true ↔ held ≤ wanted := by
  rw [holds, compared, Bool.or_eq_true, decide_eq_true_iff, decide_eq_true_iff, Option.some.injEq,
    Option.some.injEq, compare_lt_iff_lt, compare_eq_iff_eq]
  exact le_iff_lt_or_eq.symm

end Condition

namespace FilterQuery

def single (field : String) (op : FilterOp) (value : Json) : FilterQuery :=
  { filters := [.make field op value] }

theorem isMatch_single (field : String) (op : FilterOp) (value record : Json) :
    (single field op value).isMatch record =
      (Condition.make op value).holds (record.getOrNull field) := by
  rw [isMatch, single, List.all_cons, List.all_nil, Bool.and_true]
  rfl

end FilterQuery

/-! ### Records -/

namespace OrderTerm

/-- Whether the value that a term sorts by puts a record before another one. -/
def Before (term : OrderTerm) (left right : Json) : Prop :=
  match term.direction with
  | .asc => (left.getOrNull term.field).Compares (right.getOrNull term.field) .lt
  | .desc => (right.getOrNull term.field).Compares (left.getOrNull term.field) .lt

variable (term : OrderTerm) {left right : Json}

theorem compare_swap : term.compare right left = (term.compare left right).swap := by
  have swap := Json.order_swap (left.getOrNull term.field) (right.getOrNull term.field)
  unfold Json.order at swap
  rw [compare, compare, swap]
  cases term.direction with
  | asc => rfl
  | desc => rfl

theorem compare_eq_lt_iff : term.compare left right = .lt ↔ term.Before left right := by
  rw [compare, Before, ← Json.order]
  cases term.direction with
  | asc => exact Json.order_eq_lt_iff
  | desc =>
    rw [SortDirection.apply, ← Json.order_swap]
    exact Json.order_eq_lt_iff

end OrderTerm

namespace FilterQuery

/-- Whether a record comes before another one: the first term that tells them apart decides. -/
def Before : List OrderTerm → Json → Json → Prop
  | [], _, _ => False
  | term :: rest, left, right =>
    term.Before left right ∨ ¬ term.Before right left ∧ Before rest left right

theorem compareRecords_swap (terms : List OrderTerm) (left right : Json) :
    compareRecords terms right left = (compareRecords terms left right).swap := by
  induction terms with
  | nil => rfl
  | cons term rest inductionHypothesis =>
    rw [compareRecords, compareRecords, Ordering.swap_then, ← inductionHypothesis,
      ← term.compare_swap]

theorem compareRecords_eq_lt_iff {terms : List OrderTerm} {left right : Json} :
    compareRecords terms left right = .lt ↔ Before terms left right := by
  induction terms with
  | nil => simp [compareRecords, Before]
  | cons term rest inductionHypothesis =>
    have swap : term.compare right left = (term.compare left right).swap := term.compare_swap
    rw [compareRecords, Before, ← term.compare_eq_lt_iff, ← term.compare_eq_lt_iff, swap,
      ← inductionHypothesis]
    cases term.compare left right <;> simp

/-- Records that no term tells apart. -/
def Tied (terms : List OrderTerm) (left right : Json) : Prop :=
  ¬ Before terms left right ∧ ¬ Before terms right left

theorem compareRecords_eq_eq_iff {terms : List OrderTerm} {left right : Json} :
    compareRecords terms left right = .eq ↔ Tied terms left right := by
  rw [Tied, ← compareRecords_eq_lt_iff, ← compareRecords_eq_lt_iff,
    compareRecords_swap terms left right]
  cases compareRecords terms left right <;> simp

instance (terms : List OrderTerm) (left right : Json) : Decidable (Before terms left right) :=
  decidable_of_iff _ compareRecords_eq_lt_iff

instance (terms : List OrderTerm) (left right : Json) : Decidable (Tied terms left right) :=
  decidable_of_iff _ compareRecords_eq_eq_iff

theorem sortedBy_compareRecords_iff {terms : List OrderTerm} {rows : List Json} :
    SortedBy (compareRecords terms) rows ↔
      rows.Pairwise fun earlier later => ¬ Before terms later earlier :=
  List.Pairwise.iff fun _ _ => not_congr compareRecords_eq_lt_iff

end FilterQuery

/-! ### Classes of records -/

def Json.orderUnder (field : String) (left right : Json) : Ordering :=
  (left.getOrNull field).order (right.getOrNull field)

/-- Whether the values of a field in the records of a class all compare, or none of
them comes before another. -/
def Steady (kept : Json → Prop) (field : String) : Prop :=
  (∀ left right, kept left → kept right →
    ∃ order, (left.getOrNull field).Compares (right.getOrNull field) order) ∨
    ∀ left right, kept left → kept right →
    ¬ (left.getOrNull field).Compares (right.getOrNull field) .lt

section Classes

variable {kept : Json → Prop}

theorem transCmp_orderUnder {field : String} (steady : Steady kept field) :
    Std.TransCmp (among kept (Json.orderUnder field)) where
  eq_swap := Json.order_swap _ _
  isLE_trans {first second third} below belowToo := by
    unfold among Json.orderUnder at below belowToo ⊢
    rcases steady with comparable | flat
    · obtain ⟨order, compares⟩ := comparable first second first.2 second.2
      obtain ⟨orderToo, comparesToo⟩ := comparable second third second.2 third.2
      obtain ⟨outer, comparesOuter, isLE⟩ := compares.trans comparesToo
      rw [Json.order_eq_of_compares compares] at below
      rw [Json.order_eq_of_compares comparesToo] at belowToo
      rw [Json.order_eq_of_compares comparesOuter]
      exact isLE below belowToo
    · rw [← Ordering.ne_gt_iff_isLE]
      intro above
      rw [Json.order_swap, Ordering.swap_eq_gt] at above
      exact flat third first third.2 first.2 (Json.order_eq_lt_iff.1 above)

theorem OrderTerm.transCmp_compare {term : OrderTerm} (steady : Steady kept term.field) :
    Std.TransCmp (among kept term.compare) := by
  have ascending := transCmp_orderUnder steady
  cases direction : term.direction with
  | asc =>
    have same : among kept term.compare = among kept (Json.orderUnder term.field) := by
      funext first second
      rw [among, among, OrderTerm.compare, direction]
      rfl
    exact same ▸ ascending
  | desc =>
    have swapped : among kept term.compare =
        fun first second => among kept (Json.orderUnder term.field) second first := by
      funext first second
      rw [among, among, OrderTerm.compare, direction]
      exact (Json.order_swap _ _).symm
    exact swapped ▸ Std.TransCmp.opposite

theorem FilterQuery.transCmp_compareRecords {terms : List OrderTerm}
    (steady : ∀ term ∈ terms, Steady kept term.field) :
    Std.TransCmp (among kept (compareRecords terms)) := by
  induction terms with
  | nil => exact { eq_swap := rfl, isLE_trans := fun _ _ => rfl }
  | cons term rest inductionHypothesis =>
    rw [List.forall_mem_cons] at steady
    have first := OrderTerm.transCmp_compare steady.1
    have others := inductionHypothesis steady.2
    exact inferInstanceAs
      (Std.TransCmp (compareLex (among kept term.compare) (among kept (compareRecords rest))))

end Classes

end Backoffice
