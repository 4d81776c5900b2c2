import Backoffice.Proofs.Query.RecordOrder

/-!
Which queries over records sort all they are given.

What does not compare counts as equal, so a value of another kind, or a missing one, equals values
that differ, and the comparison is no preorder. A query sorts every list of records exactly if its
filters keep the values of each field that it sorts by of one kind, or all alike.
-/

namespace Backoffice

/-! ### Records with another value under one name -/

namespace Json

def withField (record : Json) (field : String) (value : Json) : Json :=
  match record with
  | .object members => .object (Table.insert members field value)
  | _ => .object [(field, value)]

theorem getOrNull_withField (record : Json) (field : String) (value : Json) (name : String) :
    (record.withField field value).getOrNull name = if field = name then value
      else record.getOrNull name := by
  cases record with
  | object members =>
    simp only [withField, getOrNull, get?, Table.get?_insert]
    split
    · rfl
    · rfl
  | _ =>
    simp only [withField, getOrNull, get?, Table.get?]
    split
    · rfl
    · rfl

/-- A value that does not compare with one of two values of a kind counts as equal to both. -/
theorem order_eq_of_apart {low high odd : Json} {order : Ordering}
    (compares : Compares low high order) (apart : ∀ order, ¬ Compares odd low order) :
    low.order odd = .eq ∧ odd.order high = .eq := by
  constructor
  · exact (compares_or_order_eq low odd).resolve_left fun comparesToo => apart _ comparesToo.swap
  · refine (compares_or_order_eq odd high).resolve_left fun comparesToo => ?_
    obtain ⟨outer, comparesOuter, -⟩ := comparesToo.trans compares.swap
    exact apart outer comparesOuter

end Json

namespace FilterQuery

variable {query : FilterQuery}

theorem isMatch_withField {record other : Json} (matched : query.isMatch record = true)
    (matchedToo : query.isMatch other = true) (field : String) :
    query.isMatch (record.withField field (other.getOrNull field)) = true := by
  rw [isMatch, List.all_eq_true] at matched matchedToo ⊢
  intro filter member
  rw [Filter.admits, Json.getOrNull_withField]
  split
  · next same =>
    subst same
    exact matchedToo filter member
  · exact matched filter member

theorem compareRecords_eq_eq_of_forall {terms : List OrderTerm} {left right : Json}
    (tied : ∀ term ∈ terms, term.compare left right = .eq) :
    compareRecords terms left right = .eq := by
  induction terms with
  | nil => rfl
  | cons term rest inductionHypothesis =>
    rw [List.forall_mem_cons] at tied
    rw [compareRecords, tied.1, inductionHypothesis tied.2]
    rfl

theorem compareRecords_withField {terms : List OrderTerm} {field : String}
    (sorts : ∃ term ∈ terms, term.field = field) (record : Json) :
    ∃ direction : SortDirection, ∀ value other : Json,
      compareRecords terms (record.withField field value) (record.withField field other) =
        direction.apply (value.order other) := by
  have byField {term : OrderTerm} (same : term.field = field) (value other : Json) :
      term.compare (record.withField field value) (record.withField field other) =
        term.direction.apply (value.order other) := by
    rw [OrderTerm.compare, same, Json.getOrNull_withField, Json.getOrNull_withField, if_pos rfl,
      if_pos rfl, Json.order]
  have byOther {term : OrderTerm} (different : term.field ≠ field) (value other : Json) :
      term.compare (record.withField field value) (record.withField field other) = .eq := by
    refine OrderTerm.compare_eq_of_getOrNull_eq ?_
    rw [Json.getOrNull_withField, Json.getOrNull_withField, if_neg different.symm,
      if_neg different.symm]
  induction terms with
  | nil =>
    obtain ⟨_, member, _⟩ := sorts
    cases member
  | cons term rest inductionHypothesis =>
    by_cases same : term.field = field
    · refine ⟨term.direction, fun value other => ?_⟩
      rw [compareRecords, byField same]
      cases order : value.order other with
      | eq =>
        have tied : compareRecords rest (record.withField field value)
            (record.withField field other) = .eq := by
          refine compareRecords_eq_eq_of_forall fun later _ => ?_
          by_cases sameToo : later.field = field
          · rw [byField sameToo, order]
            cases later.direction <;> rfl
          · exact byOther sameToo value other
        rw [tied]
        cases term.direction <;> rfl
      | _ => cases term.direction <;> rfl
    · obtain ⟨direction, decides⟩ := inductionHypothesis (by simpa [same] using sorts)
      refine ⟨direction, fun value other => ?_⟩
      rw [compareRecords, byOther same, decides]
      rfl

/-! ### Sorting every list -/

/-- Whether the query puts every list of records in order: no row is followed, at any distance, by
one that comes before it. -/
def Sorts (query : FilterQuery) : Prop :=
  ∀ records : List Json, (query.apply records).Pairwise fun earlier later =>
    ¬ Before query.sort later earlier

theorem apply_sorted {records : List Json} (steady : ∀ term ∈ query.sort,
      Steady (fun record => record ∈ records ∧ query.isMatch record = true) term.field) :
    (query.apply records).Pairwise fun earlier later => ¬ Before query.sort later earlier := by
  refine sortedBy_compareRecords_iff.1 ?_
  refine @sortedBy_mergeSort_of_forall _ _ _ (transCmp_compareRecords steady) _ fun record member =>
    ?_
  exact List.mem_filter.1 member

theorem Sorts.transCmp (sorts : query.Sorts) :
    Std.TransCmp (among (query.isMatch · = true) (compareRecords query.sort)) where
  eq_swap := compareRecords_swap _ _ _
  isLE_trans {first second third} below belowToo := by
    rw [← Ordering.ne_gt_iff_isLE] at below belowToo ⊢
    intro above
    have self : compareRecords query.sort first first ≠ .gt := by
      rw [compareRecords_eq_eq_of_forall fun _ _ => OrderTerm.compare_eq_of_getOrNull_eq rfl]
      exact Ordering.noConfusion
    -- The list is merged as it stands, its last record before the first one.
    have rows : query.apply [first, first, second, third] =
        [first.1, first.1, second.1, third.1] := by
      have all : [first.1, first.1, second.1, third.1].filter query.isMatch =
          [first.1, first.1, second.1, third.1] := by
        simp [first.2, second.2, third.2]
      rw [apply, all]
      exact mergeSort_of_ordered_halves (decide_eq_true self) (decide_eq_true belowToo)
        (decide_eq_true below) (decide_eq_true below)
    have sorted := sorts [first, first, second, third]
    rw [rows, List.pairwise_cons] at sorted
    refine sorted.1 third (by simp) (compareRecords_eq_lt_iff.1 ?_)
    rw [compareRecords_swap query.sort first.1 third.1]
    exact Ordering.swap_eq_lt.2 above

/-- Among values of which some do not compare and some differ, one equals two that differ. -/
theorem steady_of_transCmp
    (preorder : Std.TransCmp (among (query.isMatch · = true) (compareRecords query.sort)))
    {term : OrderTerm} (sorts : term ∈ query.sort) :
    Steady (query.isMatch · = true) term.field := by
  by_contra unsteady
  rw [Steady, not_or] at unsteady
  push Not at unsteady
  obtain ⟨⟨left, right, isLeft, isRight, apart⟩, low, high, isLow, isHigh, below⟩ := unsteady
  obtain ⟨odd, isOdd, oddLow, oddHigh⟩ : ∃ odd, query.isMatch odd = true ∧
      (low.getOrNull term.field).order (odd.getOrNull term.field) = .eq ∧
      (odd.getOrNull term.field).order (high.getOrNull term.field) = .eq := by
    by_cases comparable : ∃ order,
      (left.getOrNull term.field).Compares (low.getOrNull term.field) order
    · obtain ⟨order, compares⟩ := comparable
      refine ⟨right, isRight, Json.order_eq_of_apart below fun other comparesToo => ?_⟩
      obtain ⟨outer, comparesOuter, -⟩ := compares.trans comparesToo.swap
      exact apart outer comparesOuter
    · exact ⟨left, isLeft,
        Json.order_eq_of_apart below fun order compares => comparable ⟨order, compares⟩⟩
  obtain ⟨direction, decides⟩ := compareRecords_withField ⟨term, sorts, rfl⟩ low
  let placed (record : { record // query.isMatch record = true }) :
      { record // query.isMatch record = true } :=
    ⟨low.withField term.field (record.1.getOrNull term.field),
      isMatch_withField isLow record.2 term.field⟩
  have tied : among (query.isMatch · = true) (compareRecords query.sort) (placed ⟨low, isLow⟩)
      (placed ⟨odd, isOdd⟩) =
      .eq := (decides _ _).trans (by rw [oddLow]; cases direction <;> rfl)
  have tiedToo : among (query.isMatch · = true) (compareRecords query.sort) (placed ⟨odd, isOdd⟩)
      (placed ⟨high, isHigh⟩) = .eq :=
        (decides _ _).trans (by rw [oddHigh]; cases direction <;> rfl)
  have equal := (decides _ _).symm.trans (@Std.TransCmp.eq_trans _ _ preorder _ _ _ tied tiedToo)
  rw [Json.order_eq_of_compares below] at equal
  cases direction <;> cases equal

/-- Without filters, a missing value equals values that differ. -/
theorem not_steady_of_unfiltered (unfiltered : query.filters = []) (field : String) :
    ¬ Steady (query.isMatch · = true) field := by
  have all (record : Json) : query.isMatch record = true := by
    rw [isMatch, unfiltered, List.all_nil]
  have held (value : Json) : (Json.object [(field, value)]).getOrNull field = value := by
    simp only [Json.getOrNull, Json.get?, Table.get?, if_true, Option.getD_some]
  rintro (comparable | flat)
  · obtain ⟨order, compares⟩ :=
      comparable (.object [(field, .null)]) (.object [(field, .bool true)]) (all _) (all _)
    rw [held, held] at compares
    cases compares
  · refine flat (.object [(field, .bool false)]) (.object [(field, .bool true)]) (all _) (all _) ?_
    rw [held, held]
    exact .bool false true

/-- A query sorts every list of records exactly if its comparison is a total preorder of the records
that match, which is to say that the values of each field that it sorts by all compare in these
records, or are all alike. Without filters only a query without terms does, but a list in which the
values are like that is sorted by any query. -/
theorem sorts_iff_steady (query : FilterQuery) :
    (query.Sorts ↔ Std.TransCmp (among (query.isMatch · = true) (compareRecords query.sort))) ∧
      (query.Sorts ↔ ∀ term ∈ query.sort, Steady (query.isMatch · = true) term.field) ∧
      (query.filters = [] → (query.Sorts ↔ query.sort = [])) ∧
      ∀ records : List Json,
        (∀ term ∈ query.sort,
          Steady (fun record => record ∈ records ∧ query.isMatch record = true) term.field) →
        (query.apply records).Pairwise fun earlier later => ¬ Before query.sort later earlier := by
  have steady_of_sorts (sorts : query.Sorts) :
      ∀ term ∈ query.sort, Steady (query.isMatch · = true) term.field :=
    fun term member => steady_of_transCmp sorts.transCmp member
  have sorts_of_steady (steady : ∀ term ∈ query.sort, Steady (query.isMatch · = true) term.field) :
      query.Sorts :=
    fun records => apply_sorted fun term member => (steady term member).imp
      (fun comparable left right isLeft isRight => comparable left right isLeft.2 isRight.2)
      (fun flat left right isLeft isRight => flat left right isLeft.2 isRight.2)
  refine ⟨⟨Sorts.transCmp, fun preorder => sorts_of_steady fun term => steady_of_transCmp preorder⟩,
    ⟨steady_of_sorts, sorts_of_steady⟩, fun unfiltered => ⟨fun sorts => ?_, fun none => ?_⟩,
    fun records => apply_sorted⟩
  · refine List.eq_nil_iff_forall_not_mem.2 fun term member => ?_
    exact not_steady_of_unfiltered unfiltered term.field (steady_of_sorts sorts term member)
  · refine sorts_of_steady fun term member => ?_
    rw [none] at member
    cases member

def offers : List Json := [
  .object [("id", .number (.int 1)), ("price", .number (.int 20))],
  .object [("id", .number (.int 2)), ("price", .number (.int 20))],
  .object [("id", .number (.int 3))],
  .object [("id", .number (.int 4)), ("price", .number (.int 10))]]

def byPrice : FilterQuery := { sort := [{ field := "price", direction := .asc }] }

/-- Behind an offer without a price, the cheapest one stays last. -/
theorem byPrice_leaves_unsorted : byPrice.apply offers = offers ∧ ¬ byPrice.Sorts := by
  have unmoved : byPrice.apply offers = offers :=
    mergeSort_of_ordered_halves (by decide) (by decide) (by decide) (by decide)
  refine ⟨unmoved, fun sorts => ?_⟩
  have sorted := sorts offers
  rw [unmoved] at sorted
  exact absurd sorted (by decide)

end FilterQuery

end Backoffice
