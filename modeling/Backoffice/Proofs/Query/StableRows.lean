import Backoffice.Proofs.Binary64.Rounding
import Backoffice.Proofs.Query.SortedRows

/-!
Rows of records whose sorted fields are of one kind each.

Where the values of every field that is sorted by are of one kind in the matching records, the rows
are these records, each as often as it is given, in the order of the terms, and records that no term
tells apart stay in the order in which they are given. There is one such list only.
-/

namespace Backoffice

/-! ### Kinds of values -/

def Number.IsWord : Number → Prop
  | int value => -0x8000000000000000 ≤ value ∧ value < 0x10000000000000000
  | float _ => True

instance (number : Number) : Decidable number.IsWord :=
  match number with
  | .int value =>
    inferInstanceAs (Decidable (-0x8000000000000000 ≤ value ∧ value < 0x10000000000000000))
  | .float _ => isTrue trivial

theorem Number.IsWord.exists_nearest {number : Number} (isWord : number.IsWord) :
    ∃ x, number.toBinary64? = some x := by
  cases number with
  | int value =>
    obtain ⟨lower, upper⟩ := isWord
    obtain ⟨x, nearest, -⟩ :=
      Binary64.ofInt?_eq_some (by omega : value.natAbs < 0x10000000000000000)
    exact ⟨x, nearest⟩
  | float value => exact ⟨value, rfl⟩

namespace Json

/-- The kinds of values that compare. -/
inductive Kind where
  | null
  | bool
  | number
  | string
  deriving DecidableEq

def kind? : Json → Option Kind
  | .null => some .null
  | .bool _ => some .bool
  | .number written => if written.IsWord then some .number else none
  | .string _ => some .string
  | .array _ | .object _ => none

theorem exists_compares {kind : Kind} {left right : Json} (isKind : left.kind? = some kind)
    (isKindToo : right.kind? = some kind) : ∃ order, left.Compares right order := by
  cases left <;> cases right <;>
    simp only [kind?, Option.ite_none_right_eq_some, Option.some.injEq, reduceCtorEq]
      at isKind isKindToo
  case null.null => exact ⟨.eq, .null⟩
  case bool.bool left right => exact ⟨_, .bool left right⟩
  case string.string left right => exact ⟨_, .string left right⟩
  case number.number left right =>
    obtain ⟨x, nearest⟩ := isKind.1.exists_nearest
    obtain ⟨y, nearestToo⟩ := isKindToo.1.exists_nearest
    exact ⟨_, .number nearest nearestToo⟩
  all_goals grind

end Json

/-! ### Arrangements -/

namespace FilterQuery

/-- The matching records, each as often as it is given, none of them before an earlier one, and
those that no term tells apart in the order in which they are given. -/
structure Arranges (query : FilterQuery) (records rows : List Json) : Prop where
  perm : rows.Perm (records.filter query.isMatch)
  sorted : rows.Pairwise fun earlier later => ¬ Before query.sort later earlier
  stable : ∀ record ∈ records, query.isMatch record = true →
    rows.filter (Tied query.sort record) = (records.filter query.isMatch).filter
      (Tied query.sort record)

/-- Whether the values of every field that is sorted by are of one kind in the matching records. -/
def Uniform (query : FilterQuery) (records : List Json) : Prop :=
  ∀ term ∈ query.sort, ∃ kind, ∀ record ∈ records, query.isMatch record = true →
    (record.getOrNull term.field).kind? = some kind

variable {query : FilterQuery} {records : List Json}

theorem Uniform.transCmp (uniform : query.Uniform records) :
    Std.TransCmp (among (fun record => record ∈ records ∧ query.isMatch record = true)
      (compareRecords query.sort)) := by
  refine transCmp_compareRecords fun term member => .inl fun left right isLeft isRight => ?_
  obtain ⟨kind, isKind⟩ := uniform term member
  exact Json.exists_compares (isKind left isLeft.1 isLeft.2) (isKind right isRight.1 isRight.2)

theorem filter_compareRecords_eq (terms : List OrderTerm) (record : Json) (rows : List Json) :
    rows.filter (compareRecords terms record · = .eq) = rows.filter (Tied terms record) := by
  refine List.filter_congr fun row _ => ?_
  rw [decide_eq_decide]
  exact compareRecords_eq_eq_iff

theorem Uniform.arranges_apply (uniform : query.Uniform records) :
    query.Arranges records (query.apply records) := by
  have preorder := uniform.transCmp
  have kept : ∀ record ∈ records.filter query.isMatch, record ∈ records ∧
      query.isMatch record = true :=
    fun record member => List.mem_filter.1 member
  refine ⟨List.mergeSort_perm _ _,
    sortedBy_compareRecords_iff.1 (@sortedBy_mergeSort_of_forall _ _ _ preorder _ kept),
    fun record member matched => ?_⟩
  rw [← filter_compareRecords_eq, ← filter_compareRecords_eq]
  exact @filter_mergeSort_of_forall _ _ _ preorder _ kept _ ⟨member, matched⟩

theorem Uniform.eq_of_arranges (uniform : query.Uniform records) {rows others : List Json}
    (arranges : query.Arranges records rows) (arrangesToo : query.Arranges records others) :
    rows = others := by
  have kept {rows : List Json} (arranges : query.Arranges records rows) :
      ∀ record ∈ rows, record ∈ records ∧ query.isMatch record = true :=
    fun record member => List.mem_filter.1 (arranges.perm.mem_iff.1 member)
  refine @SortedBy.eq_of_filter_eq_of_forall _ _ _ uniform.transCmp _ _ (kept arranges)
    (kept arrangesToo) (sortedBy_compareRecords_iff.2 arranges.sorted)
      (sortedBy_compareRecords_iff.2 arrangesToo.sorted)
    fun record isKept => ?_
  rw [filter_compareRecords_eq, filter_compareRecords_eq, arranges.stable record isKept.1 isKept.2,
    arrangesToo.stable record isKept.1 isKept.2]

theorem Arranges.self {rows : List Json} (arranges : query.Arranges records rows) :
    query.Arranges rows rows := by
  have all : rows.filter query.isMatch = rows :=
    List.filter_eq_self.2 fun row member => (List.mem_filter.1 (arranges.perm.mem_iff.1 member)).2
  exact ⟨by rw [all], arranges.sorted, fun _ _ _ => by rw [all]⟩

theorem Uniform.apply (uniform : query.Uniform records) : query.Uniform (query.apply records) := by
  intro term member
  obtain ⟨kind, isKind⟩ := uniform term member
  refine ⟨kind, fun record isRow => ?_⟩
  exact isKind record (List.mem_of_mem_filter (uniform.arranges_apply.perm.mem_iff.1 isRow))

/-- If the values of every field that is sorted by are of one kind in the matching records, the rows
are the one arrangement of these records, and sorting the rows again changes nothing. -/
theorem arranges_iff_of_uniform {query : FilterQuery} {records : List Json}
    (uniform : query.Uniform records) :
    (∀ rows, query.Arranges records rows ↔ rows = query.apply records) ∧
      query.apply (query.apply records) = query.apply records := by
  refine ⟨fun rows =>
    ⟨fun arranges => uniform.eq_of_arranges arranges uniform.arranges_apply, ?_⟩, ?_⟩
  · rintro rfl
    exact uniform.arranges_apply
  · exact uniform.apply.eq_of_arranges uniform.apply.arranges_apply uniform.arranges_apply.self

def openOrders : FilterQuery :=
  { filters := [{ field := "state", condition := .among [.string "open", .string "draft"] }]
    sort := [{ field := "state", direction := .desc }, { field := "price", direction := .asc }] }

def order (id : Int) (state : String) (price : Json) : Json :=
  .object [("id", .number (.int id)), ("price", price), ("state", .string state)]

def nine : Binary64 := { negative := false, magnitude := 0x4022000000000000 }

theorem openOrders_rows :
    let given := [order 1 "draft" (.number (.int 5)), order 2 "open" (.number (.int 12)),
      order 3 "open" (.number (.float nine)), order 4 "gone" (.string "unknown"),
      order 5 "open" (.number (.int 9))]
    let rows := [order 3 "open" (.number (.float nine)), order 5 "open" (.number (.int 9)),
      order 2 "open" (.number (.int 12)), order 1 "draft" (.number (.int 5))]
    openOrders.Uniform given ∧ openOrders.Arranges given rows ∧ openOrders.apply given = rows ∧
      openOrders.apply rows = rows := by
  intro given rows
  have uniform : openOrders.Uniform given :=
    List.forall_mem_cons.2 ⟨⟨.string, by decide +kernel⟩,
      List.forall_mem_singleton.2 ⟨.number, by decide +kernel⟩⟩
  have arranges : openOrders.Arranges given rows :=
    ⟨by decide +kernel, by decide +kernel, by decide +kernel⟩
  obtain ⟨only, again⟩ := arranges_iff_of_uniform uniform
  have listed : openOrders.apply given = rows := ((only rows).1 arranges).symm
  rw [listed] at again
  exact ⟨uniform, arranges, listed, again⟩

end FilterQuery

end Backoffice
