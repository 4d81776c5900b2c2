import Mathlib.Data.List.Sort
import Mathlib.Data.Set.List

/-!
Stable sorting by a comparison.

Entries that a comparison puts in a total preorder are sorted, those that it does not tell apart
stay in their order, and no other list is like that. Where the comparison is no preorder, some list
stays as it is although one of its entries precedes an earlier one.
-/

namespace Backoffice

variable {Entry : Type}

/-- A list in which no entry comes before an earlier one. -/
def SortedBy (cmp : Entry → Entry → Ordering) (entries : List Entry) : Prop :=
  entries.Pairwise fun earlier later => cmp later earlier ≠ .lt

/-! ### Preorders of all entries -/

section Total

variable {cmp : Entry → Entry → Ordering} [Std.TransCmp cmp]

theorem ne_gt_trans (first second third : Entry) (ordered : decide (cmp first second ≠ .gt) = true)
    (orderedToo : decide (cmp second third ≠ .gt) = true) :
    decide (cmp first third ≠ .gt) = true := by
  have below := Ordering.ne_gt_iff_isLE.1 (of_decide_eq_true ordered)
  have belowToo := Ordering.ne_gt_iff_isLE.1 (of_decide_eq_true orderedToo)
  exact decide_eq_true (Ordering.ne_gt_iff_isLE.2 (Std.TransCmp.isLE_trans below belowToo))

theorem ne_gt_total (first second : Entry) :
    (decide (cmp first second ≠ .gt) || decide (cmp second first ≠ .gt)) = true := by
  have swap : cmp second first = (cmp first second).swap := Std.OrientedCmp.eq_swap
  rw [swap]
  cases cmp first second <;> rfl

theorem sortedBy_mergeSort (entries : List Entry) :
    SortedBy cmp (entries.mergeSort fun first second => cmp first second ≠ .gt) := by
  refine (List.pairwise_mergeSort ne_gt_trans ne_gt_total entries).imp ?_
  intro earlier later ordered precedes
  exact of_decide_eq_true ordered (Std.OrientedCmp.gt_iff_lt.2 precedes)

theorem filter_mergeSort (entries : List Entry) (entry : Entry) :
    (entries.mergeSort fun first second => cmp first second ≠ .gt).filter (cmp entry · = .eq) =
      entries.filter (cmp entry · = .eq) := by
  have alike : (entries.filter (cmp entry · = .eq)).Pairwise fun first second =>
      decide (cmp first second ≠ .gt) = true := by
    refine List.pairwise_of_forall_mem_list fun first isFirst second isSecond => ?_
    have same : cmp entry first = .eq := of_decide_eq_true (List.mem_filter.1 isFirst).2
    have sameToo : cmp entry second = .eq := of_decide_eq_true (List.mem_filter.1 isSecond).2
    have tied : cmp first second = .eq :=
      Std.TransCmp.eq_trans (Std.OrientedCmp.eq_symm same) sameToo
    simp [tied]
  have kept : (entries.filter (cmp entry · = .eq)).filter (cmp entry · = .eq) =
      entries.filter (cmp entry · = .eq) := by
    rw [List.filter_filter]
    simp only [Bool.and_self]
  have sublist := (List.sublist_mergeSort ne_gt_trans ne_gt_total alike List.filter_sublist).filter
    (cmp entry · = .eq)
  rw [kept] at sublist
  exact (sublist.eq_of_length ((List.mergeSort_perm _ _).filter _).length_eq.symm).symm

theorem mem_of_filter_eq {first : Entry} {rest list : List Entry}
    (same : (first :: rest).filter (cmp first · = .eq) = list.filter (cmp first · = .eq)) :
    first ∈ list := by
  have member : first ∈ (first :: rest).filter (cmp first · = .eq) :=
    List.mem_filter.2 ⟨List.mem_cons_self, decide_eq_true Std.ReflCmp.compare_self⟩
  rw [same] at member
  exact List.mem_of_mem_filter member

theorem SortedBy.ne_lt_of_mem {first entry : Entry} {rest : List Entry}
    (sorted : SortedBy cmp (first :: rest)) (member : entry ∈ first :: rest) :
    cmp entry first ≠ .lt := by
  rcases List.mem_cons.1 member with rfl | later
  · have self : cmp entry entry = .eq := Std.ReflCmp.compare_self
    rw [self]
    exact Ordering.noConfusion
  · exact (List.pairwise_cons.1 sorted).1 entry later

/-- A sorted list is known by the order in which entries that do not differ stand in it. -/
theorem SortedBy.eq_of_filter_eq {entries others : List Entry} (sorted : SortedBy cmp entries)
    (sortedToo : SortedBy cmp others)
    (same : ∀ entry, entries.filter (cmp entry · = .eq) = others.filter (cmp entry · = .eq)) :
    entries = others := by
  induction entries generalizing others with
  | nil =>
    cases others with
    | nil => rfl
    | cons second others => cases mem_of_filter_eq (same second).symm
  | cons first entries inductionHypothesis =>
    cases others with
    | nil => cases mem_of_filter_eq (same first)
    | cons second others =>
      -- Each head stands in the other list, so neither comes before the other one.
      have notBelow := sortedToo.ne_lt_of_mem (mem_of_filter_eq (same first))
      have notAbove := sorted.ne_lt_of_mem (mem_of_filter_eq (same second).symm)
      have tied : cmp first second = .eq := by
        cases order : cmp first second with
        | lt => exact absurd order notBelow
        | eq => rfl
        | gt => exact absurd (Std.OrientedCmp.gt_iff_lt.1 order) notAbove
      have heads := same first
      rw [List.filter_cons, List.filter_cons, if_pos (decide_eq_true Std.ReflCmp.compare_self),
        if_pos (decide_eq_true tied)] at heads
      obtain ⟨rfl, -⟩ := List.cons.inj heads
      refine congrArg (first :: ·)
        (inductionHypothesis sorted.of_cons sortedToo.of_cons fun entry => ?_)
      have rests := same entry
      simp only [List.filter_cons] at rests
      split at rests
      · exact (List.cons.inj rests).2
      · exact rests

end Total

/-! ### Preorders of the entries of a class -/

section Class

variable {kept : Entry → Prop} {cmp : Entry → Entry → Ordering}

def among (kept : Entry → Prop) (cmp : Entry → Entry → Ordering)
    (first second : { entry // kept entry }) : Ordering :=
  cmp first second

theorem mergeSort_map_val (own : List { entry // kept entry }) :
    (own.map Subtype.val).mergeSort (fun first second => cmp first second ≠ .gt) =
      (own.mergeSort fun first second => among kept cmp first second ≠ .gt).map Subtype.val :=
  (List.map_mergeSort (f := Subtype.val) fun _ _ _ _ => rfl).symm

variable [Std.TransCmp (among kept cmp)] {entries : List Entry}

theorem sortedBy_mergeSort_of_forall (all : ∀ entry ∈ entries, kept entry) :
    SortedBy cmp (entries.mergeSort fun first second => cmp first second ≠ .gt) := by
  lift entries to List { entry // kept entry } using all
  rw [mergeSort_map_val, SortedBy, List.pairwise_map]
  exact @sortedBy_mergeSort _ (among kept cmp) _ entries

theorem filter_mergeSort_of_forall (all : ∀ entry ∈ entries, kept entry) {entry : Entry}
    (isKept : kept entry) :
    (entries.mergeSort fun first second => cmp first second ≠ .gt).filter (cmp entry · = .eq) =
      entries.filter (cmp entry · = .eq) := by
  lift entries to List { entry // kept entry } using all
  rw [mergeSort_map_val, List.filter_map, List.filter_map]
  exact congrArg (List.map Subtype.val)
    (@filter_mergeSort _ (among kept cmp) _ entries ⟨entry, isKept⟩)

theorem SortedBy.eq_of_filter_eq_of_forall {others : List Entry}
    (all : ∀ entry ∈ entries, kept entry) (allToo : ∀ entry ∈ others, kept entry)
    (sorted : SortedBy cmp entries) (sortedToo : SortedBy cmp others)
    (same : ∀ entry, kept entry →
      entries.filter (cmp entry · = .eq) = others.filter (cmp entry · = .eq)) :
    entries = others := by
  lift entries to List { entry // kept entry } using all
  lift others to List { entry // kept entry } using allToo
  rw [SortedBy, List.pairwise_map] at sorted sortedToo
  refine congrArg (List.map Subtype.val) ?_
  refine @SortedBy.eq_of_filter_eq _ (among kept cmp) _ _ _ sorted sortedToo fun entry => ?_
  have alike := same entry entry.2
  rw [List.filter_map, List.filter_map] at alike
  exact List.map_injective_iff.2 Subtype.val_injective alike

end Class

/-! ### Comparisons that are no preorder -/

theorem mergeSort_pair (before : Entry → Entry → Bool) (first second : Entry) :
    [first, second].mergeSort before = if before first second then [first, second]
      else [second, first] := by
  simp only [List.mergeSort, List.MergeSort.Internal.splitInTwo_fst,
    List.MergeSort.Internal.splitInTwo_snd]
  simp [List.merge]

theorem mergeSort_of_ordered_halves {before : Entry → Entry → Bool}
    {first second third fourth : Entry} (left : before first second = true)
    (right : before third fourth = true) (outer : before first third = true)
    (inner : before second third = true) :
    [first, second, third, fourth].mergeSort before = [first, second, third, fourth] := by
  rw [List.mergeSort]
  simp only [List.MergeSort.Internal.splitInTwo_fst, List.MergeSort.Internal.splitInTwo_snd,
    List.length_cons, List.length_nil, Nat.reduceAdd, Nat.reduceDiv, List.take_succ_cons,
    List.take_zero, List.drop_succ_cons, List.drop_zero]
  rw [mergeSort_pair, mergeSort_pair, if_pos left, if_pos right,
    List.cons_merge_cons_pos _ _ _ outer, List.cons_merge_cons_pos _ _ _ inner, List.nil_merge]

end Backoffice
