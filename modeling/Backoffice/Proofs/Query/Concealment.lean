import Backoffice.Proofs.Sorting
import Backoffice.Proofs.Table
import Backoffice.Query.Records
import Mathlib.Data.Fintype.EquivFin
import Mathlib.Data.List.Forall2

/-!
What a listing of records tells about omitted fields.

Filters on omitted fields are dropped, so records that differ in nothing else are kept or left out
together. Sorts are taken up whatever they name: sorted by an omitted field, a listing shows the
order of what it should conceal, and there is no other way in which it depends on omitted fields.
-/

namespace Backoffice

/-! ### Two lists side by side -/

/-- Lists whose entries are kept and placed alike, row by row, come to the same
rows in the same order. -/
theorem exists_rows_of_alike {Entry : Type} {Alike : Entry → Entry → Prop} {keep : Entry → Bool}
    {before : Entry → Entry → Bool}
    (kept : ∀ first second, Alike first second → keep first = keep second)
    (placed : ∀ first second third fourth, Alike first second → Alike third fourth →
      before first third = before second fourth)
    {entries others : List Entry} (alike : List.Forall₂ Alike entries others) :
    ∃ rows : List (Entry × Entry), rows.Subperm (entries.zip others) ∧
      (entries.filter keep).mergeSort before = rows.map Prod.fst ∧
      (others.filter keep).mergeSort before = rows.map Prod.snd := by
  obtain ⟨sameLength, related⟩ := List.forall₂_iff_zip.1 alike
  have keptRows : (entries.zip others).filter (keep ∘ Prod.fst) =
      (entries.zip others).filter (keep ∘ Prod.snd) :=
    List.filter_congr fun row member => kept row.1 row.2 (related member)
  have placedRows : ∀ row ∈ (entries.zip others).filter (keep ∘ Prod.fst),
      ∀ other ∈ (entries.zip others).filter (keep ∘ Prod.fst),
        before row.1 other.1 = before row.2 other.2 := by
    intro row isRow other isOther
    exact placed _ _ _ _ (related (List.mem_of_mem_filter isRow))
      (related (List.mem_of_mem_filter isOther))
  refine ⟨((entries.zip others).filter (keep ∘ Prod.fst)).mergeSort fun row other =>
    before row.1 other.1, ?_, ?_, ?_⟩
  · exact (List.mergeSort_perm _ _).subperm.trans List.filter_sublist.subperm
  · rw [List.map_mergeSort (s := before) fun _ _ _ _ => rfl, ← List.filter_map,
      List.map_fst_zip sameLength.le]
  · rw [List.map_mergeSort (s := before) placedRows, keptRows, ← List.filter_map,
      List.map_snd_zip sameLength.ge]

/-! ### Records that differ in hidden fields -/

namespace Json

/-- Objects that have the same values under all names but hidden ones. -/
structure Agree (hidden : String → Prop) (first second : Json) : Prop where
  isObject : ∃ members, first = .object members
  isObjectToo : ∃ members, second = .object members
  same : ∀ name, ¬ hidden name → first.get? name = second.get? name

theorem Agree.getOrNull_eq {hidden : String → Prop} {first second : Json}
    (agree : Agree hidden first second) {name : String} (shown : ¬ hidden name) :
    first.getOrNull name = second.getOrNull name := by
  rw [getOrNull, getOrNull, agree.same name shown]

theorem getD_compare?_self (value : Json) : (value.compare? value).getD .eq = .eq := by
  cases value with
  | number value =>
    simp only [compare?, Number.compare?]
    cases value.toBinary64? with
    | none => rfl
    | some double =>
      show compare double.orderKey double.orderKey = .eq
      exact Std.ReflCmp.compare_self
  | string text =>
    show compare text text = .eq
    exact Std.ReflCmp.compare_self
  | bool value =>
    show compare value value = .eq
    exact Std.ReflCmp.compare_self
  | _ => rfl

end Json

theorem OrderTerm.compare_eq_of_getOrNull_eq {term : OrderTerm} {left right : Json}
    (same : left.getOrNull term.field = right.getOrNull term.field) :
    term.compare left right = .eq := by
  rw [OrderTerm.compare, same, Json.getD_compare?_self]
  cases term.direction with
  | asc => rfl
  | desc => rfl

/-- Whether the field of a name is omitted. -/
def Resource.Omits (resource : Resource) (name : String) : Prop :=
  ∃ field, resource.field? name = some field ∧ field.omitted = true

instance (resource : Resource) (name : String) : Decidable (resource.Omits name) :=
  decidable_of_iff ((resource.field? name).any (·.omitted) = true) (Option.any_eq_true _ _)

theorem Resource.admit?_eq_some {resource : Resource} {filter : Filter} {field : Field}
    (stored : resource.field? filter.field = some field) (filterable : field.filterable = true)
    (shown : field.omitted = false) : resource.admit? filter = some (filter.coerce field) := by
  simp [admit?, stored, filterable, shown]

theorem Resource.not_omits_of_admit?_eq_some {resource : Resource} {filter admitted : Filter}
    (taken : resource.admit? filter = some admitted) : ¬ resource.Omits admitted.field := by
  rintro ⟨field, stored, omitted⟩
  unfold admit? at taken
  split at taken
  · next found known =>
    split at taken
    · next allowed =>
      cases taken
      rw [Filter.coerce, known, Option.some.injEq] at stored
      rw [stored, omitted, Bool.not_true, Bool.and_false] at allowed
      cases allowed
    · cases taken
  · cases taken

namespace FilterQuery

variable {hidden : String → Prop} {query : FilterQuery}

theorem foldl_filter (query : FilterQuery) (filters : List Filter) :
    filters.foldl QueryTarget.filter query =
      { query with filters := query.filters ++ filters } := by
  induction filters generalizing query with
  | nil => simp
  | cons filter rest inductionHypothesis =>
    rw [List.foldl_cons, inductionHypothesis]
    simp [QueryTarget.filter]

theorem isMatch_eq_of_agree (shown : ∀ filter ∈ query.filters, ¬ hidden filter.field)
    {first second : Json} (agree : Json.Agree hidden first second) :
    query.isMatch first = query.isMatch second := by
  rw [isMatch, isMatch, Bool.eq_iff_iff, List.all_eq_true, List.all_eq_true]
  refine forall₂_congr fun filter member => ?_
  rw [Filter.admits, Filter.admits, agree.getOrNull_eq (shown filter member)]

theorem compareRecords_eq_of_agree {terms : List OrderTerm}
    (shown : ∀ term ∈ terms, ¬ hidden term.field) {left right other another : Json}
    (agree : Json.Agree hidden left other) (agreeToo : Json.Agree hidden right another) :
    compareRecords terms left right = compareRecords terms other another := by
  induction terms with
  | nil => rfl
  | cons term rest inductionHypothesis =>
    rw [List.forall_mem_cons] at shown
    rw [compareRecords, compareRecords, inductionHypothesis shown.2, OrderTerm.compare,
      OrderTerm.compare, agree.getOrNull_eq shown.1, agreeToo.getOrNull_eq shown.1]

end FilterQuery

/-! ### Records that tell a sort by a hidden field -/

/-- An object with a rank under the name of a field, and a mark under another name. -/
def Json.ranked (members : Members) (field mark : String) (rank marked : Bool) : Json :=
  .object ((members.insert field (.bool rank)).insert mark (.bool marked))

section Ranked

variable (members : Members) {field mark : String} (rank marked : Bool)

theorem Json.getOrNull_ranked (name : String) :
    (Json.ranked members field mark rank marked).getOrNull name =
      if mark = name then .bool marked
      else if field = name then .bool rank
      else (Json.object members).getOrNull name := by
  simp only [getOrNull, ranked, get?, Table.get?_insert]
  split
  · rfl
  · split
    · rfl
    · rfl

/-- The rank and the mark do not matter to filters on other fields. -/
theorem FilterQuery.isMatch_ranked {query : FilterQuery}
    (others : ∀ filter ∈ query.filters, field ≠ filter.field ∧ mark ≠ filter.field) :
    query.isMatch (Json.ranked members field mark rank marked) =
      query.isMatch (.object members) := by
  rw [isMatch, isMatch, Bool.eq_iff_iff, List.all_eq_true, List.all_eq_true]
  refine forall₂_congr fun filter member => ?_
  rw [Filter.admits, Filter.admits, Json.getOrNull_ranked, if_neg (others filter member).2,
    if_neg (others filter member).1]

theorem Json.agree_ranked {hidden : String → Prop} (isHidden : hidden field) (other : Bool) :
    Json.Agree hidden (Json.ranked members field mark rank marked)
      (Json.ranked members field mark other marked) := by
  refine ⟨⟨_, rfl⟩, ⟨_, rfl⟩, fun name shown => ?_⟩
  have different : field ≠ name := fun same => shown (same ▸ isHidden)
  simp only [ranked, get?, Table.get?_insert, if_neg different]

theorem Json.Agree.marked_eq {hidden : String → Prop} (isShown : ¬ hidden mark)
    {other otherMarked : Bool}
    (agree : Json.Agree hidden (Json.ranked members field mark rank marked)
      (Json.ranked members field mark other otherMarked)) : marked = otherMarked := by
  have same := agree.getOrNull_eq isShown
  rw [getOrNull_ranked, getOrNull_ranked, if_pos rfl, if_pos rfl] at same
  exact Json.bool.inj same

/-- Of terms some of which are by the rank, the first one of these decides. -/
theorem FilterQuery.compareRecords_ranked {terms : List OrderTerm}
    (unmarked : ∀ term ∈ terms, mark ≠ term.field) (sorts : ∃ term ∈ terms, field = term.field) :
    ∃ direction : SortDirection, ∀ first second : Bool,
      compareRecords terms (Json.ranked members field mark false first)
        (Json.ranked members field mark true second) =
        direction.apply .lt ∧
      compareRecords terms (Json.ranked members field mark true first)
        (Json.ranked members field mark false second) =
        direction.apply .gt := by
  induction terms with
  | nil =>
    obtain ⟨_, member, _⟩ := sorts
    cases member
  | cons term rest inductionHypothesis =>
    rw [List.forall_mem_cons] at unmarked
    by_cases byRank : field = term.field
    · refine ⟨term.direction, fun first second => ?_⟩
      simp only [compareRecords, OrderTerm.compare, Json.getOrNull_ranked, if_neg unmarked.1,
        if_pos byRank]
      cases term.direction with
      | asc => exact ⟨rfl, rfl⟩
      | desc => exact ⟨rfl, rfl⟩
    · obtain ⟨direction, decides⟩ := inductionHypothesis unmarked.2 (by simpa [byRank] using sorts)
      refine ⟨direction, fun first second => ?_⟩
      -- The ranks and marks do not show under the name of this term.
      have even (rank other : Bool) : term.compare (Json.ranked members field mark rank first)
          (Json.ranked members field mark other second) = .eq := by
        refine OrderTerm.compare_eq_of_getOrNull_eq ?_
        rw [Json.getOrNull_ranked, Json.getOrNull_ranked, if_neg unmarked.1, if_neg unmarked.1,
          if_neg byRank, if_neg byRank]
      rw [compareRecords, compareRecords, even, even]
      exact decides first second

end Ranked

/-! ### Listings -/

namespace QueryOpts

variable (opts : QueryOpts) (resource : Resource)

def sortTerms : List OrderTerm := opts.orderBy.toList.flatMap OrderBy.toTerms

def recordQuery : FilterQuery := opts.applyFor resource {}

def listing (records : List Json) : List Json := (opts.recordQuery resource).apply records

/-- Whether listings conceal what the resource omits: lists of records that differ, row by row, in
omitted fields only are listed to such lists, in which the same rows stand in the same order. -/
def Conceals : Prop :=
  ∀ records others : List Json, List.Forall₂ (Json.Agree resource.Omits) records others →
    List.Forall₂ (Json.Agree resource.Omits) (opts.listing resource records)
      (opts.listing resource others) ∧
    ∃ rows : List (Json × Json), rows.Subperm (records.zip others) ∧
      opts.listing resource records = rows.map Prod.fst ∧
      opts.listing resource others = rows.map Prod.snd

theorem recordQuery_eq :
    opts.recordQuery resource =
      { filters := opts.filters.filterMap resource.admit?, sort := opts.sortTerms } := by
  rw [recordQuery, applyFor, extend, FilterQuery.foldl_filter, sortTerms]
  cases opts.orderBy with
  | none => rfl
  | some order => simp [QueryTarget.sort]

/-- Two records that match stand in their order, unless the second one precedes the first. -/
theorem listing_pair {first second : Json}
    (matched : (opts.recordQuery resource).isMatch first = true)
    (matchedToo : (opts.recordQuery resource).isMatch second = true) :
    opts.listing resource [first, second] =
      if FilterQuery.compareRecords opts.sortTerms first second = .gt then [second, first]
        else [first, second] := by
  have sorts : (opts.recordQuery resource).sort = opts.sortTerms := by rw [recordQuery_eq]
  rw [listing, FilterQuery.apply, List.filter_cons_of_pos matched,
    List.filter_cons_of_pos matchedToo, List.filter_nil, mergeSort_pair,
    FilterQuery.precedes, sorts]
  simp only [ne_eq, decide_not, Bool.not_eq_true', decide_eq_false_iff_not, ite_not]

theorem not_omits_of_mem_filters :
    ∀ filter ∈ (opts.recordQuery resource).filters, ¬ resource.Omits filter.field := by
  intro filter member
  rw [recordQuery_eq] at member
  obtain ⟨declared, _, taken⟩ := List.mem_filterMap.1 member
  exact Resource.not_omits_of_admit?_eq_some taken

variable {opts resource}

theorem conceals_of_exists_rows
    (sameRows : ∀ records others : List Json,
      List.Forall₂ (Json.Agree resource.Omits) records others →
      ∃ rows : List (Json × Json), rows.Subperm (records.zip others) ∧
        opts.listing resource records = rows.map Prod.fst ∧
        opts.listing resource others = rows.map Prod.snd) :
    opts.Conceals resource := by
  intro records others agree
  obtain ⟨rows, among, listed, listedToo⟩ := sameRows records others agree
  refine ⟨?_, rows, among, listed, listedToo⟩
  rw [listed, listedToo, List.forall₂_map_left_iff, List.forall₂_map_right_iff, List.forall₂_same]
  exact fun row member => (List.forall₂_iff_zip.1 agree).2 (among.subset member)

theorem conceals_of_sortTerms (shown : ∀ term ∈ opts.sortTerms, ¬ resource.Omits term.field) :
    opts.Conceals resource := by
  have sorts : (opts.recordQuery resource).sort = opts.sortTerms := by rw [recordQuery_eq]
  refine conceals_of_exists_rows fun records others agree => exists_rows_of_alike ?_ ?_ agree
  · exact fun first second =>
      FilterQuery.isMatch_eq_of_agree (opts.not_omits_of_mem_filters resource)
  · intro first second third fourth agree agreeToo
    rw [FilterQuery.precedes, FilterQuery.precedes, sorts,
      FilterQuery.compareRecords_eq_of_agree shown agree agreeToo]

theorem conceals_of_unmatched
    (unmatched : ∀ members : Members,
      (opts.recordQuery resource).isMatch (.object members) = false) :
    opts.Conceals resource := by
  refine conceals_of_exists_rows fun records others agree => ?_
  have empty {listed : List Json}
      (objects : ∀ record ∈ listed, ∃ members, record = .object members) :
        opts.listing resource listed = [] := by
    have none : listed.filter (opts.recordQuery resource).isMatch = [] := by
      refine List.filter_eq_nil_iff.2 fun record member => ?_
      obtain ⟨members, same⟩ := objects record member
      rw [same, unmatched members]
      exact Bool.false_ne_true
    rw [listing, FilterQuery.apply, none, List.mergeSort_nil]
  obtain ⟨sameLength, related⟩ := List.forall₂_iff_zip.1 agree
  refine ⟨[], List.nil_subperm, empty ?_, empty ?_⟩
  · intro record member
    rw [← List.map_fst_zip sameLength.le] at member
    obtain ⟨row, isRow, same⟩ := List.mem_map.1 member
    exact same ▸ (related isRow).isObject
  · intro record member
    rw [← List.map_snd_zip sameLength.ge] at member
    obtain ⟨row, isRow, same⟩ := List.mem_map.1 member
    exact same ▸ (related isRow).isObjectToo

/-- A name under which nothing is stored, filtered or sorted. -/
theorem exists_fresh (opts : QueryOpts) (resource : Resource) :
    ∃ mark : String, ¬ resource.Omits mark ∧
    (∀ filter ∈ (opts.recordQuery resource).filters, mark ≠ filter.field) ∧
    ∀ term ∈ opts.sortTerms, mark ≠ term.field := by
  let taken := resource.fields.map (·.1) ++ (opts.recordQuery resource).filters.map (·.field) ++
    opts.sortTerms.map (·.field)
  obtain ⟨mark, fresh⟩ := Infinite.exists_notMem_finset taken.toFinset
  simp only [taken, List.mem_toFinset, List.mem_append, not_or] at fresh
  refine ⟨mark, ?_, ?_, ?_⟩
  · rintro ⟨field, stored, _⟩
    exact fresh.1.1 (List.mem_map.2 ⟨_, Table.mem_of_get?_eq_some stored, rfl⟩)
  · exact fun filter member same => fresh.1.2 (List.mem_map.2 ⟨filter, member, same.symm⟩)
  · exact fun term member same => fresh.2 (List.mem_map.2 ⟨term, member, same.symm⟩)

/-- Sorted by an omitted field, the same two records stand in one order or in the other, as
their ranks are dealt. -/
theorem not_conceals_of_mem_sortTerms {term : OrderTerm} (sorted : term ∈ opts.sortTerms)
    (omitted : resource.Omits term.field) {members : Members}
    (matched : (opts.recordQuery resource).isMatch (.object members) = true) :
    ¬ opts.Conceals resource := by
  intro conceals
  obtain ⟨mark, shown, unfiltered, unsorted⟩ := exists_fresh opts resource
  obtain ⟨direction, decides⟩ :=
    FilterQuery.compareRecords_ranked members unsorted ⟨term, sorted, rfl⟩
  have kept (rank marked : Bool) : (opts.recordQuery resource).isMatch
      (Json.ranked members term.field mark rank marked) = true := by
    rw [FilterQuery.isMatch_ranked members rank marked fun filter member =>
      ⟨fun same => opts.not_omits_of_mem_filters resource filter member (same ▸ omitted),
        unfiltered filter member⟩]
    exact matched
  have agree (first second third fourth : Bool) : List.Forall₂ (Json.Agree resource.Omits)
      [Json.ranked members term.field mark first false,
        Json.ranked members term.field mark second true]
      [Json.ranked members term.field mark third false,
        Json.ranked members term.field mark fourth true] :=
    .cons (Json.agree_ranked members _ _ omitted _)
      (.cons (Json.agree_ranked members _ _ omitted _) .nil)
  have alike := (conceals _ _ (agree false true true false)).1
  rw [opts.listing_pair resource (kept _ _) (kept _ _),
    opts.listing_pair resource (kept _ _) (kept _ _), (decides _ _).1, (decides _ _).2] at alike
  -- One of the two lists is turned round, whichever direction decides, so their first
  -- rows have different marks.
  cases direction with
  | asc =>
    have firstRows := (List.forall₂_cons.1 alike).1
    cases firstRows.marked_eq members _ _ shown
  | desc =>
    have firstRows := (List.forall₂_cons.1 alike).1
    cases firstRows.marked_eq members _ _ shown

/-- A listing conceals what the resource omits exactly if it is sorted by no omitted field, or
lists no records at all. -/
theorem conceals_iff (opts : QueryOpts) (resource : Resource) :
    opts.Conceals resource ↔
      (∀ term ∈ opts.sortTerms, ¬ resource.Omits term.field) ∨
        ∀ members : Members, (opts.recordQuery resource).isMatch (.object members) = false := by
  constructor
  · intro conceals
    refine or_iff_not_imp_right.2 fun matching term sorted omitted => ?_
    push Not at matching
    obtain ⟨members, matched⟩ := matching
    exact not_conceals_of_mem_sortTerms sorted omitted
      (Bool.eq_true_of_not_eq_false matched) conceals
  · rintro (shown | unmatched)
    · exact conceals_of_sortTerms shown
    · exact conceals_of_unmatched unmatched

/-- Accounts whose balance is omitted. -/
def accounts : Resource :=
  .discover "account"
    (.simple { schemas := [
      { name := ⟨"Bank.Account"⟩
        fields := [
          { name := "id", nativeType := "integer" },
          { name := "balance", nativeType := "integer" }] }] })
    ⟨"Bank.Account"⟩ none
    (some { ResourceDeclaration.simple "account" "Bank.Account" none with
      fields := [{ name := "balance", omitted := some true }] }) {} none

def account (id balance : Int) : Json :=
  .object [("balance", .number (.int balance)), ("id", .number (.int id))]

def byBalance : QueryOpts := { orderBy := some (.field "balance") }

/-- Sorted by the balance, accounts that differ in nothing else change places. -/
theorem byBalance_discloses :
    byBalance.listing accounts [account 1 20, account 2 10] = [account 2 10, account 1 20] ∧
      byBalance.listing accounts [account 1 10, account 2 20] = [account 1 10, account 2 20] ∧
      ¬ byBalance.Conceals accounts := by
  have turned : byBalance.listing accounts [account 1 20, account 2 10] =
      [account 2 10, account 1 20] :=
    (byBalance.listing_pair accounts (by decide +kernel) (by decide +kernel)).trans
      (by decide +kernel)
  have straight : byBalance.listing accounts [account 1 10, account 2 20] =
      [account 1 10, account 2 20] :=
    (byBalance.listing_pair accounts (by decide +kernel) (by decide +kernel)).trans
      (by decide +kernel)
  have omitted : accounts.Omits "balance" := by decide +kernel
  have shown : ¬ accounts.Omits "id" := by decide +kernel
  refine ⟨turned, straight, fun conceals => ?_⟩
  have agree (id first second : Int) :
      Json.Agree accounts.Omits (account id first) (account id second) := by
    refine ⟨⟨_, rfl⟩, ⟨_, rfl⟩, fun name shown => ?_⟩
    have different : "balance" ≠ name := fun same => shown (same ▸ omitted)
    simp only [account, Json.get?, Table.get?, if_neg different]
  have alike := (conceals _ _ (.cons (agree 1 20 10) (.cons (agree 2 10 20) .nil))).1
  rw [turned, straight] at alike
  have same := (List.forall₂_cons.1 alike).1.same "id" shown
  exact absurd same (by decide)

end QueryOpts

end Backoffice
