import Backoffice.Proofs.Query.Parts
import Mathlib.Data.List.Forall2

/-!
The text of a listing does not depend on the values of its filters.

A query whose values are erased has the same text, and narrowing a query by some options
erases to narrowing it by the erased filters. So options that differ in nothing but
their values give one text.
-/

namespace Backoffice

/-! ### What is left without values -/

def Condition.erase : Condition → Condition
  | eq _ => eq .null
  | gte _ => gte .null
  | lte _ => lte .null
  | among values => among (values.map fun _ => .null)

def Filter.erase (filter : Filter) : Filter :=
  { filter with condition := filter.condition.erase }

def SelectQuery.erase (query : SelectQuery) : SelectQuery :=
  { query with filters := query.filters.map Filter.erase }

def SqlPart.erase : SqlPart → SqlPart
  | .parameter _ cast => .parameter .null cast
  | part => part

/-! ### The text -/

namespace SqlStatement

theorem render_map_erase (numbered : Nat) (statement : SqlStatement) :
    render numbered (statement.map SqlPart.erase) = render numbered statement := by
  induction statement generalizing numbered with
  | nil => rfl
  | cons part rest inductionHypothesis =>
    cases part with
    | _ => simp only [List.map_cons, SqlPart.erase, render, inductionHypothesis]

theorem map_erase_separate (separator : String) : ∀ statements : List SqlStatement,
    (separate separator statements).map SqlPart.erase =
      separate separator (statements.map (List.map SqlPart.erase))
  | [] => rfl
  | [_] => rfl
  | statement :: second :: rest => by
    rw [separate_cons_cons, List.map_append, List.map_cons,
      map_erase_separate separator (second :: rest)]
    rfl

end SqlStatement

namespace SelectQuery

variable (query : SelectQuery)

theorem map_erase_clause (keyword separator : String) (items : List SqlStatement) :
    (clause keyword separator items).map SqlPart.erase =
      clause keyword separator (items.map (List.map SqlPart.erase)) := by
  cases items with
  | nil => rfl
  | cons item rest =>
    exact congrArg (.fixed keyword :: ·) (SqlStatement.map_erase_separate separator (item :: rest))

theorem map_erase_comparison (filter : Filter) :
    (query.comparison filter).map SqlPart.erase = query.erase.comparison filter.erase := by
  obtain ⟨field, condition⟩ := filter
  cases condition with
  | among values =>
    cases values with
    | nil => rfl
    | cons value rest =>
      simp only [comparison, List.map_append, SqlStatement.map_erase_separate, List.map_map,
        Filter.erase, Condition.erase, List.map_cons]
      rfl
  | _ => rfl

theorem map_erase_selection : query.selection.map SqlPart.erase = query.selection := by
  unfold selection
  split
  · rfl
  · rw [SqlStatement.map_erase_separate, List.map_map]
    congr
    funext column
    rw [Function.comp_apply]
    split
    · rfl
    · rfl

theorem map_erase_source : query.source.map SqlPart.erase = query.source := by
  unfold source
  split
  · rfl
  · rfl

theorem map_erase_closing : query.closing.map SqlPart.erase = query.closing := by
  unfold closing
  cases query.limit with
  | none =>
    cases query.offset with
    | none => rfl
    | some _ => rfl
  | some _ =>
    cases query.offset with
    | none => rfl
    | some _ => rfl

theorem map_erase_build : query.build.map SqlPart.erase = query.erase.build := by
  have selects : query.selects.map SqlPart.erase = query.erase.selects :=
    congrArg (SqlPart.fixed "SELECT " :: ·) query.map_erase_selection
  have sources : query.sources.map SqlPart.erase = query.erase.sources :=
    congrArg (SqlPart.fixed " FROM " :: ·) query.map_erase_source
  have wheres : query.wheres.map SqlPart.erase = query.erase.wheres := by
    rw [SelectQuery.wheres, map_erase_clause, List.map_map]
    simp only [Function.comp_def, map_erase_comparison]
    rw [SelectQuery.wheres, erase, List.map_map]
    rfl
  have orders : query.orders.map SqlPart.erase = query.erase.orders := by
    rw [SelectQuery.orders, map_erase_clause, List.map_map]
    rfl
  simp only [build_eq, List.map_append, selects, sources, wheres, orders, map_erase_closing]
  rfl

theorem sql_erase : query.erase.sql = query.sql := by
  rw [sql, sql, SqlStatement.text, SqlStatement.text, ← map_erase_build,
    SqlStatement.render_map_erase]

end SelectQuery

/-! ### Narrowing -/

namespace SelectQuery

variable (query : SelectQuery)

theorem erase_filter (filter : Filter) :
    (QueryTarget.filter query filter).erase = QueryTarget.filter query.erase filter.erase := by
  have sameKnown : query.erase.isKnown filter.erase.field = query.isKnown filter.field := rfl
  simp only [QueryTarget.filter, sameKnown]
  by_cases known : query.isKnown filter.field = true
  · rw [if_pos known, if_pos known, erase, List.map_append]
    rfl
  · rw [if_neg known, if_neg known]

theorem erase_extend (filters : List Filter) (order : Option OrderBy) :
    (QueryOpts.extend query filters order).erase =
      QueryOpts.extend query.erase (filters.map Filter.erase) order := by
  have filtered : (filters.foldl QueryTarget.filter query).erase =
      (filters.map Filter.erase).foldl QueryTarget.filter query.erase := by
    induction filters generalizing query with
    | nil => rfl
    | cons filter rest inductionHypothesis =>
      rw [List.foldl_cons, inductionHypothesis, erase_filter]
      rfl
  cases order with
  | none => exact filtered
  | some order => exact congrArg (QueryTarget.sort · order) filtered

theorem sql_extend_eq {first second : List Filter}
    (same : first.map Filter.erase = second.map Filter.erase) (order : Option OrderBy) :
    (QueryOpts.extend query first order).sql = (QueryOpts.extend query second order).sql := by
  calc (QueryOpts.extend query first order).sql
      = (QueryOpts.extend query first order).erase.sql := (sql_erase _).symm
    _ = (QueryOpts.extend query second order).erase.sql := by
        rw [erase_extend, same, ← erase_extend]
    _ = (QueryOpts.extend query second order).sql := sql_erase _

end SelectQuery

/-! ### Options -/

theorem Filter.erase_coerce (filter : Filter) (field : Field) :
    (filter.coerce field).erase = filter.erase := by
  obtain ⟨name, condition⟩ := filter
  cases condition with
  | among values =>
    simp only [Filter.coerce, Condition.coerce, Filter.erase, Condition.erase, List.map_map]
    rfl
  | _ => rfl

theorem Resource.map_erase_admit? (resource : Resource) (filter : Filter) :
    (resource.admit? filter).map Filter.erase = (resource.field? filter.field).bind fun field =>
      if field.filterable && !field.omitted then some filter.erase else none := by
  unfold admit?
  cases resource.field? filter.field with
  | none => rfl
  | some field =>
    simp only [Option.bind_some]
    split
    · rw [Option.map_some, filter.erase_coerce]
    · rfl

/-- What a resource makes of filters erases to what it makes of the erased ones. -/
theorem Resource.map_erase_filterMap_admit? (resource : Resource) (filters : List Filter) :
    (filters.filterMap resource.admit?).map Filter.erase =
      (filters.map Filter.erase).filterMap fun filter =>
        (resource.field? filter.field).bind fun field =>
          if field.filterable && !field.omitted then some filter else none := by
  rw [List.map_filterMap, List.filterMap_map]
  congr
  funext filter
  exact resource.map_erase_admit? filter

/-- Clauses of one shape on one field, with the same comparison: they differ in their values only,
of which they have equally many. -/
inductive WhereClause.Alike : WhereClause → WhereClause → Prop where
  | equals (field : String) (first second : Json) :
      WhereClause.Alike (.equals field first) (.equals field second)
  | compare (field operator : String) {first second : Json} :
      (FilterOp.ofName? operator = some .among →
        (Condition.listed first).length = (Condition.listed second).length) →
      WhereClause.Alike (.compare field operator first) (.compare field operator second)
  | between (field : String) (low high otherLow otherHigh : Json) :
      WhereClause.Alike (.between field low high) (.between field otherLow otherHigh)

theorem WhereClause.Alike.map_erase_filters {first second : WhereClause}
    (alike : first.Alike second) :
    first.filters.map Filter.erase = second.filters.map Filter.erase := by
  cases alike with
  | equals field first second => rfl
  | compare field operator equallyMany =>
    simp only [filters, List.map_map]
    cases known : FilterOp.ofName? operator with
    | none => rfl
    | some op =>
      cases op with
      | among =>
        have lengths := equallyMany known
        simp only [Option.toList_some, List.map_cons, List.map_nil, Function.comp_apply,
          Filter.make, Condition.make, Filter.erase, Condition.erase, List.map_const', lengths]
      | _ => rfl
  | between field low high otherLow otherHigh => rfl

namespace QueryOpts

variable {first second : QueryOpts}

theorem map_erase_filters (alike : List.Forall₂ WhereClause.Alike first.clauses second.clauses) :
    first.filters.map Filter.erase = second.filters.map Filter.erase := by
  rw [filters, filters]
  generalize first.clauses = firstClauses, second.clauses = secondClauses at alike
  induction alike with
  | nil => rfl
  | cons alike _ inductionHypothesis =>
    rw [List.flatMap_cons, List.flatMap_cons, List.map_append, List.map_append,
      alike.map_erase_filters, inductionHypothesis]

/-- Options whose clauses are alike and whose sorts are the same give the same text, whichever query
they narrow and for whichever resource. -/
theorem sql_eq_of_alike (alike : List.Forall₂ WhereClause.Alike first.clauses second.clauses)
    (sameOrder : first.orderBy = second.orderBy) (base : SelectQuery) (resource : Resource) :
    (first.applyTo base).sql = (second.applyTo base).sql ∧
      (first.applyFor resource base).sql = (second.applyFor resource base).sql := by
  have same := map_erase_filters alike
  have admitted : (first.filters.filterMap resource.admit?).map Filter.erase =
      (second.filters.filterMap resource.admit?).map Filter.erase := by
    rw [resource.map_erase_filterMap_admit?, same, ← resource.map_erase_filterMap_admit?]
  rw [applyTo, applyTo, applyFor, applyFor, sameOrder]
  exact ⟨base.sql_extend_eq same _, base.sql_extend_eq admitted _⟩

def priceList : Resource :=
  .discover "product"
    (.simple { schemas := [
      { name := ⟨"Shop.Product"⟩
        fields := [
          { name := "price", nativeType := "decimal" },
          { name := "status", nativeType := "string" }] }] })
    ⟨"Shop.Product"⟩ none none {} none

def plainOpts : QueryOpts :=
  { orderBy := some (.field "status")
    clauses := [
      .compare "price" "gte" (.string " 9.5 "),
      .compare "status" "in" (.string "draft,active")] }

def oddOpts : QueryOpts :=
  { orderBy := some (.field "status")
    clauses := [
      .compare "price" "gte" (.string "1 OR 1 = 1"),
      .compare "status" "in" (.array [.null, .array []])] }

theorem sql_oddOpts :
    List.Forall₂ WhereClause.Alike oddOpts.clauses plainOpts.clauses ∧
      oddOpts.orderBy = plainOpts.orderBy ∧
      (oddOpts.applyFor priceList (SelectQuery.ofResource priceList "products")).sql =
        (plainOpts.applyFor priceList (SelectQuery.ofResource priceList "products")).sql ∧
      (plainOpts.applyFor priceList (SelectQuery.ofResource priceList "products")).sql =
        "SELECT \"price\"::text AS \"price\", \"status\" FROM \"products\" " ++
          "WHERE \"price\" >= $1::numeric AND \"status\" IN ($2, $3) ORDER BY \"status\" ASC" := by
  have alike : List.Forall₂ WhereClause.Alike oddOpts.clauses plainOpts.clauses :=
    .cons (.compare _ _ (by decide)) (.cons (.compare _ _ (by decide)) .nil)
  exact ⟨alike, rfl, (sql_eq_of_alike alike rfl _ priceList).2, by decide +kernel⟩

end QueryOpts

end Backoffice
