import Backoffice.Proofs.Query.RecordOrder
import Backoffice.Proofs.Text.Pieces

/-!
What clauses ask of a record.

A clause in one of the four shapes whose comparison is known asks something of the value of one
field, and every other document asks nothing. Records at hand match a list of clauses if they
meet each of them on its own.
-/

namespace Backoffice

open Text (Joins)

/-! ### Names of comparisons -/

namespace FilterOp

/-- The name of a comparison and its aliases. -/
def names : FilterOp → List String
  | eq => ["eq", "equal_to", "like", "ilike"]
  | gte => ["gte", "ge", "greater_equal_than"]
  | lte => ["lte", "le", "less_equal_than"]
  | among => ["in"]

theorem ofName?_eq_some_iff {name : String} {op : FilterOp} :
    ofName? name = some op ↔ name ∈ op.names := by
  constructor
  · intro named
    unfold ofName? at named
    split at named <;> cases named <;> simp [names]
  · have named : ∀ name ∈ op.names, ofName? name = some op := by cases op <;> decide
    exact named name

end FilterOp

/-! ### What values meet -/

namespace Json

/-- The values that a list, a text with commas, or any other value stands for. -/
inductive Lists : Json → Json → Prop where
  | item {items : List Json} {value : Json} : value ∈ items → Lists (.array items) value
  | piece {text part : String} {parts : List String} :
      Joins ',' parts text → part ∈ parts → Lists (.string text) (.string part)
  | other {value : Json} : (∀ items, value ≠ .array items) → (∀ text, value ≠ .string text) →
    Lists value value

def AtLeast (actual low : Json) : Prop := actual.Compares low .gt ∨ actual.Compares low .eq

def AtMost (actual high : Json) : Prop := actual.Compares high .lt ∨ actual.Compares high .eq

/-- What a clause asks of the value of a field. -/
inductive Asks : Json → String → (Json → Prop) → Prop where
  | equals {field : String} {value : Json} :
    Asks (.array [.string field, value]) field (·.Compares value .eq)
  | eq {field name : String} {value : Json} : name ∈ FilterOp.eq.names →
      Asks (.array [.string field, .string name, value]) field (·.Compares value .eq)
  | gte {field name : String} {low : Json} : name ∈ FilterOp.gte.names →
      Asks (.array [.string field, .string name, low]) field (·.AtLeast low)
  | lte {field name : String} {high : Json} : name ∈ FilterOp.lte.names →
      Asks (.array [.string field, .string name, high]) field (·.AtMost high)
  | among {field : String} {listing : Json} :
      Asks (.array [.string field, .string "in", listing]) field
        fun actual => ∃ value, listing.Lists value ∧ actual.Compares value .eq
  | between {field : String} {low high : Json} :
      Asks (.array [.string field, .string "between", low, high]) field
        fun actual => actual.AtLeast low ∧ actual.AtMost high

end Json

namespace Condition

variable {value listing low high actual : Json}

theorem mem_listed_iff : value ∈ listed listing ↔ listing.Lists value := by
  constructor
  · intro member
    cases listing with
    | array items => exact .item member
    | string text =>
      obtain ⟨part, isPiece, rfl⟩ := List.mem_map.1 member
      exact .piece (Text.pieces_eq_iff.1 rfl) isPiece
    | null | bool | number | object =>
      cases List.mem_singleton.1 member
      exact .other nofun nofun
  · intro lists
    cases lists with
    | item member => exact member
    | piece joins member =>
      apply List.mem_map_of_mem
      rwa [Text.pieces_eq_iff.2 joins]
    | other noArray noText =>
      cases value with
      | array items => exact absurd rfl (noArray items)
      | string text => exact absurd rfl (noText text)
      | null | bool | number | object => exact List.mem_singleton_self _

theorem eq_holds_iff : (eq value).holds actual = true ↔ actual.Compares value .eq := by
  simp [holds, Json.compare?_eq_some_iff]

theorem gte_holds_iff : (gte low).holds actual = true ↔ actual.AtLeast low := by
  simp [holds, Json.compare?_eq_some_iff, Json.AtLeast]

theorem lte_holds_iff : (lte high).holds actual = true ↔ actual.AtMost high := by
  simp [holds, Json.compare?_eq_some_iff, Json.AtMost]

theorem among_listed_holds_iff :
    (among (listed listing)).holds actual = true ↔
      ∃ value, listing.Lists value ∧ actual.Compares value .eq := by
  simp [holds, Json.compare?_eq_some_iff, mem_listed_iff]

end Condition

/-! ### One clause -/

namespace Json

variable {clause : Json} {field : String} {test : Json → Prop}

/-- The filters that a document makes as a clause. -/
def clauseFilters (clause : Json) :
    List Filter := (WhereClause.ofJson? clause).toList.flatMap WhereClause.filters

theorem clauseFilters_equals (value : Json) :
    clauseFilters (.array [.string field, value]) = [{ field, condition := .eq value }] := rfl

theorem clauseFilters_between (low high : Json) :
    clauseFilters (.array [.string field, .string "between", low, high]) =
      [{ field, condition := .gte low }, { field, condition := .lte high }] := rfl

theorem clauseFilters_compare {name : String} {op : FilterOp} (named : name ∈ op.names)
    (value : Json) :
    clauseFilters (.array [.string field, .string name, value]) =
      [{ field, condition := .make op value }] := by
  simp [clauseFilters, WhereClause.ofJson?, WhereClause.filters, Filter.make,
    FilterOp.ofName?_eq_some_iff.2 named]

/-- The filters of a clause hold of the records that meet what it asks. -/
theorem Asks.all_clauseFilters_iff (asks : clause.Asks field test) (record : Json) :
    clause.clauseFilters.all (·.admits record) = true ↔ test (record.getOrNull field) := by
  cases asks with
  | equals => simp [clauseFilters_equals, Filter.admits, Condition.eq_holds_iff]
  | eq named =>
    simp [clauseFilters_compare named, Filter.admits, Condition.make, Condition.eq_holds_iff]
  | gte named =>
    simp [clauseFilters_compare named, Filter.admits, Condition.make, Condition.gte_holds_iff]
  | lte named =>
    simp [clauseFilters_compare named, Filter.admits, Condition.make, Condition.lte_holds_iff]
  | among =>
    have named : "in" ∈ FilterOp.among.names := List.mem_singleton_self _
    simp [clauseFilters_compare named, Filter.admits, Condition.make,
      Condition.among_listed_holds_iff]
  | between =>
    simp [clauseFilters_between, Filter.admits, Condition.gte_holds_iff, Condition.lte_holds_iff]

theorem exists_asks_of_mem_clauseFilters {filter : Filter}
    (member : filter ∈ clause.clauseFilters) :
    ∃ field test, clause.Asks field test := by
  obtain ⟨read, isRead, fromRead⟩ := List.mem_flatMap.1 member
  rw [Option.mem_toList] at isRead
  unfold WhereClause.ofJson? at isRead
  split at isRead
  · exact ⟨_, _, .equals⟩
  · cases isRead
    obtain ⟨op, named, -⟩ := List.mem_map.1 fromRead
    rw [Option.mem_toList, FilterOp.ofName?_eq_some_iff] at named
    cases op with
    | eq => exact ⟨_, _, .eq named⟩
    | gte => exact ⟨_, _, .gte named⟩
    | lte => exact ⟨_, _, .lte named⟩
    | among =>
      cases List.mem_singleton.1 named
      exact ⟨_, _, .among⟩
  · obtain ⟨rfl, -⟩ := Option.ite_none_right_eq_some.1 isRead
    exact ⟨_, _, .between⟩
  · cases isRead

theorem all_clauseFilters_iff (clause record : Json) :
    clause.clauseFilters.all (·.admits record) = true ↔
      ∀ field test, clause.Asks field test → test (record.getOrNull field) := by
  constructor
  · exact fun passes field test asks => (asks.all_clauseFilters_iff record).1 passes
  · intro meets
    by_cases asksNothing : clause.clauseFilters = []
    · rw [asksNothing, List.all_nil]
    · obtain ⟨filter, member⟩ := List.exists_mem_of_ne_nil _ asksNothing
      obtain ⟨field, test, asks⟩ := exists_asks_of_mem_clauseFilters member
      exact (asks.all_clauseFilters_iff record).2 (meets field test asks)

end Json

/-! ### Lists of clauses -/

namespace FilterQuery

def narrowedBy (clauses : List Json) :
    FilterQuery := (QueryOpts.ofMembers [("where", .array clauses)]).applyTo {}

theorem narrowedBy_eq (clauses : List Json) :
    narrowedBy clauses = { filters := clauses.flatMap Json.clauseFilters } := by
  have read : QueryOpts.ofMembers [("where", .array clauses)] =
      { clauses := clauses.filterMap WhereClause.ofJson? } := rfl
  have filters : (clauses.filterMap WhereClause.ofJson?).flatMap WhereClause.filters =
      clauses.flatMap Json.clauseFilters := by
    rw [List.filterMap_eq_flatMap_toList, List.flatMap_assoc]
    rfl
  rw [narrowedBy, read, QueryOpts.applyTo, QueryOpts.extend, foldl_filter,
    QueryOpts.filters, filters]
  rfl

theorem isMatch_narrowedBy_cons (clause record : Json) (clauses : List Json) :
    (narrowedBy (clause :: clauses)).isMatch record =
      (clause.clauseFilters.all (·.admits record) && (narrowedBy clauses).isMatch record) := by
  simp [narrowedBy_eq, isMatch]

/-- A record matches a list of clauses if it meets what each of them asks, where a missing field
counts as null. So the order of the clauses does not matter, nor how often one is repeated, and
lists may be tried one after the other. -/
theorem isMatch_narrowedBy_iff_meets (clauses : List Json) (record : Json) :
    ((narrowedBy clauses).isMatch record = true ↔
      ∀ clause ∈ clauses, ∀ field test, clause.Asks field test → test (record.getOrNull field)) ∧
    (∀ others : List Json, (∀ clause, clause ∈ clauses ↔ clause ∈ others) →
      (narrowedBy clauses).isMatch record = (narrowedBy others).isMatch record) ∧
    ∀ others : List Json, (narrowedBy (clauses ++ others)).isMatch record =
      ((narrowedBy clauses).isMatch record && (narrowedBy others).isMatch record) := by
  have meets (clauses : List Json) : (narrowedBy clauses).isMatch record = true ↔
      ∀ clause ∈ clauses, ∀ field test, clause.Asks field test → test (record.getOrNull field) := by
    induction clauses with
    | nil => simp [narrowedBy_eq, isMatch]
    | cons clause rest inductionHypothesis =>
      rw [isMatch_narrowedBy_cons, Bool.and_eq_true, inductionHypothesis,
        Json.all_clauseFilters_iff, List.forall_mem_cons]
  refine ⟨meets clauses, fun others same => ?_, fun others => ?_⟩
  · rw [Bool.eq_iff_iff, meets, meets]
    simp only [same]
  · rw [Bool.eq_iff_iff, Bool.and_eq_true, meets, meets, meets, List.forall_mem_append]

/-- Clauses of which the last three ask nothing: an unknown comparison, a range without its upper
end, and a field on its own. -/
def saleClauses : List Json := [
  .array [.string "price", .string "between", .number (.int 10), .number (.int 20)],
  .array [.string "status", .string "in", .string "draft,active"],
  .array [.string "note", .string "ge", .null],
  .array [.string "price", .string "gt", .number (.int 100)],
  .array [.string "price", .string "between", .number (.int 100)],
  .array [.string "price"]]

def sale : Json := .object [("price", .number (.int 20)), ("status", .string "active")]

/-- The sale matches the clauses in any order, and its price is in their range. -/
theorem isMatch_narrowedBy_sale :
    (∀ clause, clause ∈ saleClauses ↔ clause ∈ saleClauses.reverse ++ saleClauses) ∧
      (narrowedBy (saleClauses.reverse ++ saleClauses)).isMatch sale = true ∧
      (sale.getOrNull "price").AtLeast (.number (.int 10)) ∧
      (sale.getOrNull "price").AtMost (.number (.int 20)) := by
  obtain ⟨meets, reordered, -⟩ := isMatch_narrowedBy_iff_meets saleClauses sale
  have matched : (narrowedBy saleClauses).isMatch sale = true := by decide +kernel
  have same : ∀ clause, clause ∈ saleClauses ↔
      clause ∈ saleClauses.reverse ++ saleClauses := by simp
  exact ⟨same, (reordered _ same).symm.trans matched,
    meets.1 matched _ List.mem_cons_self _ _ .between⟩

end FilterQuery

end Backoffice
