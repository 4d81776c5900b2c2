import Backoffice.Proofs.Table
import Backoffice.Query.Options

/-!
Options of a listing that are written and read again.

Every sort and every clause is written in a shape that reads as itself: the number of items tells a
range from a comparison and a comparison from an equality, and whatever the value is, it stands
where no reader looks for an operator. So nothing is passed over when written options are read.
-/

namespace Backoffice

theorem OrderTerm.flatMap_ofItem_map_toJson (terms : List OrderTerm) :
    (terms.map toJson).flatMap ofItem = terms := by
  induction terms with
  | nil => rfl
  | cons term rest inductionHypothesis =>
    rw [List.map_cons, List.flatMap_cons, ofItem_toJson, inductionHypothesis, List.singleton_append]

theorem OrderBy.ofJson?_toJson (order : OrderBy) : ofJson? order.toJson = some order := by
  cases order with
  | field name => rfl
  | terms listed => rw [toJson, ofJson?, OrderTerm.flatMap_ofItem_map_toJson]

theorem WhereClause.ofJson?_toJson (clause : WhereClause) :
    ofJson? clause.toJson = some clause := by
  cases clause with
  | equals field value => rfl
  | compare field operator value => rfl
  | between field low high => rw [toJson, ofJson?, if_pos rfl]

theorem WhereClause.filterMap_ofJson?_map_toJson (clauses : List WhereClause) :
    (clauses.map toJson).filterMap ofJson? = clauses := by
  rw [List.filterMap_map]
  simp only [Function.comp_def, ofJson?_toJson, List.filterMap_some]

namespace QueryOpts

variable (opts : QueryOpts)

theorem ascending_toMembers : opts.toMembers.Ascending := by
  obtain ⟨_ | order, _ | ⟨clause, rest⟩⟩ := opts
  · exact List.Pairwise.nil
  · exact List.pairwise_singleton _ _
  · exact List.pairwise_singleton _ _
  · have inOrder : "order_by" < "where" := by decide
    exact List.pairwise_pair.2 inOrder

theorem get?_orderBy_toMembers : opts.toMembers.get? "order_by" = opts.orderBy.map (·.toJson) := by
  obtain ⟨_ | order, _ | ⟨clause, rest⟩⟩ := opts <;> simp [toMembers, Table.get?]

theorem get?_camelOrderBy_toMembers : opts.toMembers.get? "orderBy" = none := by
  obtain ⟨_ | order, _ | ⟨clause, rest⟩⟩ := opts <;> simp [toMembers, Table.get?]

theorem get?_where_toMembers :
    opts.toMembers.get? "where" =
      if opts.clauses = [] then none else some (.array (opts.clauses.map (·.toJson))) := by
  obtain ⟨_ | order, _ | ⟨clause, rest⟩⟩ := opts <;> simp [toMembers, Table.get?]

theorem ofMembers_toMembers : ofMembers opts.toMembers = opts := by
  rw [ofMembers, get?_orderBy_toMembers, get?_camelOrderBy_toMembers, get?_where_toMembers,
    Option.or_none, Option.bind_map]
  obtain ⟨order, clauses⟩ := opts
  congr 1
  · cases order with
    | none => rfl
    | some order => exact OrderBy.ofJson?_toJson order
  · by_cases empty : clauses = []
    · simp only [empty, if_true]
    · simp only [empty, if_false, WhereClause.filterMap_ofJson?_map_toJson]

/-- Options are written as an object that reads as the same options, with the same
order and the same filters; so options that have been read are written without loss,
whatever stood beside them. -/
theorem toJson_rereads :
    (∀ opts : QueryOpts, ∃ written : Members, opts.toJson = .object written ∧ written.Ascending ∧
      ofMembers written = opts ∧
      (ofMembers written).orderBy.map (·.toTerms) = opts.orderBy.map (·.toTerms) ∧
      (ofMembers written).filters = opts.filters) ∧
    ∀ members : Members, ∃ written : Members, (ofMembers members).toJson = .object written ∧
      ofMembers written = ofMembers members := by
  constructor
  · intro opts
    have reread : ofMembers opts.toMembers = opts := ofMembers_toMembers opts
    refine ⟨opts.toMembers, rfl, ascending_toMembers opts, reread, ?_, ?_⟩
    · rw [reread]
    · rw [reread]
  · exact fun members => ⟨_, rfl, ofMembers_toMembers (ofMembers members)⟩

/-- Each shape of a sort is written as a list of pairs, and a clause stays as it was declared. -/
example :
    (ofMembers [
      ("limit", .number (.int 5)),
      ("orderBy", .array [.string "name", .object [("price", .string "DESC")]]),
      ("where", .array [.array [.string "status", .string "in", .string "a,b"],
        .string "status"])]).toMembers =
    [("order_by",
      .array [.array [.string "name", .string "asc"], .array [.string "price", .string "desc"]]),
      ("where", .array [.array [.string "status", .string "in", .string "a,b"]])] := by
  decide +kernel

end QueryOpts

end Backoffice
