import Backoffice.Query.Select

/-!
Which names the statement of a listing reads.

However the selection of a resource is filtered, sorted and cut, its statement reads nothing but
stored fields that are not omitted, as long as there is one. A resource without any has a selection
without columns, and that one stands for a table whose columns are not known: it selects all of
them, and takes filters and sorts on any name.
-/

namespace Backoffice

namespace Resource

/-- A name that the listing of the resource may read: the key of a stored
field that is not omitted. -/
def Stores (resource : Resource) (name : String) : Prop :=
  ∃ field ∈ resource.orderedFields,
    field.key = name ∧ field.omitted = false ∧ field.isColumn = true

end Resource

/-- A step by which a listing is narrowed. -/
inductive QueryStep where
  | translate (opts : QueryOpts)
  | translateFor (resource : Resource) (opts : QueryOpts)
  | limit (count : Nat)
  | offset (count : Nat)

namespace QueryStep

def run (query : SelectQuery) : QueryStep → SelectQuery
  | translate opts => opts.applyTo query
  | translateFor resource opts => opts.applyFor resource query
  | limit count => { query with limit := some count }
  | offset count => { query with offset := some count }

def statement (resource : Resource) (table : String) (steps : List QueryStep) : SqlStatement :=
  (steps.foldl run (SelectQuery.ofResource resource table)).build

end QueryStep

namespace SqlStatement

def identifiers (statement : SqlStatement) : List String :=
  statement.filterMap fun
    | .identifier name => some name
    | _ => none

/-- A statement that names one table, and beside it only what the listing of a resource may read; it
does not select all columns either. -/
structure ReadsOnlyStored (statement : SqlStatement) (resource : Resource) (table : String) :
    Prop where
  stored : ∃ before after, statement.identifiers = before ++ table :: after ∧
    ∀ name ∈ before ++ after, resource.Stores name
  explicit : .fixed "*" ∉ statement

theorem mem_identifiers_iff {statement : SqlStatement} {name : String} :
    name ∈ statement.identifiers ↔ .identifier name ∈ statement := by
  simp only [identifiers, List.mem_filterMap]
  constructor
  · rintro ⟨part, member, named⟩
    cases part with
    | identifier other =>
      cases named
      exact member
    | _ => cases named
  · exact fun member => ⟨_, member, rfl⟩

theorem identifiers_append (first second : SqlStatement) :
    identifiers (first ++ second) = first.identifiers ++ second.identifiers :=
  List.filterMap_append

theorem separate_cons_cons (separator : String) (first second : SqlStatement)
    (rest : List SqlStatement) :
    separate separator (first :: second :: rest) =
      first ++ .fixed separator :: separate separator (second :: rest) := rfl

end SqlStatement

/-! ### Parts that may stand beside the table -/

/-- A part of a statement that reads nothing but stored fields of a resource. -/
def SqlPart.Permitted (resource : Resource) : SqlPart → Prop
  | .identifier name => resource.Stores name
  | .fixed text => text ≠ "*"
  | .number _ | .parameter _ _ => True

namespace SqlPart

variable {resource : Resource}

@[simp]
theorem permitted_identifier {name : String} :
    (identifier name).Permitted resource ↔ resource.Stores name := Iff.rfl

@[simp]
theorem permitted_fixed {text : String} : (fixed text).Permitted resource ↔ text ≠ "*" := Iff.rfl

@[simp]
theorem permitted_number {value : Nat} : (number value).Permitted resource := trivial

@[simp]
theorem permitted_parameter {value : Json} {cast : Option SqlType} :
    (parameter value cast).Permitted resource := trivial

end SqlPart

def SqlStatement.Permitted (resource : Resource) (statement : SqlStatement) : Prop :=
  ∀ part ∈ statement, part.Permitted resource

namespace SqlStatement

variable {resource : Resource}

@[simp]
theorem permitted_append {first second : SqlStatement} :
    Permitted resource (first ++ second) ↔
      Permitted resource first ∧ Permitted resource second :=
  List.forall_mem_append

@[simp]
theorem permitted_cons {part : SqlPart} {rest : SqlStatement} :
    Permitted resource (part :: rest) ↔ part.Permitted resource ∧ Permitted resource rest :=
  List.forall_mem_cons

@[simp]
theorem permitted_nil : Permitted resource [] := nofun

theorem permitted_separate {separator : String} (plain : separator ≠ "*") :
    ∀ {statements : List SqlStatement}, (∀ statement ∈ statements, Permitted resource statement) →
      Permitted resource (separate separator statements)
  | [], _ => permitted_nil
  | [statement], permitted => permitted statement List.mem_cons_self
  | statement :: second :: rest, permitted => by
    rw [List.forall_mem_cons] at permitted
    rw [separate_cons_cons, permitted_append, permitted_cons]
    exact ⟨permitted.1, plain, permitted_separate plain permitted.2⟩

theorem permitted_clause {keyword separator : String} (plainKeyword : keyword ≠ "*")
    (plainSeparator : separator ≠ "*") {items : List SqlStatement}
    (permitted : ∀ item ∈ items, Permitted resource item) :
    Permitted resource (SelectQuery.clause keyword separator items) := by
  unfold SelectQuery.clause
  split
  · exact permitted_nil
  · exact permitted_cons.2 ⟨plainKeyword, permitted_separate plainSeparator permitted⟩

/-- Permitted parts around a table read nothing but stored fields. -/
theorem readsOnlyStored_of_permitted (table : String) {before after : SqlStatement}
    (permittedBefore : Permitted resource before) (permittedAfter : Permitted resource after) :
    ReadsOnlyStored (before ++ .identifier table :: after) resource table where
  stored := by
    refine ⟨before.identifiers, after.identifiers, identifiers_append before _, ?_⟩
    intro name member
    rcases List.mem_append.1 member with inBefore | inAfter
    · exact permittedBefore _ (mem_identifiers_iff.1 inBefore)
    · exact permittedAfter _ (mem_identifiers_iff.1 inAfter)
  explicit := by
    intro member
    rcases List.mem_append.1 member with inBefore | inRest
    · exact permittedBefore _ inBefore rfl
    · rcases List.mem_cons.1 inRest with same | inAfter
      · cases same
      · exact permittedAfter _ inAfter rfl

end SqlStatement

/-! ### What every step keeps -/

namespace SelectQuery

/-- A listing of a table whose columns are given, and whose filters and sorts are on
columns that may be used. -/
structure Confined (columns : List Column) (table : String) (query : SelectQuery) : Prop where
  schema : query.schema = none
  table : query.table = table
  columns : query.columns = columns
  filters : ∀ filter ∈ query.filters, query.isKnown filter.field = true
  order : ∀ term ∈ query.order, query.isKnown term.field = true

variable {columns : List Column} {table : String} {query : SelectQuery}

theorem confined_filter (confined : Confined columns table query) (filter : Filter) :
    Confined columns table (QueryTarget.filter query filter) := by
  simp only [QueryTarget.filter]
  split
  · next known =>
    refine { confined with filters := ?_ }
    intro other member
    rcases List.mem_append.1 member with before | last
    · exact confined.filters other before
    · rw [List.mem_singleton.1 last]
      exact known
  · exact confined

theorem confined_sort (confined : Confined columns table query) (order : OrderBy) :
    Confined columns table (QueryTarget.sort query order) := by
  refine { confined with order := ?_ }
  intro term member
  rcases List.mem_append.1 member with before | added
  · exact confined.order term before
  · exact (List.mem_filter.1 added).2

theorem confined_extend (confined : Confined columns table query) (filters : List Filter)
    (order : Option OrderBy) : Confined columns table (QueryOpts.extend query filters order) := by
  have filtered : Confined columns table (filters.foldl QueryTarget.filter query) := by
    induction filters generalizing query with
    | nil => exact confined
    | cons filter rest inductionHypothesis =>
      exact inductionHypothesis (confined_filter confined filter)
  cases order with
  | none => exact filtered
  | some order => exact confined_sort filtered order

theorem confined_run (confined : Confined columns table query) (step : QueryStep) :
    Confined columns table (step.run query) := by
  cases step with
  | translate opts => exact confined_extend confined _ _
  | translateFor resource opts => exact confined_extend confined _ _
  | limit count => exact { confined with }
  | offset count => exact { confined with }

theorem confined_foldl_run (confined : Confined columns table query) (steps : List QueryStep) :
    Confined columns table (steps.foldl QueryStep.run query) := by
  induction steps generalizing query with
  | nil => exact confined
  | cons step rest inductionHypothesis =>
    exact inductionHypothesis (confined_run confined step)

theorem confined_ofResource (resource : Resource) (table : String) :
    Confined (ofResource resource table).columns table (ofResource resource table) where
  schema := rfl
  table := rfl
  columns := rfl
  filters := nofun
  order := nofun

/-! ### The statement of a confined listing -/

theorem stores_of_mem_columns {resource : Resource} {column : Column}
    (member : column ∈ (ofResource resource table).columns) : resource.Stores column.name := by
  obtain ⟨field, stored, same⟩ := List.mem_map.1 member
  obtain ⟨shown, accepted⟩ := List.mem_filter.1 stored
  rw [Bool.and_eq_true, Bool.not_eq_true'] at accepted
  exact ⟨field, shown, same ▸ rfl, accepted.1, accepted.2⟩

theorem stores_iff_columns_ne_nil (resource : Resource) (table : String) :
    (∃ name, resource.Stores name) ↔ (ofResource resource table).columns ≠ [] := by
  constructor
  · rintro ⟨name, field, shown, _, kept, stored⟩ empty
    have member : field.toColumn ∈ (ofResource resource table).columns :=
      List.mem_map_of_mem (List.mem_filter.2 ⟨shown, by simp [kept, stored]⟩)
    rw [empty] at member
    cases member
  · intro nonempty
    obtain ⟨column, member⟩ := List.exists_mem_of_ne_nil _ nonempty
    exact ⟨column.name, stores_of_mem_columns member⟩

theorem exists_column_of_isKnown {name : String} (nonempty : query.columns ≠ [])
    (known : query.isKnown name = true) : ∃ column ∈ query.columns, column.name = name := by
  rw [isKnown, Bool.or_eq_true, List.isEmpty_iff, or_iff_right nonempty, column?,
    List.find?_isSome] at known
  obtain ⟨column, member, same⟩ := known
  exact ⟨column, member, of_decide_eq_true same⟩

section Permitted

variable {resource : Resource}

theorem permitted_selection (nonempty : query.columns ≠ [])
    (stored : ∀ column ∈ query.columns, resource.Stores column.name) :
    SqlStatement.Permitted resource query.selection := by
  rw [selection, if_neg (by rwa [List.isEmpty_iff])]
  apply SqlStatement.permitted_separate (by decide)
  intro statement member
  obtain ⟨column, isColumn, same⟩ := List.mem_map.1 member
  have reads : resource.Stores column.name := stored column isColumn
  subst same
  split
  · simp [reads]
  · simp [reads]

theorem permitted_comparison (query : SelectQuery) {filter : Filter}
    (reads : resource.Stores filter.field) :
    SqlStatement.Permitted resource (query.comparison filter) := by
  rw [comparison]
  split
  · simp [reads, parameter]
  · simp [reads, parameter]
  · simp [reads, parameter]
  · simp
  · next values _ _ =>
    have listed : SqlStatement.Permitted resource (SqlStatement.separate ", "
        (values.map fun value => [query.parameter filter.field value])) := by
      apply SqlStatement.permitted_separate (by decide)
      intro statement member
      obtain ⟨value, _, same⟩ := List.mem_map.1 member
      subst same
      simp [parameter]
    simp [reads, listed]

theorem permitted_sorting {term : OrderTerm} (reads : resource.Stores term.field) :
    SqlStatement.Permitted resource (sorting term) := by
  rw [sorting]
  cases term.direction with
  | asc => simp [reads]
  | desc => simp [reads]

theorem permitted_limit (limit : Option Nat) :
    SqlStatement.Permitted resource
      (limit.toList.flatMap fun limit => [.fixed " LIMIT ", .number (min limit maxLimit)]) := by
  cases limit with
  | none => simp
  | some limit => simp

theorem permitted_offset (offset : Option Nat) :
    SqlStatement.Permitted resource
      (offset.toList.flatMap fun offset => [.fixed " OFFSET ", .number offset]) := by
  cases offset with
  | none => simp
  | some offset => simp

end Permitted

theorem readsOnlyStored_build {resource : Resource}
    (confined : Confined (ofResource resource table).columns table query)
    (nonempty : (ofResource resource table).columns ≠ []) :
    query.build.ReadsOnlyStored resource table := by
  have stored (column : Column) (member : column ∈ query.columns) :
      resource.Stores column.name := by
    rw [confined.columns] at member
    exact stores_of_mem_columns member
  have some : query.columns ≠ [] := confined.columns ▸ nonempty
  have reads (name : String) (known : query.isKnown name = true) : resource.Stores name := by
    obtain ⟨column, member, same⟩ := exists_column_of_isKnown some known
    exact same ▸ stored column member
  have source : query.source = [.identifier table] := by
    rw [SelectQuery.source, confined.schema, confined.table]
  have wheres : SqlStatement.Permitted resource
      (clause " WHERE " " AND " (query.filters.map query.comparison)) := by
    apply SqlStatement.permitted_clause (by decide) (by decide)
    intro statement member
    obtain ⟨filter, isFilter, same⟩ := List.mem_map.1 member
    exact same ▸ permitted_comparison query (reads _ (confined.filters filter isFilter))
  have orders : SqlStatement.Permitted resource
      (clause " ORDER BY " ", " (query.order.map sorting)) := by
    apply SqlStatement.permitted_clause (by decide) (by decide)
    intro statement member
    obtain ⟨term, isTerm, same⟩ := List.mem_map.1 member
    exact same ▸ permitted_sorting (reads _ (confined.order term isTerm))
  have before : SqlStatement.Permitted resource
      ([.fixed "SELECT "] ++ query.selection ++ [.fixed " FROM "]) := by
    simp [permitted_selection some stored]
  have after : SqlStatement.Permitted resource
      (clause " WHERE " " AND " (query.filters.map query.comparison) ++
        clause " ORDER BY " ", " (query.order.map sorting) ++
        (query.limit.toList.flatMap fun limit =>
          [.fixed " LIMIT ", .number (min limit maxLimit)]) ++
        query.offset.toList.flatMap fun offset => [.fixed " OFFSET ", .number offset]) := by
    simp only [SqlStatement.permitted_append]
    exact ⟨⟨⟨wheres, orders⟩, permitted_limit _⟩, permitted_offset _⟩
  have split := SqlStatement.readsOnlyStored_of_permitted table before after
  rw [build, source]
  simpa only [List.append_assoc, List.cons_append, List.nil_append] using split

/-- Without columns the statement of a listing selects all of them. -/
theorem star_mem_build (empty : query.columns = []) : .fixed "*" ∈ query.build := by
  have selected : query.selection = [.fixed "*"] := by
    rw [selection, empty]
    rfl
  rw [build, selected]
  simp

end SelectQuery

namespace QueryStep

/-- However the listing of a resource is narrowed, its statement reads nothing but stored fields
that are not omitted, exactly if the resource has any. -/
theorem statement_readsOnlyStored_iff (resource : Resource) (table : String)
    (steps : List QueryStep) :
    (statement resource table steps).ReadsOnlyStored resource table ↔
      ∃ name, resource.Stores name := by
  have confined := SelectQuery.confined_foldl_run
    (SelectQuery.confined_ofResource resource table) steps
  rw [SelectQuery.stores_iff_columns_ne_nil resource table]
  constructor
  · intro readsOnly empty
    exact readsOnly.explicit (SelectQuery.star_mem_build (confined.columns.trans empty))
  · exact SelectQuery.readsOnlyStored_build confined

def vault : Resource :=
  .discover "secret"
    (.simple { schemas := [
      { name := ⟨"Vault.Secret"⟩, fields := [{ name := "code", nativeType := "string" }] }] })
    ⟨"Vault.Secret"⟩ none
    (some { ResourceDeclaration.simple "secret" "Vault.Secret" none with
      fields := [{ name := "code", omitted := some true }] }) {} none

/-- Sorted by the omitted field, its listing selects all columns and reads the field. -/
theorem vault_statement_reads_omitted :
    (statement vault "secrets" [.translate { orderBy := some (.field "code") }]).text =
        "SELECT * FROM \"secrets\" ORDER BY \"code\" ASC" ∧
      ¬ (statement vault "secrets" [.translate { orderBy := some (.field "code") }]).ReadsOnlyStored
        vault "secrets" := by
  refine ⟨by decide +kernel, fun readsOnly => readsOnly.explicit ?_⟩
  decide +kernel

end QueryStep

end Backoffice
