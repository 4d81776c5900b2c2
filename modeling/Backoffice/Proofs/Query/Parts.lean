import Backoffice.Proofs.Query.StoredColumns

/-!
The parts of the statement of a listing: which there are, and what can be found among them.
-/

namespace Backoffice

namespace SelectQuery

def selects (query : SelectQuery) : SqlStatement := [.fixed "SELECT "] ++ query.selection

def sources (query : SelectQuery) : SqlStatement := [.fixed " FROM "] ++ query.source

def wheres (query : SelectQuery) : SqlStatement :=
  clause " WHERE " " AND " (query.filters.map query.comparison)

def orders (query : SelectQuery) : SqlStatement :=
  clause " ORDER BY " ", " (query.order.map sorting)

def closing (query : SelectQuery) : SqlStatement :=
  (query.limit.toList.flatMap fun limit => [.fixed " LIMIT ", .number (min limit maxLimit)]) ++
    query.offset.toList.flatMap fun offset => [.fixed " OFFSET ", .number offset]

theorem build_eq (query : SelectQuery) :
    query.build =
      query.selects ++ query.sources ++ query.wheres ++ query.orders ++ query.closing := by
  simp only [build, selects, sources, wheres, orders, closing, List.append_assoc]

end SelectQuery

namespace SqlStatement

variable {Found : Type} {select : SqlPart → Option Found}

theorem filterMap_separate (silent : ∀ text, select (.fixed text) = none) (separator : String) :
    ∀ statements : List SqlStatement, (separate separator statements).filterMap select =
      statements.flatMap (List.filterMap select)
  | [] => rfl
  | [statement] => by simp [separate]
  | statement :: second :: rest => by
    rw [separate_cons_cons, List.filterMap_append, List.filterMap_cons_none (silent separator),
      filterMap_separate silent separator (second :: rest), ← List.flatMap_cons]

theorem filterMap_clause (silent : ∀ text, select (.fixed text) = none) (keyword separator : String)
    (items : List SqlStatement) : (SelectQuery.clause keyword separator items).filterMap select =
      items.flatMap (List.filterMap select) := by
  unfold SelectQuery.clause
  split
  · next empty =>
    rw [List.isEmpty_iff.1 empty]
    rfl
  · rw [List.filterMap_cons_none (silent keyword), filterMap_separate silent]

theorem forall_mem_separate {Allowed : SqlPart → Prop} {separator : String}
    (allowed : Allowed (.fixed separator)) : ∀ {statements : List SqlStatement},
      (∀ statement ∈ statements, ∀ part ∈ statement, Allowed part) →
        ∀ part ∈ separate separator statements, Allowed part
  | [], _ => List.forall_mem_nil _
  | [statement], inside => inside statement List.mem_cons_self
  | statement :: second :: rest, inside => by
    rw [List.forall_mem_cons] at inside
    rw [separate_cons_cons, List.forall_mem_append, List.forall_mem_cons]
    exact ⟨inside.1, allowed, forall_mem_separate allowed inside.2⟩

theorem forall_mem_clause {Allowed : SqlPart → Prop} {keyword separator : String}
    (opening : Allowed (.fixed keyword)) (between : Allowed (.fixed separator))
    {items : List SqlStatement} (inside : ∀ item ∈ items, ∀ part ∈ item, Allowed part) :
    ∀ part ∈ SelectQuery.clause keyword separator items, Allowed part := by
  unfold SelectQuery.clause
  split
  · nofun
  · rw [List.forall_mem_cons]
    exact ⟨opening, forall_mem_separate between inside⟩

end SqlStatement

namespace SelectQuery

-- The fixed texts clause by clause. A clause has its own list, for what tells it from the others.

def selectWords : List String := ["SELECT ", "*", ", ", "::text AS "]

def sourceWords : List String := [" FROM ", "."]

def whereWords : List String :=
  [" WHERE ", " AND ", " = ", " >= ", " <= ", " IN (", ", ", ")", "1 = 0"]

def sortWords : List String := [", ", " ASC", " DESC"]

def closingWords : List String := [" LIMIT ", " OFFSET "]

def keywords : List String :=
  selectWords ++ sourceWords ++ whereWords ++ " ORDER BY " :: sortWords ++ closingWords

/-- The parts that the statement of a query can have, whose fixed texts are some words. -/
inductive Part (query : SelectQuery) (words : List String) : SqlPart → Prop where
  | fixed {text : String} : text ∈ words → query.Part words (.fixed text)
  | identifier (name : String) : query.Part words (.identifier name)
  | parameter (value : Json) (cast : Option SqlType) : query.Part words (.parameter value cast)
  | limit {count : Nat} : query.limit = some count →
      query.Part words (.number (min count maxLimit))
  | offset {count : Nat} : query.offset = some count → query.Part words (.number count)

variable (query : SelectQuery) {words : List String}

@[simp]
theorem part_fixed_iff {text : String} : query.Part words (.fixed text) ↔ text ∈ words := by
  constructor
  · intro part
    cases part with
    | fixed word => exact word
  · exact .fixed

@[simp]
theorem part_identifier (name : String) : query.Part words (.identifier name) := .identifier name

@[simp]
theorem part_parameter (value : Json) (cast : Option SqlType) :
    query.Part words (.parameter value cast) :=
  .parameter value cast

variable {query} in
theorem Part.mono {part : SqlPart} (allowed : query.Part words part) {more : List String}
    (subset : words ⊆ more) : query.Part more part := by
  cases allowed with
  | fixed word => exact .fixed (subset word)
  | identifier name => exact .identifier name
  | parameter value cast => exact .parameter value cast
  | limit given => exact .limit given
  | offset given => exact .offset given

theorem part_of_mem_selects : ∀ part ∈ query.selects, query.Part selectWords part := by
  have selected : ∀ part ∈ query.selection, query.Part selectWords part := by
    unfold selection
    split
    · simp [selectWords]
    · refine SqlStatement.forall_mem_separate (.fixed (by decide)) ?_
      intro statement member
      obtain ⟨column, _, same⟩ := List.mem_map.1 member
      subst same
      split
      · simp [selectWords]
      · simp
  exact List.forall_mem_cons.2 ⟨.fixed (by decide), selected⟩

theorem part_of_mem_sources : ∀ part ∈ query.sources, query.Part sourceWords part := by
  unfold sources source
  split
  · simp [sourceWords]
  · simp [sourceWords]

theorem part_of_mem_comparison (filter : Filter) :
    ∀ part ∈ query.comparison filter, query.Part whereWords part := by
  rw [comparison]
  split
  · simp [parameter, whereWords]
  · simp [parameter, whereWords]
  · simp [parameter, whereWords]
  · simp [whereWords]
  · next values _ _ =>
    have listed : ∀ part ∈ SqlStatement.separate ", "
        (values.map fun value => [query.parameter filter.field value]),
          query.Part whereWords part := by
      refine SqlStatement.forall_mem_separate (.fixed (by decide)) ?_
      intro statement member
      obtain ⟨value, _, same⟩ := List.mem_map.1 member
      subst same
      simp [parameter]
    simp only [List.forall_mem_append, List.forall_mem_cons]
    exact ⟨⟨⟨.identifier _, .fixed (by decide), List.forall_mem_nil _⟩, listed⟩, .fixed (by decide),
      List.forall_mem_nil _⟩

theorem part_of_mem_wheres : ∀ part ∈ query.wheres, query.Part whereWords part := by
  refine SqlStatement.forall_mem_clause (.fixed (by decide)) (.fixed (by decide)) ?_
  intro statement member
  obtain ⟨filter, _, same⟩ := List.mem_map.1 member
  exact same ▸ query.part_of_mem_comparison filter

theorem part_of_mem_sorting (term : OrderTerm) :
    ∀ part ∈ sorting term, query.Part sortWords part := by
  rw [sorting]
  cases term.direction with
  | asc => simp [sortWords]
  | desc => simp [sortWords]

theorem part_of_mem_orders :
    ∀ part ∈ query.orders, query.Part (" ORDER BY " :: sortWords) part := by
  refine SqlStatement.forall_mem_clause (.fixed (by decide)) (.fixed (by decide)) ?_
  intro statement member
  obtain ⟨term, _, same⟩ := List.mem_map.1 member
  intro part inside
  exact (query.part_of_mem_sorting term part (same ▸ inside)).mono (List.subset_cons_self _ _)

theorem part_of_mem_closing : ∀ part ∈ query.closing, query.Part closingWords part := by
  have limits : ∀ part ∈ query.limit.toList.flatMap fun limit =>
      [.fixed " LIMIT ", .number (min limit maxLimit)], query.Part closingWords part := by
    cases given : query.limit with
    | none => nofun
    | some count =>
      simp only [Option.toList_some, List.flatMap_singleton, List.forall_mem_cons]
      exact ⟨.fixed (by decide), .limit given, nofun⟩
  have offsets : ∀ part ∈ query.offset.toList.flatMap fun offset =>
      [.fixed " OFFSET ", .number offset], query.Part closingWords part := by
    cases given : query.offset with
    | none => nofun
    | some count =>
      simp only [Option.toList_some, List.flatMap_singleton, List.forall_mem_cons]
      exact ⟨.fixed (by decide), .offset given, nofun⟩
  exact List.forall_mem_append.2 ⟨limits, offsets⟩

/-- Nothing else stands in the statement of a query. -/
theorem part_of_mem_build : ∀ part ∈ query.build, query.Part keywords part := by
  have selects : ∀ part ∈ query.selects, query.Part keywords part :=
    fun part member => (query.part_of_mem_selects part member).mono (by decide)
  have sources : ∀ part ∈ query.sources, query.Part keywords part :=
    fun part member => (query.part_of_mem_sources part member).mono (by decide)
  have wheres : ∀ part ∈ query.wheres, query.Part keywords part :=
    fun part member => (query.part_of_mem_wheres part member).mono (by decide)
  have orders : ∀ part ∈ query.orders, query.Part keywords part :=
    fun part member => (query.part_of_mem_orders part member).mono (by decide)
  have closing : ∀ part ∈ query.closing, query.Part keywords part :=
    fun part member => (query.part_of_mem_closing part member).mono (by decide)
  simp only [build_eq, List.forall_mem_append]
  exact ⟨⟨⟨⟨selects, sources⟩, wheres⟩, orders⟩, closing⟩

section Found

variable {Found : Type} {select : SqlPart → Option Found}

theorem filterMap_closing (silentFixed : ∀ text, select (.fixed text) = none)
    (silentNumber : ∀ value, select (.number value) = none) :
    query.closing.filterMap select = [] := by
  unfold closing
  cases query.limit with
  | none => cases query.offset <;> simp [silentFixed, silentNumber]
  | some limit => cases query.offset <;> simp [silentFixed, silentNumber]

/-- What is found neither in fixed texts nor in numbers is found clause by clause. -/
theorem filterMap_build (silentFixed : ∀ text, select (.fixed text) = none)
    (silentNumber : ∀ value, select (.number value) = none) :
    query.build.filterMap select =
      query.selection.filterMap select ++ query.source.filterMap select ++
        query.filters.flatMap (fun filter => (query.comparison filter).filterMap select) ++
        query.order.flatMap fun term => (sorting term).filterMap select := by
  simp only [build_eq, List.filterMap_append, query.filterMap_closing silentFixed silentNumber,
    List.append_nil]
  simp only [selects, sources, wheres, orders, List.filterMap_append,
    List.filterMap_cons_none (silentFixed _), List.filterMap_nil,
    SqlStatement.filterMap_clause silentFixed, List.flatMap_map, List.nil_append]

end Found

end SelectQuery

end Backoffice
