import Backoffice.Proofs.Query.Legible

/-!
Which columns a listing sorts by.

By the rule of PostgreSQL, a name that stands alone in a sort term denotes the selected value of
that name, where there is one, and only else the stored column. A column that is selected as a text
is selected under its own name, so a sort on that name puts digits in order and not numbers.
-/

namespace Backoffice

namespace Lexeme

def IsTextAlias (lexemes : List Lexeme) (name : String) : Prop :=
  [quoted name] ++ bares "::text AS ".toList ++ [quoted name] <:+: lexemes

/-- A name that stands alone in a sort term: after the keyword or a comma,
and before a direction. -/
def IsSortName (lexemes : List Lexeme) (name : String) : Prop :=
  ∃ before between after,
    lexemes = before ++ bares " ORDER BY ".toList ++ between ++ [quoted name] ++ after ∧
      (between = [] ∨ bares ", ".toList <:+ between) ∧
      (bares " ASC".toList <+: after ∨ bares " DESC".toList <+: after)

end Lexeme

/-- A text none of whose sort terms is taken for a column that is selected as a text. -/
def SortsByStored (text : String) : Prop :=
  ∃ lexemes, Lexeme.ofText? text = some lexemes ∧
    ∀ name, Lexeme.IsSortName lexemes name → ¬ Lexeme.IsTextAlias lexemes name

/-! ### Words within lists -/

section Words

variable {Symbol : Type} {symbol : Symbol}

/-- A symbol of a list put together from two stands in one of them. -/
theorem side_of_append_cons_eq_append {before after left right : List Symbol}
    (same : before ++ symbol :: after = left ++ right) :
    (∃ inner, left = before ++ symbol :: inner ∧ after = inner ++ right) ∨
      ∃ inner, before = left ++ inner ∧ right = inner ++ symbol :: after := by
  rcases List.append_eq_append_iff.1 same with ⟨inner, inLeft, rest⟩ | ⟨inner, inBefore, rest⟩
  · cases inner with
    | nil =>
      refine .inr ⟨[], ?_, ?_⟩
      · rw [inLeft, List.append_nil, List.append_nil]
      · exact rest.symm
    | cons first inner =>
      rw [List.cons_append, List.cons.injEq] at rest
      exact .inl ⟨inner, by rw [inLeft, rest.1], rest.2⟩
  · exact .inr ⟨inner, inBefore, rest⟩

theorem infix_or_infix_of_notMem {word left right : List Symbol} (foreign : symbol ∉ word)
    (found : word <:+: left ++ symbol :: right) : word <:+: left ∨ word <:+: right := by
  obtain ⟨before, after, same⟩ := found
  rcases side_of_append_cons_eq_append same.symm with ⟨inner, inBoth, rest⟩ | ⟨inner, inLeft, _⟩
  · rcases side_of_append_cons_eq_append inBoth.symm with ⟨next, _, inRight⟩ | ⟨_, _, inWord⟩
    · refine .inr ⟨next, after, ?_⟩
      rw [rest, inRight]
    · rw [inWord] at foreign
      exact absurd (List.mem_append_right _ List.mem_cons_self) foreign
  · exact .inl ⟨before, inner, inLeft.symm⟩

end Words

theorem SqlStatement.exists_separate_eq (separator : String) {item : SqlStatement} :
    ∀ {items : List SqlStatement}, item ∈ items → ∃ before after,
      separate separator items = before ++ item ++ after ∧
        (before = [] ∨ ∃ earlier, before = earlier ++ [.fixed separator])
  | [only], member => by
    rw [List.mem_singleton.1 member]
    exact ⟨[], [], by simp [separate], .inl rfl⟩
  | first :: second :: rest, member => by
    rcases List.mem_cons.1 member with same | later
    · rw [same, separate_cons_cons]
      exact ⟨[], _, rfl, .inl rfl⟩
    · obtain ⟨before, after, found, begins⟩ := exists_separate_eq separator later
      refine ⟨first ++ .fixed separator :: before, after, ?_, .inr ?_⟩
      · rw [separate_cons_cons, found]
        simp
      · rcases begins with empty | ⟨earlier, same⟩
        · exact ⟨first, by rw [empty]⟩
        · exact ⟨first ++ .fixed separator :: earlier, by rw [same]; simp⟩

theorem SqlStatement.exists_infix_lexemes {word : List Lexeme} (nonempty : word ≠ [])
    (comma : .bare ',' ∉ word) (blank : .bare ' ' ∉ word) :
    ∀ {items : List SqlStatement} {numbered : Nat},
      word <:+: lexemes numbered (separate ", " items) →
      ∃ item ∈ items, ∃ later, word <:+: lexemes later item
  | [], _, found => absurd (List.infix_nil.1 found) nonempty
  | [only], numbered, found => ⟨only, List.mem_singleton_self only, numbered, found⟩
  | first :: second :: rest, numbered, found => by
    rw [separate_cons_cons, lexemes_append] at found
    rcases infix_or_infix_of_notMem comma found with inFirst | later
    · exact ⟨first, List.mem_cons_self, numbered, inFirst⟩
    · have later : word <:+: [] ++ .bare ' ' :: _ := later
      rcases infix_or_infix_of_notMem blank later with none | inRest
      · exact absurd (List.infix_nil.1 none) nonempty
      · obtain ⟨item, member, inItem⟩ := exists_infix_lexemes nonempty comma blank inRest
        exact ⟨item, List.mem_cons_of_mem _ member, inItem⟩

/-! ### What is found in the text of a query -/

namespace SelectQuery

def selected (column : Column) : SqlStatement :=
  if column.asText then
    [.identifier column.name, .fixed "::text AS ", .identifier column.name]
  else [.identifier column.name]

theorem selection_eq {query : SelectQuery} (nonempty : query.columns ≠ []) :
    query.selection = SqlStatement.separate ", " (query.columns.map selected) := by
  rw [selection, if_neg]
  · rfl
  · rwa [List.isEmpty_iff]

theorem unnumbered_x : SqlStatement.Unnumbered 'x' where
  digit := by decide
  marks := by decide
  types type := by cases type <;> decide

theorem unnumbered_Y : SqlStatement.Unnumbered 'Y' where
  digit := by decide
  marks := by decide
  types type := by cases type <;> decide

variable (query : SelectQuery) {name : String}

theorem identifiers_orders_closing :
    SqlStatement.identifiers (query.orders ++ query.closing) = query.order.map (·.field) := by
  rw [SqlStatement.identifiers_append, SqlStatement.identifiers, SqlStatement.identifiers,
    query.filterMap_closing (fun _ => rfl) (fun _ => rfl), List.append_nil, orders,
    SqlStatement.filterMap_clause (fun _ => rfl), List.flatMap_map]
  exact List.flatMap_pure_eq_map _ _

variable {query} in
theorem bare_notMem_lexemes {c : Char} (unnumbered : SqlStatement.Unnumbered c)
    {statement : SqlStatement} {words : List String}
    (parts : ∀ part ∈ statement, query.Part words part) (plain : ∀ word ∈ words, c ∉ word.toList)
    (numbered : Nat) : .bare c ∉ statement.lexemes numbered := by
  intro member
  obtain ⟨text, fixed, letter⟩ := unnumbered.bare_mem_lexemes_iff.1 member
  exact plain text (query.part_fixed_iff.1 (parts _ fixed)) letter

theorem bare_Y_notMem (numbered : Nat) :
    .bare 'Y' ∉ SqlStatement.lexemes numbered (query.selects ++ query.sources ++ query.wheres) := by
  rw [SqlStatement.lexemes_append, SqlStatement.lexemes_append, List.mem_append, List.mem_append,
    not_or, not_or]
  exact ⟨⟨bare_notMem_lexemes unnumbered_Y query.part_of_mem_selects (by decide) _,
    bare_notMem_lexemes unnumbered_Y query.part_of_mem_sources (by decide) _⟩,
    bare_notMem_lexemes unnumbered_Y query.part_of_mem_wheres (by decide) _⟩

theorem bare_x_notMem (numbered : Nat) :
    .bare 'x' ∉ SqlStatement.lexemes numbered
      (query.sources ++ query.wheres ++ query.orders ++ query.closing) := by
  rw [SqlStatement.lexemes_append, SqlStatement.lexemes_append, SqlStatement.lexemes_append,
    List.mem_append, List.mem_append, List.mem_append, not_or, not_or, not_or]
  exact ⟨⟨⟨bare_notMem_lexemes unnumbered_x query.part_of_mem_sources (by decide) _,
    bare_notMem_lexemes unnumbered_x query.part_of_mem_wheres (by decide) _⟩,
    bare_notMem_lexemes unnumbered_x query.part_of_mem_orders (by decide) _⟩,
    bare_notMem_lexemes unnumbered_x query.part_of_mem_closing (by decide) _⟩

theorem exists_lexemes_sorting (term : OrderTerm) : ∃ direction,
    (direction = " ASC" ∨ direction = " DESC") ∧ ∀ numbered,
      (sorting term).lexemes numbered = [.quoted term.field] ++ Lexeme.bares direction.toList := by
  rw [sorting]
  cases term.direction with
  | asc => exact ⟨" ASC", .inl rfl, fun _ => rfl⟩
  | desc => exact ⟨" DESC", .inr rfl, fun _ => rfl⟩

theorem isSortName_of_mem_order {term : OrderTerm} (member : term ∈ query.order) :
    Lexeme.IsSortName (query.build.lexemes 0) term.field := by
  have listed : sorting term ∈ query.order.map sorting := List.mem_map_of_mem member
  have nonempty : ¬ (query.order.map sorting).isEmpty = true := by
    rw [List.isEmpty_iff]
    exact List.ne_nil_of_mem listed
  obtain ⟨before, after, found, begins⟩ := SqlStatement.exists_separate_eq ", " listed
  obtain ⟨early, split⟩ : ∃ early, query.build =
      early ++
        ([.fixed " ORDER BY "] ++ (before ++ (sorting term ++ (after ++ query.closing)))) := by
    refine ⟨query.selects ++ query.sources ++ query.wheres, ?_⟩
    rw [build_eq, orders, clause, if_neg nonempty, found]
    simp only [List.append_assoc, List.cons_append, List.nil_append]
  obtain ⟨direction, named, written⟩ := exists_lexemes_sorting term
  obtain ⟨numbered, last, read⟩ : ∃ numbered last, query.build.lexemes 0 =
      SqlStatement.lexemes 0 early ++ Lexeme.bares " ORDER BY ".toList ++
        before.lexemes numbered ++ [.quoted term.field] ++
          (Lexeme.bares direction.toList ++ last) := by
    rw [split, SqlStatement.lexemes_append, SqlStatement.lexemes_append,
      SqlStatement.lexemes_append, SqlStatement.lexemes_append, written]
    refine ⟨?numbered, ?last, ?same⟩
    case same =>
      simp only [SqlStatement.lexemes, List.append_assoc, List.append_nil]
      rfl
  refine ⟨_, before.lexemes numbered, _, read, ?_, ?_⟩
  · rcases begins with empty | ⟨earlier, same⟩
    · rw [empty]
      exact .inl rfl
    · rw [same, SqlStatement.lexemes_append]
      exact .inr ⟨_, by simp [SqlStatement.lexemes]; rfl⟩
  · rcases named with same | same
    · exact .inl (same ▸ List.prefix_append _ _)
    · exact .inr (same ▸ List.prefix_append _ _)

/-- What the text sorts by are the fields of the sort terms. -/
theorem isSortName_iff :
    Lexeme.IsSortName (query.build.lexemes 0) name ↔ ∃ term ∈ query.order, term.field = name := by
  constructor
  · rintro ⟨before, between, after, same, _, _⟩
    have shape : before ++ Lexeme.bares " ORDER BY ".toList ++ between ++ [.quoted name] ++ after =
        (before ++ Lexeme.bares " ORDER B".toList) ++ Lexeme.bare 'Y' ::
          (Lexeme.bares " ".toList ++ between ++ [.quoted name] ++ after) := by
      simp [Lexeme.bares]
    rw [shape, build_eq, List.append_assoc, SqlStatement.lexemes_append] at same
    -- No word before the sort terms has the letter Y, so the name stands after all of them.
    rcases side_of_append_cons_eq_append same.symm with ⟨inner, inEarly, _⟩ | ⟨inner, _, inLate⟩
    · have letter := query.bare_Y_notMem 0
      rw [inEarly] at letter
      simp at letter
    · have named : name ∈ SqlStatement.identifiers (query.orders ++ query.closing) := by
        rw [← SqlStatement.names_lexemes, Lexeme.mem_names_iff, inLate]
        simp
      rw [identifiers_orders_closing] at named
      exact List.mem_map.1 named
  · rintro ⟨term, member, same⟩
    exact same ▸ query.isSortName_of_mem_order member

/-- A quoted name is followed by a colon only in the selection of a column as a text. -/
theorem exists_column_of_infix_selects
    (found : [.quoted name, .bare ':'] <:+: query.selects.lexemes 0) :
    ∃ column ∈ query.columns, column.asText = true ∧ column.name = name := by
  have blank : Lexeme.bare ' ' ∉ [.quoted name, .bare ':'] := by simp
  have split : query.selects.lexemes 0 =
      Lexeme.bares "SELECT".toList ++ .bare ' ' :: query.selection.lexemes 0 := rfl
  rw [split] at found
  rcases infix_or_infix_of_notMem blank found with inKeyword | inSelection
  · have quoted := inKeyword.subset List.mem_cons_self
    simp [Lexeme.bares] at quoted
  · by_cases nonempty : query.columns = []
    · rw [selection, nonempty] at inSelection
      have quoted := inSelection.subset List.mem_cons_self
      simp [SqlStatement.lexemes, Lexeme.bares] at quoted
    · rw [selection_eq nonempty] at inSelection
      obtain ⟨item, listed, numbered, inItem⟩ :=
        SqlStatement.exists_infix_lexemes (by simp) (by simp) blank inSelection
      obtain ⟨column, member, same⟩ := List.mem_map.1 listed
      rw [← same, selected] at inItem
      by_cases asText : column.asText = true
      · rw [if_pos asText] at inItem
        have quoted := inItem.subset List.mem_cons_self
        simp [SqlStatement.lexemes, Lexeme.bares] at quoted
        exact ⟨column, member, asText, quoted.symm⟩
      · -- Of such a column nothing is selected but its name, which is too short.
        rw [if_neg asText] at inItem
        have short := inItem.length_le
        simp [SqlStatement.lexemes] at short

theorem isTextAlias_of_mem_columns {column : Column} (member : column ∈ query.columns)
    (asText : column.asText = true) :
    Lexeme.IsTextAlias (query.selects.lexemes 0) column.name := by
  have listed : selected column ∈ query.columns.map selected := List.mem_map_of_mem member
  obtain ⟨before, after, found, _⟩ := SqlStatement.exists_separate_eq ", " listed
  have split : query.selects = [.fixed "SELECT "] ++ (before ++ (selected column ++ after)) := by
    rw [selects, selection_eq (List.ne_nil_of_mem member), found, List.append_assoc]
  rw [split, SqlStatement.lexemes_append, SqlStatement.lexemes_append,
    SqlStatement.lexemes_append, selected, if_pos asText]
  exact List.infix_append_of_infix_right
    (List.infix_append_of_infix_right (List.infix_append_of_infix_left List.infix_rfl))

theorem isTextAlias_iff :
    Lexeme.IsTextAlias (query.build.lexemes 0) name ↔
      ∃ column ∈ query.columns, column.asText = true ∧ column.name = name := by
  have split : query.build =
      query.selects ++ (query.sources ++ query.wheres ++ query.orders ++ query.closing) := by
    simp only [build_eq, List.append_assoc]
  rw [split, SqlStatement.lexemes_append]
  constructor
  · rintro ⟨before, after, same⟩
    have shape : before ++ ([.quoted name] ++ Lexeme.bares "::text AS ".toList ++ [.quoted name]) ++
        after = (before ++ [.quoted name] ++ Lexeme.bares "::te".toList) ++ Lexeme.bare 'x' ::
          (Lexeme.bares "t AS ".toList ++ [.quoted name] ++ after) := by
      simp [Lexeme.bares]
    rw [shape] at same
    -- No word after the selection has the letter x, so the cast stands in the selection.
    rcases side_of_append_cons_eq_append same with ⟨inner, inSelects, _⟩ | ⟨inner, _, inRest⟩
    · apply query.exists_column_of_infix_selects
      exact ⟨before, _, by rw [inSelects]; simp [Lexeme.bares]; rfl⟩
    · have letter := query.bare_x_notMem (0 + query.selects.parameters.length)
      rw [inRest] at letter
      simp at letter
  · rintro ⟨column, member, asText, same⟩
    have selected := query.isTextAlias_of_mem_columns member asText
    rw [same] at selected
    exact List.infix_append_of_infix_left selected

variable {query} in
theorem isKnown_of_mem_columns {column : Column} (member : column ∈ query.columns) :
    query.isKnown column.name = true := by
  rw [isKnown, Bool.or_eq_true, column?, List.find?_isSome]
  exact .inr ⟨column, member, decide_eq_true rfl⟩

theorem sortsByStored_sql_iff :
    SortsByStored query.sql ↔ ∀ term ∈ query.order, ∀ column ∈ query.columns,
      column.name = term.field → column.asText = false := by
  have read : Lexeme.ofText? query.sql = some (query.build.lexemes 0) :=
    SqlStatement.ofText?_text query.legible_build
  constructor
  · rintro ⟨lexemes, same, sorts⟩ term isTerm column isColumn named
    rw [read, Option.some.injEq] at same
    subst same
    have sorted := query.isSortName_iff.2 ⟨term, isTerm, rfl⟩
    by_contra asText
    rw [Bool.not_eq_false] at asText
    exact sorts _ sorted (query.isTextAlias_iff.2 ⟨column, isColumn, asText, named⟩)
  · intro apart
    refine ⟨_, read, ?_⟩
    intro name sorted selected
    obtain ⟨term, isTerm, sameField⟩ := query.isSortName_iff.1 sorted
    obtain ⟨column, isColumn, asText, named⟩ := query.isTextAlias_iff.1 selected
    have plain := apart term isTerm column isColumn (named.trans sameField.symm)
    rw [asText] at plain
    cases plain

end SelectQuery

/-! ### Sorting the listing of a resource -/

def Resource.StoresDecimal (resource : Resource) (name : String) : Prop :=
  ∃ field ∈ resource.orderedFields,
    field.key = name ∧ field.omitted = false ∧ field.type = .decimal

theorem Resource.storesDecimal_iff (resource : Resource) (table name : String) :
    resource.StoresDecimal name ↔ ∃ column ∈ (SelectQuery.ofResource resource table).columns,
      column.name = name ∧ column.asText = true := by
  constructor
  · rintro ⟨field, shown, named, kept, decimal⟩
    refine ⟨field.toColumn, List.mem_map_of_mem (List.mem_filter.2 ⟨shown, ?_⟩), named, ?_⟩
    · simp [kept, Field.isColumn, decimal]
    · simp [Field.toColumn, decimal]
  · rintro ⟨column, member, named, asText⟩
    obtain ⟨field, stored, same⟩ := List.mem_map.1 member
    obtain ⟨shown, accepted⟩ := List.mem_filter.1 stored
    rw [Bool.and_eq_true, Bool.not_eq_true'] at accepted
    subst same
    exact ⟨field, shown, named, accepted.1, of_decide_eq_true asText⟩

namespace QueryStep

def terms : QueryStep → List OrderTerm
  | translate opts | translateFor _ opts => opts.orderBy.toList.flatMap OrderBy.toTerms
  | limit _ | offset _ => []

theorem exists_foldl_filter_eq (query : SelectQuery) (filters : List Filter) :
    ∃ taken, filters.foldl QueryTarget.filter query = { query with filters := taken } := by
  induction filters generalizing query with
  | nil => exact ⟨query.filters, rfl⟩
  | cons filter rest inductionHypothesis =>
    obtain ⟨taken, same⟩ := inductionHypothesis (QueryTarget.filter query filter)
    refine ⟨taken, ?_⟩
    rw [List.foldl_cons, same]
    simp only [QueryTarget.filter]
    split
    · rfl
    · rfl

theorem extend_columns_order (query : SelectQuery) (filters : List Filter)
    (order : Option OrderBy) :
    (QueryOpts.extend query filters order).columns = query.columns ∧
      (QueryOpts.extend query filters order).order = query.order ++
        (order.toList.flatMap OrderBy.toTerms).filter fun term => query.isKnown term.field := by
  obtain ⟨taken, same⟩ := exists_foldl_filter_eq query filters
  cases order with
  | none =>
    rw [QueryOpts.extend, same]
    exact ⟨rfl, (List.append_nil _).symm⟩
  | some order =>
    rw [QueryOpts.extend, same]
    exact ⟨rfl, by simp [QueryTarget.sort, SelectQuery.isKnown, SelectQuery.column?]⟩

theorem run_columns_order (query : SelectQuery) (step : QueryStep) :
    (step.run query).columns = query.columns ∧
      (step.run query).order = query.order ++
        step.terms.filter fun term => query.isKnown term.field := by
  cases step with
  | translate opts => exact extend_columns_order query _ _
  | translateFor resource opts => exact extend_columns_order query _ _
  | limit count => exact ⟨rfl, (List.append_nil _).symm⟩
  | offset count => exact ⟨rfl, (List.append_nil _).symm⟩

theorem foldl_run_columns_order (query : SelectQuery) (steps : List QueryStep) :
    (steps.foldl run query).columns = query.columns ∧
      (steps.foldl run query).order = query.order ++
        (steps.flatMap terms).filter fun term => query.isKnown term.field := by
  induction steps generalizing query with
  | nil => exact ⟨rfl, (List.append_nil _).symm⟩
  | cons step rest inductionHypothesis =>
    obtain ⟨columns, order⟩ := run_columns_order query step
    obtain ⟨restColumns, restOrder⟩ := inductionHypothesis (step.run query)
    have known (name : String) : (step.run query).isKnown name = query.isKnown name := by
      rw [SelectQuery.isKnown, SelectQuery.isKnown, SelectQuery.column?, SelectQuery.column?,
        columns]
    refine ⟨restColumns.trans columns, ?_⟩
    rw [List.foldl_cons, restOrder, order, List.flatMap_cons, List.filter_append,
      List.append_assoc]
    simp only [known]

/-- However the listing of a resource is narrowed, all its sort terms denote stored columns exactly
if none of them names a decimal number. -/
theorem statement_sortsByStored_iff (resource : Resource) (table : String)
    (steps : List QueryStep) :
    SortsByStored (statement resource table steps).text ↔
      ∀ step ∈ steps, ∀ term ∈ step.terms, ¬ resource.StoresDecimal term.field := by
  obtain ⟨columns, order⟩ := foldl_run_columns_order (SelectQuery.ofResource resource table) steps
  have read := SelectQuery.sortsByStored_sql_iff
    (steps.foldl run (SelectQuery.ofResource resource table))
  rw [columns, order] at read
  constructor
  · intro sorts step isStep term isTerm decimal
    obtain ⟨column, member, named, asText⟩ :=
      (resource.storesDecimal_iff table term.field).1 decimal
    have known := SelectQuery.isKnown_of_mem_columns member
    rw [named] at known
    have asked : term ∈ steps.flatMap terms := List.mem_flatMap.2 ⟨step, isStep, isTerm⟩
    have plain := read.1 sorts term
      (List.mem_append_right _ (List.mem_filter.2 ⟨asked, known⟩)) column member named
    rw [asText] at plain
    cases plain
  · intro apart
    refine read.2 ?_
    intro term sorted column member named
    obtain ⟨asked, _⟩ := List.mem_filter.1 (List.mem_append.1 sorted |>.resolve_left nofun)
    obtain ⟨step, isStep, isTerm⟩ := List.mem_flatMap.1 asked
    by_contra asText
    rw [Bool.not_eq_false] at asText
    exact apart step isStep term isTerm
      ((resource.storesDecimal_iff table term.field).2 ⟨column, member, named, asText⟩)

def tariff : Resource :=
  .discover "product"
    (.simple { schemas := [
      { name := ⟨"Shop.Product"⟩, fields := [{ name := "price", nativeType := "decimal" }] }] })
    ⟨"Shop.Product"⟩ none none {} none

def byPrice : List QueryStep :=
  [.translateFor tariff { orderBy := some (.terms [{ field := "price", direction := .desc }]) }]

/-- Sorted by its price, the listing puts the digits of prices in order. -/
theorem tariff_statement_sorts_by_text :
    (statement tariff "products" byPrice).text =
        "SELECT \"price\"::text AS \"price\" FROM \"products\" ORDER BY \"price\" DESC" ∧
      ¬ SortsByStored (statement tariff "products" byPrice).text := by
  refine ⟨by decide +kernel, ?_⟩
  intro sorts
  have plain := (SelectQuery.sortsByStored_sql_iff _).1 sorts
    { field := "price", direction := .desc } (by decide +kernel)
    { name := "price", cast := some .numeric, asText := true } (by decide +kernel) rfl
  cases plain

end QueryStep

end Backoffice
