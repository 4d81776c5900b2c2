import Backoffice.Proofs.Query.Vocabulary

/-!
The placeholders in the text of a listing.

Read from left to right outside of quoted names, they are numbered from one without a
gap, and each of them stands for the value at its place among the parameters: the values
of the filters, in their order.
-/

namespace Backoffice

/-- A placeholder as it is written: the digits of its number, and the name of the
type that it is cast to. -/
structure Placeholder where
  digits : List Char
  cast : Option (List Char)
  deriving DecidableEq, Repr

namespace Placeholder

/-- The name of a type at the start of some characters: words in small
letters, blanks between them. -/
def typeName : List Char → List Char
  | ' ' :: c :: rest => if c.isLower then ' ' :: c :: typeName rest else []
  | c :: rest => if c.isLower then c :: typeName rest else []
  | [] => []

def castOf : List Char → Option (List Char)
  | ':' :: ':' :: rest => some (typeName rest)
  | _ => none

def ofChars (chars : List Char) : Placeholder :=
  { digits := chars.takeWhile Char.isDigit
    cast := castOf (chars.dropWhile Char.isDigit) }

def numbered (number : Nat) (cast : Option SqlType) : Placeholder :=
  { digits := Nat.toDigits 10 number
    cast := cast.map (·.name.toList) }

theorem typeName_name (type : SqlType) {rest : List Char} (ends : typeName rest = []) :
    typeName (type.name.toList ++ rest) = type.name.toList := by
  cases type <;> simp [SqlType.name, typeName, ends]

theorem eq_of_endsPlaceholder {chars : List Char} (ends : endsPlaceholder chars = true) :
    (∃ c rest, chars = ' ' :: c :: rest ∧ c.isLower = false) ∨ (∃ rest, chars = ',' :: rest) ∨
      ∃ rest, chars = ')' :: rest := by
  unfold endsPlaceholder at ends
  split at ends
  · next c rest =>
    rw [Bool.not_eq_true'] at ends
    exact .inl ⟨c, rest, rfl, ends⟩
  · next c rest _ =>
    rw [Bool.or_eq_true, decide_eq_true_eq, decide_eq_true_eq] at ends
    rcases ends with comma | bracket
    · exact .inr (.inl ⟨rest, by rw [comma]⟩)
    · exact .inr (.inr ⟨rest, by rw [bracket]⟩)
  · cases ends

/-- Nothing, or something that cannot be taken for more of the placeholder before it. -/
def Ended (rest : List Char) : Prop := rest = [] ∨ endsPlaceholder rest = true

theorem ended_append {text : List Char} (ends : endsPlaceholder text = true) (rest : List Char) :
    Ended (text ++ rest) := by
  obtain ⟨c, more, same, small⟩ | ⟨more, same⟩ | ⟨more, same⟩ := eq_of_endsPlaceholder ends
  · subst same
    exact .inr (by simp [endsPlaceholder, small])
  · subst same
    exact .inr rfl
  · subst same
    exact .inr rfl

theorem Ended.stops {rest : List Char} (ended : Ended rest) :
    typeName rest = [] ∧ castOf rest = none ∧ rest.takeWhile Char.isDigit = [] ∧
      rest.dropWhile Char.isDigit = rest := by
  rcases ended with empty | ends
  · subst empty
    exact ⟨rfl, rfl, rfl, rfl⟩
  · obtain ⟨c, more, same, small⟩ | ⟨more, same⟩ | ⟨more, same⟩ := eq_of_endsPlaceholder ends
    · subst same
      exact ⟨by rw [typeName, if_neg (by simp [small])], rfl, rfl, rfl⟩
    · subst same
      exact ⟨by simp [typeName], rfl, rfl, rfl⟩
    · subst same
      exact ⟨by simp [typeName], rfl, rfl, rfl⟩

theorem ofChars_append (number : Nat) (cast : Option SqlType) {rest : List Char}
    (ended : Ended rest) :
    ofChars (Nat.toDigits 10 number ++
      ((cast.map fun type => "::".toList ++ type.name.toList).getD [] ++ rest)) =
        numbered number cast := by
  have digits : ∀ c ∈ Nat.toDigits 10 number, c.isDigit = true :=
    fun c member => Nat.isDigit_of_mem_toDigits (by decide) (by decide) member
  obtain ⟨name, plain, undigited, rests⟩ := ended.stops
  rw [ofChars, numbered, List.takeWhile_append_of_pos digits, List.dropWhile_append_of_pos digits]
  cases cast with
  | none =>
    simp only [Option.map_none, Option.getD_none, List.nil_append, undigited, rests, plain,
      List.append_nil]
  | some type =>
    have cast : castOf (':' :: ':' :: (type.name.toList ++ rest)) = some type.name.toList := by
      rw [castOf, typeName_name type name]
    have undigited : Char.isDigit ':' = false := by decide
    simp [undigited, cast]

end Placeholder

namespace Lexeme

def bareRun : List Lexeme → List Char
  | bare c :: rest => c :: bareRun rest
  | _ => []

/-- The placeholders outside of quoted names, from left to right. -/
def placeholders : List Lexeme → List Placeholder
  | [] => []
  | bare '$' :: rest => .ofChars (bareRun rest) :: placeholders rest
  | _ :: rest => placeholders rest

theorem bareRun_bares (chars : List Char) (rest : List Lexeme) :
    bareRun (bares chars ++ rest) = chars ++ bareRun rest := by
  induction chars with
  | nil => rfl
  | cons c chars inductionHypothesis => exact congrArg (c :: ·) inductionHypothesis

theorem placeholders_bares {chars : List Char} (plain : '$' ∉ chars) (rest : List Lexeme) :
    placeholders (bares chars ++ rest) = placeholders rest := by
  induction chars with
  | nil => rfl
  | cons c chars inductionHypothesis =>
    rw [List.mem_cons, not_or] at plain
    rw [← inductionHypothesis plain.2, bares, List.map_cons, List.cons_append, placeholders]
    · rfl
    · intro same
      cases same
      exact plain.1 rfl

end Lexeme

namespace SqlStatement

def bindings (statement : SqlStatement) : List (Json × Option SqlType) :=
  statement.filterMap fun
    | .parameter value cast => some (value, cast)
    | _ => none

theorem parameters_eq_map_bindings (statement : SqlStatement) :
    statement.parameters = statement.bindings.map Prod.fst := by
  rw [parameters, bindings, List.map_filterMap]
  congr
  funext part
  cases part <;> rfl

theorem ended_bareRun {value : Json} {cast : Option SqlType} {rest : SqlStatement}
    (spaced : List.IsChain SqlPart.Fits (.parameter value cast :: rest)) (numbered : Nat) :
    Placeholder.Ended (Lexeme.bareRun (lexemes numbered rest)) := by
  cases rest with
  | nil => exact .inl rfl
  | cons next more =>
    have fits := (List.isChain_cons_cons.1 spaced).1
    cases next with
    | fixed text =>
      rw [lexemes, Lexeme.bareRun_bares]
      exact Placeholder.ended_append fits _
    | _ => cases fits

theorem placeholders_placeholder (number : UInt32) (cast : Option SqlType) {rest : List Lexeme}
    (ended : Placeholder.Ended (Lexeme.bareRun rest)) :
    Lexeme.placeholders (Lexeme.bares (placeholder number cast) ++ rest) =
      .numbered number.toNat cast :: Lexeme.placeholders rest := by
  have plain : '$' ∉ Nat.toDigits 10 number.toNat ++
      (cast.map fun type => "::".toList ++ type.name.toList).getD [] := by
    rw [List.mem_append, not_or]
    refine ⟨not_mem_digits (by decide) _, ?_⟩
    cases cast with
    | none => nofun
    | some type => cases type <;> decide
  rw [placeholder, Lexeme.bares, List.map_cons, List.cons_append, ← Lexeme.bares,
    Lexeme.placeholders, Lexeme.bareRun_bares, Lexeme.placeholders_bares plain, List.append_assoc,
    Placeholder.ofChars_append _ _ ended]

/-- The placeholders that are read from a statement are those of its values, numbered one after the
other. -/
theorem placeholders_lexemes {statement : SqlStatement}
    (spaced : statement.IsChain SqlPart.Fits)
    (plain : ∀ text, .fixed text ∈ statement → '$' ∉ text.toList) (numbered : Nat) :
    Lexeme.placeholders (statement.lexemes numbered) =
      statement.bindings.mapIdx fun index binding =>
        .numbered (UInt32.ofNat (numbered + index) + 1).toNat binding.2 := by
  induction statement generalizing numbered with
  | nil => rfl
  | cons part rest inductionHypothesis =>
    have read := inductionHypothesis (List.isChain_cons.1 spaced).2
      (fun text member => plain text (List.mem_cons_of_mem _ member))
    cases part with
    | fixed text =>
      rw [lexemes, Lexeme.placeholders_bares (plain text List.mem_cons_self), read]
      rfl
    | number value =>
      rw [lexemes, Lexeme.placeholders_bares (not_mem_digits (by decide) value), read]
      rfl
    | identifier name => exact read numbered
    | parameter value cast =>
      have found : bindings (.parameter value cast :: rest) = (value, cast) :: bindings rest := rfl
      rw [lexemes, placeholders_placeholder _ _ (ended_bareRun spaced _), read, found,
        List.mapIdx_cons]
      simp only [Nat.add_zero, Nat.add_assoc, Nat.add_comm 1]

end SqlStatement

namespace SelectQuery

/-- What a query compares: a field with a value for each single value of its
filters, in their order. -/
def comparands (query : SelectQuery) : List (String × Json) :=
  query.filters.flatMap fun filter =>
    filter.condition.values.map fun value => (filter.field, value)

def castOf (query : SelectQuery) (name : String) : Option SqlType :=
  (query.column? name).bind (·.cast)

variable (query : SelectQuery)

theorem bindings_selection : query.selection.bindings = [] := by
  unfold selection
  split
  · rfl
  · rw [SqlStatement.bindings, SqlStatement.filterMap_separate (fun _ => rfl), List.flatMap_map,
      List.flatMap_eq_nil_iff]
    intro column _
    split
    · rfl
    · rfl

theorem bindings_source : query.source.bindings = [] := by
  unfold source
  split
  · rfl
  · rfl

theorem bindings_comparison (filter : Filter) :
    (query.comparison filter).bindings =
      filter.condition.values.map fun value => (value, query.castOf filter.field) := by
  rw [comparison]
  split
  · next given =>
    rw [given]
    rfl
  · next given =>
    rw [given]
    rfl
  · next given =>
    rw [given]
    rfl
  · next given =>
    rw [given]
    rfl
  · next values _ given =>
    have listed : SqlStatement.bindings (SqlStatement.separate ", "
        (values.map fun value => [query.parameter filter.field value])) =
          values.map fun value => (value, query.castOf filter.field) := by
      rw [SqlStatement.bindings, SqlStatement.filterMap_separate (fun _ => rfl), List.flatMap_map]
      exact List.flatMap_pure_eq_map _ _
    rw [given, SqlStatement.bindings, List.filterMap_append, List.filterMap_append]
    exact (List.append_nil _).trans listed

theorem bindings_build : query.build.bindings =
    query.comparands.map fun comparand => (comparand.2, query.castOf comparand.1) := by
  have orders : query.order.flatMap (fun term => (sorting term).bindings) = [] :=
    List.flatMap_eq_nil_iff.2 fun _ _ => rfl
  calc query.build.bindings
      = query.selection.bindings ++ query.source.bindings ++
          query.filters.flatMap (fun filter => (query.comparison filter).bindings) ++
          query.order.flatMap fun term => (sorting term).bindings :=
        query.filterMap_build (fun _ => rfl) (fun _ => rfl)
    _ = query.filters.flatMap fun filter => (query.comparison filter).bindings := by
        rw [bindings_selection, bindings_source, orders, List.nil_append, List.nil_append,
          List.append_nil]
    _ = query.comparands.map fun comparand => (comparand.2, query.castOf comparand.1) := by
        simp only [bindings_comparison, comparands, List.map_flatMap, List.map_map]
        rfl

end SelectQuery

/-! ### Conditions -/

/-- The condition that a filter is read as: one that never holds for a filter that is among no
values, else one on its field with a placeholder for each of its values. -/
inductive Filter.ReadAs (filter : Filter) : List Lexeme → Prop where
  | never : filter.condition = .among [] → filter.ReadAs (Lexeme.bares "1 = 0".toList)
  | compared {condition : List Lexeme} : filter.condition ≠ .among [] →
      Lexeme.names condition = [filter.field] →
      (Lexeme.placeholders condition).length = filter.condition.values.length →
      filter.ReadAs condition

def Lexeme.whereClause (conditions : List (List Lexeme)) : List Lexeme :=
  if conditions = [] then []
  else bares " WHERE ".toList ++ (bares " AND ".toList).intercalate conditions

theorem SqlStatement.exists_lexemes_separate (separator : String) :
    ∀ (statements : List SqlStatement) (numbered : Nat), ∃ readings,
      List.Forall₂ (fun statement reading => ∃ before, reading = lexemes before statement)
        statements readings ∧
      lexemes numbered (separate separator statements) =
        (Lexeme.bares separator.toList).intercalate readings
  | [], _ => ⟨[], .nil, rfl⟩
  | [statement], numbered =>
    ⟨[lexemes numbered statement], .cons ⟨numbered, rfl⟩ .nil, List.intercalate_singleton.symm⟩
  | statement :: second :: rest, numbered => by
    obtain ⟨readings, read, same⟩ :=
      exists_lexemes_separate separator (second :: rest) (numbered + statement.parameters.length)
    refine ⟨lexemes numbered statement :: readings, .cons ⟨numbered, rfl⟩ read, ?_⟩
    have nonempty : readings ≠ [] := by
      intro empty
      cases empty ▸ read
    rw [separate_cons_cons, lexemes_append, lexemes, same, List.intercalate_cons_of_ne_nil nonempty,
      List.append_assoc]

theorem SqlStatement.exists_lexemes_clause (items : List SqlStatement) (numbered : Nat) :
    ∃ readings,
      List.Forall₂ (fun item reading => ∃ before, reading = lexemes before item) items readings ∧
      lexemes numbered (SelectQuery.clause " WHERE " " AND " items) =
        Lexeme.whereClause readings := by
  obtain ⟨readings, read, same⟩ := exists_lexemes_separate " AND " items numbered
  refine ⟨readings, read, ?_⟩
  unfold SelectQuery.clause Lexeme.whereClause
  cases read with
  | nil => rfl
  | cons _ _ => rw [if_neg (by simp), if_neg (by simp), lexemes, same]

namespace SelectQuery

variable (query : SelectQuery)

theorem dollar_not_mem_of_part {text : String} (part : query.Part keywords (.fixed text)) :
    '$' ∉ text.toList := by
  have plain : ∀ keyword ∈ keywords, '$' ∉ keyword.toList := by decide
  exact plain text (query.part_fixed_iff.1 part)

theorem readAs_comparison (filter : Filter) (numbered : Nat) :
    filter.ReadAs ((query.comparison filter).lexemes numbered) := by
  by_cases empty : filter.condition = .among []
  · have fixed : query.comparison filter = [.fixed "1 = 0"] := by
      rw [comparison, empty]
    rw [fixed]
    exact .never empty
  · have plain (text : String) (member : .fixed text ∈ query.comparison filter) :
        '$' ∉ text.toList :=
      query.dollar_not_mem_of_part
        ((query.part_of_mem_comparison filter _ member).mono (by decide))
    refine .compared empty ?_ ?_
    · rw [SqlStatement.names_lexemes, identifiers_comparison, if_pos empty]
    · rw [SqlStatement.placeholders_lexemes (query.legible_comparison filter).spaced plain,
        bindings_comparison, List.length_mapIdx, List.length_map]

theorem exists_lexemes_where : ∃ before conditions after,
    query.build.lexemes 0 = before ++ Lexeme.whereClause conditions ++ after ∧
      List.Forall₂ Filter.ReadAs query.filters conditions := by
  let before := query.selects ++ query.sources
  obtain ⟨conditions, read, same⟩ := SqlStatement.exists_lexemes_clause
    (query.filters.map query.comparison) before.parameters.length
  rw [List.forall₂_map_left_iff] at read
  let after := SqlStatement.lexemes (0 + (before ++ query.wheres).parameters.length)
    (query.orders ++ query.closing)
  have split : query.build.lexemes 0 =
      before.lexemes 0 ++ Lexeme.whereClause conditions ++ after := by
    rw [build_eq, List.append_assoc (before ++ query.wheres), SqlStatement.lexemes_append,
      SqlStatement.lexemes_append 0 before, Nat.zero_add]
    exact congrArg (fun read => before.lexemes 0 ++ read ++ after) same
  refine ⟨_, conditions, _, split, read.imp ?_⟩
  rintro filter _ ⟨numbered, same⟩
  rw [same]
  exact query.readAs_comparison filter numbered

/-- The placeholders in the text of a query are numbered from one without a gap, each with the
type of the column that its value is compared with, and the parameters are the values of the
filters in their order. -/
theorem placeholders_sql (few : query.comparands.length < UInt32.size) :
    query.params = query.comparands.map (·.2) ∧
      ∃ lexemes, Lexeme.ofText? query.sql = some lexemes ∧
        Lexeme.placeholders lexemes = query.comparands.mapIdx (fun index comparand =>
          .numbered (index + 1) (query.castOf comparand.1)) ∧
        ∃ before conditions after, lexemes = before ++ Lexeme.whereClause conditions ++ after ∧
          List.Forall₂ Filter.ReadAs query.filters conditions := by
  refine ⟨?_, query.build.lexemes 0, SqlStatement.ofText?_text query.legible_build, ?_,
    query.exists_lexemes_where⟩
  · rw [params, SqlStatement.parameters_eq_map_bindings, bindings_build, List.map_map]
    rfl
  · have plain (text : String) (member : .fixed text ∈ query.build) : '$' ∉ text.toList :=
      query.dollar_not_mem_of_part (query.part_of_mem_build _ member)
    rw [SqlStatement.placeholders_lexemes query.legible_build.spaced plain, bindings_build]
    apply List.ext_getElem
    · simp only [List.length_mapIdx, List.length_map]
    · intro index _ inside
      rw [List.length_mapIdx] at inside
      -- Below the size of a word the number does not wrap around.
      have number : (UInt32.ofNat (0 + index) + 1).toNat = index + 1 := by
        rw [UInt32.toNat_add, UInt32.toNat_ofNat', UInt32.toNat_one]
        simp only [UInt32.size] at few
        omega
      rw [List.getElem_mapIdx, List.getElem_mapIdx, List.getElem_map, number]

def priced : SelectQuery :=
  { table := "products"
    columns := [{ name := "price", cast := some .numeric, asText := true }]
    filters := [
      { field := "price", condition := .gte (.string "9.5") },
      { field := "id", condition := .among [] },
      { field := "name", condition := .among [.string "a", .string "b"] }] }

theorem placeholders_priced :
    priced.sql = "SELECT \"price\"::text AS \"price\" FROM \"products\" " ++
        "WHERE \"price\" >= $1::numeric AND 1 = 0 AND \"name\" IN ($2, $3)" ∧
      priced.params = [.string "9.5", .string "a", .string "b"] ∧
      ∃ lexemes, Lexeme.ofText? priced.sql = some lexemes ∧
        Lexeme.placeholders lexemes =
          [.numbered 1 (some .numeric), .numbered 2 none, .numbered 3 none] := by
  obtain ⟨values, lexemes, read, found, _⟩ := priced.placeholders_sql (by decide)
  exact ⟨by decide +kernel, values, lexemes, read, found⟩

end SelectQuery

end Backoffice
