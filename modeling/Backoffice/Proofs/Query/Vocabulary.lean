import Backoffice.Proofs.Query.Legible
import Backoffice.Proofs.Query.Parts
import Mathlib.Computability.Language

/-!
What the text of a listing says, whatever characters its names have.

Read by the rule for quoted names, the text holds the names of the query in their order, and outside
of them nothing but keywords, operators, placeholders and the two counts.
-/

namespace Backoffice

open scoped Computability

namespace SelectQuery

def castEndings : List String :=
  ["", "::bigint", "::double precision", "::numeric", "::boolean", "::uuid", "::date", "::time",
    "::timestamp", "::timestamptz"]

inductive Word (query : SelectQuery) : List Char → Prop where
  | keyword {text : String} : text ∈ keywords → query.Word text.toList
  | placeholder (number : Nat) {ending : String} : ending ∈ castEndings →
      query.Word ('$' :: (Nat.toDigits 10 number ++ ending.toList))
  | limit {count : Nat} : query.limit = some count → query.Word (Nat.toDigits 10 (min count 1000))
  | offset {count : Nat} : query.offset = some count → query.Word (Nat.toDigits 10 count)

def phrases (query : SelectQuery) : Language Lexeme :=
  {phrase | (∃ name, phrase = [.quoted name]) ∨ ∃ word, query.Word word ∧
    phrase = Lexeme.bares word}

/-- The names of a query in the order of its text. A column that is selected as a text is named
twice; a filter that is among no values is not named. -/
def quotedNames (query : SelectQuery) : List String :=
  (query.columns.flatMap fun column =>
      if column.asText then [column.name, column.name] else [column.name]) ++
    query.schema.toList ++ [query.table] ++
    (query.filters.filter fun filter => filter.condition ≠ .among []).map (·.field) ++
    query.order.map (·.field)

variable (query : SelectQuery)

theorem identifiers_selection : query.selection.identifiers = query.columns.flatMap fun column =>
    if column.asText then [column.name, column.name] else [column.name] := by
  unfold selection
  split
  · next empty =>
    rw [List.isEmpty_iff.1 empty]
    rfl
  · rw [SqlStatement.identifiers, SqlStatement.filterMap_separate (fun _ => rfl), List.flatMap_map]
    congr
    funext column
    split
    · rfl
    · rfl

theorem identifiers_source :
    query.source.identifiers = query.schema.toList ++ [query.table] := by
  unfold source
  split
  · next schema given =>
    rw [given]
    rfl
  · next missing =>
    rw [missing]
    rfl

theorem identifiers_parameters (name : String) (values : List Json) :
    SqlStatement.identifiers (SqlStatement.separate ", "
      (values.map fun value => [query.parameter name value])) = [] := by
  rw [SqlStatement.identifiers, SqlStatement.filterMap_separate (fun _ => rfl), List.flatMap_map]
  exact List.flatMap_eq_nil_iff.2 fun _ _ => rfl

theorem identifiers_comparison (filter : Filter) :
    (query.comparison filter).identifiers =
      if filter.condition ≠ .among [] then [filter.field] else [] := by
  rw [comparison]
  split
  · next given => simp [given, SqlStatement.identifiers, parameter]
  · next given => simp [given, SqlStatement.identifiers, parameter]
  · next given => simp [given, SqlStatement.identifiers, parameter]
  · next given => simp [given, SqlStatement.identifiers]
  · next values some given =>
    have nonempty : Condition.among values ≠ .among [] := by
      intro same
      cases same
      exact some rfl
    rw [SqlStatement.identifiers_append, SqlStatement.identifiers_append,
      identifiers_parameters, given, if_pos nonempty]
    rfl

theorem identifiers_build : query.build.identifiers = query.quotedNames := by
  have wheres : query.filters.flatMap (fun filter => (query.comparison filter).identifiers) =
      (query.filters.filter fun filter => filter.condition ≠ .among []).map (·.field) := by
    induction query.filters with
    | nil => rfl
    | cons filter rest inductionHypothesis =>
      rw [List.flatMap_cons, identifiers_comparison, inductionHypothesis, List.filter_cons]
      by_cases empty : filter.condition = .among []
      · simp [empty]
      · simp [empty]
  have orders : query.order.flatMap (fun term => (sorting term).identifiers) =
      query.order.map (·.field) :=
    List.flatMap_pure_eq_map _ _
  calc query.build.identifiers
      = query.selection.identifiers ++ query.source.identifiers ++
          query.filters.flatMap (fun filter => (query.comparison filter).identifiers) ++
          query.order.flatMap fun term => (sorting term).identifiers :=
        query.filterMap_build (fun _ => rfl) (fun _ => rfl)
    _ = query.quotedNames := by
        rw [identifiers_selection, identifiers_source, wheres, orders, quotedNames,
          List.append_assoc _ query.schema.toList]

theorem exists_ending (cast : Option SqlType) : ∃ ending ∈ castEndings,
    (cast.map fun type => "::".toList ++ type.name.toList).getD [] = ending.toList := by
  cases cast with
  | none => exact ⟨"", by decide, rfl⟩
  | some type => exact ⟨"::" ++ type.name, by cases type <;> decide, by cases type <;> decide⟩

theorem lexemes_part_mem_phrases {part : SqlPart} (allowed : query.Part keywords part)
    (numbered : Nat) :
    SqlStatement.lexemes numbered [part] ∈ query.phrases := by
  cases allowed with
  | fixed keyword => exact .inr ⟨_, .keyword keyword, by simp [SqlStatement.lexemes]⟩
  | identifier name => exact .inl ⟨name, rfl⟩
  | parameter value cast =>
    obtain ⟨ending, listed, same⟩ := exists_ending cast
    refine .inr ⟨_, .placeholder (UInt32.ofNat numbered + 1).toNat listed, ?_⟩
    rw [← same, SqlStatement.lexemes, SqlStatement.lexemes, List.append_nil,
      SqlStatement.placeholder]
  | limit given => exact .inr ⟨_, .limit given, by simp [SqlStatement.lexemes, maxLimit]⟩
  | offset given => exact .inr ⟨_, .offset given, by simp [SqlStatement.lexemes]⟩

end SelectQuery

theorem SqlStatement.lexemes_mem_kstar {phrases : Language Lexeme} {statement : SqlStatement}
    (phrase : ∀ part ∈ statement, ∀ numbered, lexemes numbered [part] ∈ phrases)
    (numbered : Nat) : statement.lexemes numbered ∈ phrases∗ := by
  induction statement generalizing numbered with
  | nil => exact Language.nil_mem_kstar phrases
  | cons part rest inductionHypothesis =>
    rw [List.forall_mem_cons] at phrase
    have others := inductionHypothesis phrase.2 (numbered + (parameters [part]).length)
    rw [← List.singleton_append, lexemes_append]
    have absorbed : phrases * phrases∗ ≤ phrases∗ := mul_kstar_le_kstar
    exact absorbed (Language.append_mem_mul (phrase.1 numbered) others)

/-- Whatever characters the names of a query have, its text is read to the end with no name
left open. It names what the query names, in that order, and outside of names it says nothing
but the words of the query. -/
theorem SelectQuery.sql_reads_quotedNames_and_words (query : SelectQuery) :
    ∃ lexemes, Lexeme.ofText? query.sql = some lexemes ∧
      Lexeme.names lexemes = query.quotedNames ∧ lexemes ∈ query.phrases∗ := by
  refine ⟨query.build.lexemes 0, ?_, ?_, ?_⟩
  · exact SqlStatement.ofText?_text query.legible_build
  · rw [SqlStatement.names_lexemes, query.identifiers_build]
  · apply SqlStatement.lexemes_mem_kstar
    intro part member numbered
    exact query.lexemes_part_mem_phrases (query.part_of_mem_build part member) numbered

/-- A name with quotes of its own does not end early. -/
example :
    ({ table := "t\" ORDER BY \"" } : SelectQuery).sql = "SELECT * FROM \"t\"\" ORDER BY \"\"\"" ∧
      (Lexeme.ofText? ({ table := "t\" ORDER BY \"" } : SelectQuery).sql).map Lexeme.names =
        some ["t\" ORDER BY \""] := by
  decide +kernel

end Backoffice
