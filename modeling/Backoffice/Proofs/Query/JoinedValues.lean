import Backoffice.Proofs.Query.Concealment
import Backoffice.Proofs.Text.Pieces
import Backoffice.Query.Select

/-!
Memberships whose values are joined in one text.

The values that a field is to be among are listed in an array, or in one text with commas between
them. The text is split when the clause becomes a filter, before its values get the type of the
field, so the two clauses give the same queries if there are values, and no comma in any of them.
-/

namespace Backoffice

open Text (Joins)

namespace WhereClause

/-- Whether two clauses stand for each other at any place of any options, in
all queries of a kind. -/
structure Interchangeable (Query : Type) [QueryTarget Query]
    (first second : WhereClause) : Prop where
  applyTo : ∀ (orderBy : Option OrderBy) (before after : List WhereClause) (base : Query),
    ({ orderBy, clauses := before ++ first :: after } : QueryOpts).applyTo base =
      ({ orderBy, clauses := before ++ second :: after } : QueryOpts).applyTo base
  applyFor : ∀ (orderBy : Option OrderBy) (before after : List WhereClause) (resource : Resource)
      (base : Query),
    ({ orderBy, clauses := before ++ first :: after } : QueryOpts).applyFor resource base =
      ({ orderBy, clauses := before ++ second :: after } : QueryOpts).applyFor resource base

variable {Query : Type} [QueryTarget Query] {first second : WhereClause} {field text : String}
  {parts : List String}

theorem interchangeable_of_filters_eq (same : first.filters = second.filters) :
    Interchangeable Query first second := by
  have filters_eq (orderBy : Option OrderBy) (before after : List WhereClause) :
      ({ orderBy, clauses := before ++ first :: after } : QueryOpts).filters =
        ({ orderBy, clauses := before ++ second :: after } : QueryOpts).filters := by
    simp only [QueryOpts.filters, List.flatMap_append, List.flatMap_cons, same]
  constructor
  · intro orderBy before after base
    simp only [QueryOpts.applyTo, filters_eq]
  · intro orderBy before after resource base
    simp only [QueryOpts.applyFor, filters_eq]

def amongPieces (field text : String) : WhereClause := .compare field "in" (.string text)

def amongTexts (field : String) (parts : List String) :
    WhereClause := .compare field "in" (.array (parts.map .string))

theorem filters_amongTexts :
    (amongTexts field parts).filters = [{ field, condition := .among (parts.map .string) }] := rfl

theorem filters_amongPieces :
    (amongPieces field text).filters =
      [{ field, condition := .among ((Text.pieces ',' text).map .string) }] := rfl

theorem filters_amongPieces_eq_iff :
    (amongPieces field text).filters = (amongTexts field parts).filters ↔ Joins ',' parts text := by
  have string_injective : Function.Injective Json.string := fun _ _ => Json.string.inj
  rw [filters_amongPieces, filters_amongTexts, ← Text.pieces_eq_iff,
    ← string_injective.list_map.eq_iff]
  simp

end WhereClause

namespace Resource

variable {resource : Resource} {known : Field} {field : String}

/-- For a resource, each of the listed texts gets the type of the field. -/
theorem admit?_among (stored : resource.field? field = some known)
    (filterable : known.filterable = true) (shown : known.omitted = false) (parts : List String) :
    resource.admit? { field, condition := .among (parts.map .string) } =
      some { field, condition := .among (parts.map known.type.coerceText) } := by
  rw [admit?_eq_some stored filterable shown, Filter.coerce, Condition.coerce, List.map_map]
  rfl

end Resource

namespace WhereClause

/-- A membership in texts without commas may join them in one text: both clauses are read, and give
the same queries over records and over tables, and the same statements with the same parameters. For
a resource, each of the texts gets the type of its field. -/
theorem amongPieces_intercalate_interchangeable (field : String) {parts : List String}
    (nonempty : parts ≠ []) (plain : ∀ part ∈ parts, ',' ∉ part.toList) :
    (ofJson? (.array [.string field, .string "in", .string (",".intercalate parts)]) =
        some (amongPieces field (",".intercalate parts)) ∧
      ofJson? (.array [.string field, .string "in", .array (parts.map .string)]) =
        some (amongTexts field parts)) ∧
      Interchangeable FilterQuery (amongPieces field (",".intercalate parts))
        (amongTexts field parts) ∧
      Interchangeable SelectQuery (amongPieces field (",".intercalate parts))
        (amongTexts field parts) ∧
      (∀ (orderBy : Option OrderBy) (before after : List WhereClause) (resource : Resource)
          (base : SelectQuery),
        let joined : QueryOpts :=
          { orderBy, clauses := before ++ amongPieces field (",".intercalate parts) :: after }
        let listed : QueryOpts := { orderBy, clauses := before ++ amongTexts field parts :: after }
        (joined.applyTo base).sql = (listed.applyTo base).sql ∧
          (joined.applyTo base).params = (listed.applyTo base).params ∧
          (joined.applyFor resource base).sql = (listed.applyFor resource base).sql ∧
          (joined.applyFor resource base).params = (listed.applyFor resource base).params) ∧
      ∀ (resource : Resource) (known : Field), resource.field? field = some known →
        known.filterable = true → known.omitted = false →
          (amongPieces field (",".intercalate parts)).filters.filterMap resource.admit? =
            [{ field, condition := .among (parts.map known.type.coerceText) }] := by
  have joins : Joins ',' parts (",".intercalate parts) := ⟨nonempty, plain, rfl⟩
  have same : (amongPieces field (",".intercalate parts)).filters =
      (amongTexts field parts).filters :=
    filters_amongPieces_eq_iff.2 joins
  have tables :
      Interchangeable SelectQuery (amongPieces field (",".intercalate parts))
      (amongTexts field parts) :=
    interchangeable_of_filters_eq same
  refine ⟨⟨rfl, rfl⟩, interchangeable_of_filters_eq same, tables, ?_, ?_⟩
  · intro orderBy before after resource base joined listed
    have general : joined.applyTo base = listed.applyTo base :=
      tables.applyTo orderBy before after base
    have suited : joined.applyFor resource base = listed.applyFor resource base :=
      tables.applyFor orderBy before after resource base
    rw [general, suited]
    exact ⟨rfl, rfl, rfl, rfl⟩
  · intro resource known stored filterable shown
    rw [same, filters_amongTexts,
      List.filterMap_cons_some (resource.admit?_among stored filterable shown parts),
      List.filterMap_nil]

/-- Blank pieces and pieces that are no integers stay as they are. -/
theorem amongPieces_identifiers :
    Interchangeable SelectQuery (amongPieces "id" ",7, +8 ,x,")
      (amongTexts "id" ["", "7", " +8 ", "x", ""]) ∧
      (amongPieces "id" ",7, +8 ,x,").filters.filterMap QueryOpts.accounts.admit? =
        [{ field := "id"
           condition := .among
            [.string "", .number (.int 7), .number (.int 8), .string "x", .string ""] }] := by
  have joined : ",".intercalate ["", "7", " +8 ", "x", ""] = ",7, +8 ,x," := by decide
  have plain : ∀ part ∈ ["", "7", " +8 ", "x", ""], ',' ∉ part.toList := by decide
  obtain ⟨-, -, tables, -, suited⟩ := amongPieces_intercalate_interchangeable "id" (by decide) plain
  rw [joined] at tables suited
  obtain ⟨known, stored, allowed⟩ : ∃ known, QueryOpts.accounts.field? "id" = some known ∧
      (known.filterable && !known.omitted && known.type = .integer) = true :=
    Option.any_eq_true _ _ |>.1 (by decide +kernel)
  rw [Bool.and_eq_true, Bool.and_eq_true, Bool.not_eq_true', decide_eq_true_iff] at allowed
  obtain ⟨⟨filterable, shown⟩, isInteger⟩ := allowed
  refine ⟨tables, (suited _ known stored filterable shown).trans ?_⟩
  rw [isInteger]
  decide +kernel

end WhereClause

end Backoffice
