import Backoffice.Proofs.Binary64.Order
import Backoffice.Proofs.Query.RecordOrder
import Backoffice.Proofs.Text.Numerals

/-!
Filters by decimals.

The digits of a decimal are kept, so a filter has a text to compare with, and compares it with
other texts, as texts. It answers as the numbers say exactly if the texts stand in the order of the
numbers, as those do that have their digits and points in the same places. Numbers that are not
held as texts never match.
-/

namespace Backoffice

/-! ### Decimals as they are held -/

def Text.trimmed (raw : String) : String := .ofList (trim raw.toList)

/-- Whether a text is read as a numeral, without the blanks around it,
whose number doubles reach. -/
def Numeral.SpelledBy (numeral : Numeral) (raw : String) : Prop :=
  ofChars? (Text.trim raw.toList) = some numeral ∧ numeral.toBinary64?.isSome = true

instance (numeral : Numeral) (raw : String) : Decidable (numeral.SpelledBy raw) :=
  inferInstanceAs (Decidable (_ ∧ _))

theorem Numeral.SpelledBy.coerceText {numeral : Numeral} {raw : String}
    (spelled : numeral.SpelledBy raw) :
    FieldType.decimal.coerceText raw = .string (Text.trimmed raw) := by
  obtain ⟨reads, finite⟩ := spelled
  obtain ⟨nearest, reached⟩ := Option.isSome_iff_exists.1 finite
  rw [FieldType.coerceText, FieldType.read?, FieldType.decimal?, reads, Option.bind_some, reached]
  rfl

/-- The numbers that values stand for in a decimal field. -/
inductive Json.HoldsNumber : Json → ℚ → Prop where
  | text {raw : String} {numeral : Numeral} : numeral.SpelledBy raw →
    HoldsNumber (.string raw) numeral.value
  | int (value : Int) : HoldsNumber (.number (.int value)) value
  | float (value : Binary64) : HoldsNumber (.number (.float value)) value.value

/-! ### Filters on a field -/

namespace Resource

variable {resource : Resource} {name raw : String} {numeral : Numeral} {record : Json}

/-- Whether there is a decimal field of a name that is not omitted and that filters may be on. -/
def FiltersDecimal (resource : Resource) (name : String) : Prop :=
  ∃ field, resource.field? name = some field ∧ field.type = .decimal ∧ field.filterable = true ∧
    field.omitted = false

def filteredBy (resource : Resource) (name operator raw : String) : FilterQuery :=
  QueryOpts.recordQuery { clauses := [.compare name operator (.string raw)] } resource

/-- A comparison with a decimal is one with its text. -/
theorem filteredBy_eq (decimal : resource.FiltersDecimal name) (spelled : numeral.SpelledBy raw)
    {operator : String} {op : FilterOp} (named : FilterOp.ofName? operator = some op)
    (notAmong : op ≠ .among) :
    resource.filteredBy name operator raw = .single name op (.string (Text.trimmed raw)) := by
  obtain ⟨field, known, isDecimal, filterable, shown⟩ := decimal
  have coerced : (Filter.make name op (.string raw)).coerce field =
      .make name op (.string (Text.trimmed raw)) := by
    rw [← spelled.coerceText, ← isDecimal]
    cases op with
    | among => exact absurd rfl notAmong
    | eq | gte | lte => rfl
  have admitted : resource.admit? (.make name op (.string raw)) =
      some (.make name op (.string (Text.trimmed raw))) :=
    (admit?_eq_some known filterable shown).trans (congrArg some coerced)
  rw [filteredBy, QueryOpts.recordQuery_eq]
  simp [QueryOpts.filters, WhereClause.filters, named, admitted, QueryOpts.sortTerms,
    FilterQuery.single]

/-- Whether comparisons with a text let a record pass as comparing two numbers says. -/
structure AnswersByNumber (resource : Resource) (name raw : String) (record : Json)
    (held wanted : ℚ) : Prop where
  eq : (resource.filteredBy name "eq" raw).isMatch record = true ↔ held = wanted
  gte : (resource.filteredBy name "gte" raw).isMatch record = true ↔ wanted ≤ held
  lte : (resource.filteredBy name "lte" raw).isMatch record = true ↔ held ≤ wanted

section Decimals

variable (decimal : resource.FiltersDecimal name) (spelled : numeral.SpelledBy raw)
include decimal spelled

theorem isMatch_filteredBy {operator : String} {op : FilterOp}
    (named : FilterOp.ofName? operator = some op) (notAmong : op ≠ .among) :
    (resource.filteredBy name operator raw).isMatch record =
      (Condition.make op (.string (Text.trimmed raw))).holds (record.getOrNull name) := by
  rw [filteredBy_eq decimal spelled named notAmong, FilterQuery.isMatch_single]

theorem isMatch_filteredBy_number {number : Number}
    (stored : record.getOrNull name = .number number) {operator : String} {op : FilterOp}
    (named : FilterOp.ofName? operator = some op) (notAmong : op ≠ .among) :
    (resource.filteredBy name operator raw).isMatch record = false := by
  rw [isMatch_filteredBy decimal spelled named notAmong, stored]
  cases op with
  | among => exact absurd rfl notAmong
  | eq | gte | lte => rfl

/-- Texts that stand in the order of the numbers are compared as the numbers are, and no others. -/
theorem answersByNumber_iff_of_text {text : String} (stored : record.getOrNull name = .string text)
    {held : ℚ} :
    resource.AnswersByNumber name raw record held numeral.value ↔
      compare text (Text.trimmed raw) = compare held numeral.value := by
  have compared : (record.getOrNull name).compare? (.string (Text.trimmed raw)) =
      some (compare text (Text.trimmed raw)) := by
    rw [stored]
    rfl
  have eq : (resource.filteredBy name "eq" raw).isMatch record = true ↔
      text = Text.trimmed raw := by
    rw [isMatch_filteredBy decimal spelled (show FilterOp.ofName? "eq" = some .eq from rfl) nofun]
    exact Condition.holds_eq_iff compared
  have gte : (resource.filteredBy name "gte" raw).isMatch record = true ↔
      Text.trimmed raw ≤ text := by
    rw [isMatch_filteredBy decimal spelled (show FilterOp.ofName? "gte" = some .gte from rfl) nofun]
    exact Condition.holds_gte_iff compared
  have lte : (resource.filteredBy name "lte" raw).isMatch record = true ↔
      text ≤ Text.trimmed raw := by
    rw [isMatch_filteredBy decimal spelled (show FilterOp.ofName? "lte" = some .lte from rfl) nofun]
    exact Condition.holds_lte_iff compared
  constructor
  · intro answers
    refine compare_eq_compare_of_lt_iff ?_ ?_
    · exact lt_iff_lt_of_le_iff_le (gte.symm.trans answers.gte)
    · exact lt_iff_lt_of_le_iff_le (lte.symm.trans answers.lte)
  · intro same
    rw [← cmp_eq_compare, ← cmp_eq_compare] at same
    refine ⟨eq.trans (eq_iff_eq_of_cmp_eq_cmp same), gte.trans ?_,
      lte.trans (le_iff_le_of_cmp_eq_cmp same)⟩
    exact le_iff_le_of_cmp_eq_cmp (cmp_eq_cmp_symm.1 same)

/-- Comparisons with a decimal answer as the numbers say exactly if the number that is held is held
as a text and the two texts stand in the order of the numbers. They do if their digits and points
are in the same places. -/
theorem answersByNumber_iff {held : ℚ} (holds : (record.getOrNull name).HoldsNumber held) :
    (resource.AnswersByNumber name raw record held numeral.value ↔
        ∃ text, record.getOrNull name = .string text ∧
          compare text (Text.trimmed raw) = compare held numeral.value) ∧
      ∀ text, record.getOrNull name = .string text →
      Text.Aligned text.toList (Text.trim raw.toList) →
        resource.AnswersByNumber name raw record held numeral.value := by
  refine ⟨⟨fun answers => ?_, ?_⟩, fun text stored aligned => ?_⟩
  · cases stored : record.getOrNull name with
    | string text =>
      exact ⟨text, rfl, (answersByNumber_iff_of_text decimal spelled stored).1 answers⟩
    | number number =>
      -- One of the numbers is not greater than the other, which neither comparison notices.
      have unmatched {operator : String} {op : FilterOp}
          (named : FilterOp.ofName? operator = some op) (notAmong : op ≠ .among) :
            ¬ (resource.filteredBy name operator raw).isMatch record = true :=
        Bool.eq_false_iff.1 (isMatch_filteredBy_number decimal spelled stored named notAmong)
      rcases le_total held numeral.value with below | above
      · exact absurd (answers.lte.2 below)
          (unmatched (show FilterOp.ofName? "lte" = some .lte from rfl) nofun)
      · exact absurd (answers.gte.2 above)
          (unmatched (show FilterOp.ofName? "gte" = some .gte from rfl) nofun)
    | null | bool | array | object =>
      rw [stored] at holds
      cases holds
  · rintro ⟨text, stored, same⟩
    exact (answersByNumber_iff_of_text decimal spelled stored).2 same
  · refine (answersByNumber_iff_of_text decimal spelled stored).2 ?_
    rw [stored] at holds
    cases holds with
    | text spelledToo =>
      have reads := spelledToo.1
      rw [Text.trim_of_isPlain aligned.isPlain] at reads
      have same := Numeral.compare_ofList_of_aligned aligned reads spelled.1
      rwa [String.ofList_toList] at same

end Decimals

def goods : Resource :=
  .discover "good"
    (.simple { schemas := [
      { name := ⟨"Shop.Good"⟩, fields := [{ name := "price", nativeType := "decimal" }] }] })
    ⟨"Shop.Good"⟩ none none {} none

theorem goods_filtersDecimal : goods.FiltersDecimal "price" :=
  ⟨(goods.field? "price").get (by decide +kernel),
    (Option.some_get _).symm, by decide +kernel, by decide +kernel, by decide +kernel⟩

def priced (price : String) : Json := .object [("price", .string price)]

/-- Prices with two digits before and after the point are compared as numbers. -/
theorem answersByNumber_twelve :
    goods.FiltersDecimal "price" ∧ Numeral.SpelledBy ⟨false, 999, -2⟩ " 09.99 " ∧
      ((priced "12.50").getOrNull "price").HoldsNumber (25 / 2) ∧
      goods.AnswersByNumber "price" " 09.99 " (priced "12.50") (25 / 2) (999 / 100) := by
  have spelled : Numeral.SpelledBy ⟨false, 999, -2⟩ " 09.99 " := by decide +kernel
  have wanted : Numeral.value ⟨false, 999, -2⟩ = 999 / 100 := by norm_num [Numeral.value]
  have spelledToo : Numeral.SpelledBy ⟨false, 1250, -2⟩ "12.50" := by decide +kernel
  have held : Numeral.value ⟨false, 1250, -2⟩ = 25 / 2 := by norm_num [Numeral.value]
  have holds : ((priced "12.50").getOrNull "price").HoldsNumber (25 / 2) := held ▸ .text spelledToo
  have aligned : Text.Aligned "12.50".toList (Text.trim " 09.99 ".toList) := by
    rw [show Text.trim " 09.99 ".toList = "09.99".toList by decide]
    exact .cons (.inl (by decide)) (.cons (.inl (by decide)) (.cons (.inr (by decide))
      (.cons (.inl (by decide)) (.cons (.inl (by decide)) .nil))))
  refine ⟨goods_filtersDecimal, spelled, holds, ?_⟩
  rw [← wanted]
  exact (answersByNumber_iff goods_filtersDecimal spelled holds).2 "12.50" rfl aligned

/-- The price 9.5 is found among those of ten and more. -/
theorem nine_found_from_ten :
    (goods.filteredBy "price" "gte" "10").isMatch (priced "9.5") = true ∧
      Numeral.SpelledBy ⟨false, 10, 0⟩ "10" ∧
      ((priced "9.5").getOrNull "price").HoldsNumber (19 / 2) ∧
      ¬ goods.AnswersByNumber "price" "10" (priced "9.5") (19 / 2) 10 := by
  have found : (goods.filteredBy "price" "gte" "10").isMatch (priced "9.5") = true := by
    decide +kernel
  have spelledToo : Numeral.SpelledBy ⟨false, 95, -1⟩ "9.5" := by decide +kernel
  have held : Numeral.value ⟨false, 95, -1⟩ = 19 / 2 := by norm_num [Numeral.value]
  refine ⟨found, by decide +kernel, held ▸ .text spelledToo, fun answers => ?_⟩
  have least := answers.gte.1 found
  norm_num at least

end Resource

end Backoffice
