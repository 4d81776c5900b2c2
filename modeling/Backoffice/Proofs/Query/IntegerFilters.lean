import Backoffice.Proofs.Query.StableRows

/-!
Filters by integers.

Numbers are compared by their nearest doubles, so integers beyond `2 ^ 53` that share one are taken
for equal. A filter answers as integer comparison says exactly for the integers that do not.
-/

namespace Backoffice

open Binary64 (nearestInt)

/-! ### Comparing integers -/

theorem Number.IsWord.natAbs_lt {value : Int} (isWord : (Number.int value).IsWord) :
    value.natAbs < 0x10000000000000000 := by
  obtain ⟨lower, upper⟩ := isWord
  omega

theorem Json.compare?_int {held wanted : Int} (isWord : (Number.int held).IsWord)
    (isWordToo : (Number.int wanted).IsWord) :
    (Json.number (.int held)).compare? (.number (.int wanted)) =
      some (compare (nearestInt held) (nearestInt wanted)) := by
  obtain ⟨x, nearest, same⟩ := Binary64.ofInt?_eq_some isWord.natAbs_lt
  obtain ⟨y, nearestToo, sameToo⟩ := Binary64.ofInt?_eq_some isWordToo.natAbs_lt
  have compares :
      (Json.number (.int held)).Compares (.number (.int wanted)) (compare x.value y.value) :=
    .number nearest nearestToo
  have ofIntegers : compare x.value y.value = compare (nearestInt held) (nearestInt wanted) := by
    rw [same, sameToo, ← cmp_eq_compare, ← cmp_eq_compare]
    exact (Int.cast_strictMono (R := ℚ)).cmp_map_eq _ _
  exact ofIntegers ▸ Json.compare?_eq_some_iff.2 compares

/-! ### Filters -/

namespace FilterQuery

structure ComparesIntegers (field : String) (record : Json) (held wanted : Int) : Prop where
  eq : (single field .eq (.number (.int wanted))).isMatch record = true ↔ held = wanted
  gte : (single field .gte (.number (.int wanted))).isMatch record = true ↔ wanted ≤ held
  lte : (single field .lte (.number (.int wanted))).isMatch record = true ↔ held ≤ wanted

section Integers

variable {field : String} {record : Json} {held : Int}

theorem isMatch_single_eq_int (stored : record.getOrNull field = .number (.int held))
    (isWord : (Number.int held).IsWord) {wanted : Int} (isWordToo : (Number.int wanted).IsWord) :
    (single field .eq (.number (.int wanted))).isMatch record = true ↔
      nearestInt held = nearestInt wanted := by
  rw [isMatch_single, stored]
  exact Condition.holds_eq_iff (Json.compare?_int isWord isWordToo)

theorem isMatch_single_gte_int (stored : record.getOrNull field = .number (.int held))
    (isWord : (Number.int held).IsWord) {wanted : Int} (isWordToo : (Number.int wanted).IsWord) :
    (single field .gte (.number (.int wanted))).isMatch record = true ↔
      nearestInt wanted ≤ nearestInt held := by
  rw [isMatch_single, stored]
  exact Condition.holds_gte_iff (Json.compare?_int isWord isWordToo)

theorem isMatch_single_lte_int (stored : record.getOrNull field = .number (.int held))
    (isWord : (Number.int held).IsWord) {wanted : Int} (isWordToo : (Number.int wanted).IsWord) :
    (single field .lte (.number (.int wanted))).isMatch record = true ↔
      nearestInt held ≤ nearestInt wanted := by
  rw [isMatch_single, stored]
  exact Condition.holds_lte_iff (Json.compare?_int isWord isWordToo)

theorem isMatch_single_among_int (stored : record.getOrNull field = .number (.int held))
    (isWord : (Number.int held).IsWord) {listed : List Int}
    (areWords : ∀ wanted ∈ listed, (Number.int wanted).IsWord) :
    (single field .among (.array (listed.map fun wanted => .number (.int wanted)))).isMatch record =
      true ↔
      ∃ wanted ∈ listed, nearestInt held = nearestInt wanted := by
  rw [isMatch_single, stored]
  have anyListed :
      (Condition.make .among (.array (listed.map fun wanted => .number (.int wanted)))).holds
      (.number (.int held)) = listed.any fun wanted =>
        (Json.number (.int held)).compare? (.number (.int wanted)) = some .eq := List.any_map
  rw [anyListed, List.any_eq_true]
  refine exists_congr fun wanted => and_congr_right fun member => ?_
  rw [decide_eq_true_iff, Json.compare?_int isWord (areWords wanted member), Option.some.injEq,
    compare_eq_iff_eq]

/-- Of integers that do not share a double, the nearest doubles stand in the
order of the integers. -/
theorem nearestInt_le_iff_of_apart {first second : Int}
    (apart : nearestInt first = nearestInt second → first = second) :
    nearestInt first ≤ nearestInt second ↔ first ≤ second := by
  refine ⟨fun ordered => ?_, fun ordered => Binary64.nearestInt_mono ordered⟩
  by_contra above
  have same := le_antisymm ordered (Binary64.nearestInt_mono (le_of_lt (not_le.1 above)))
  exact above (apart same).le

theorem comparesIntegers_of_apart (stored : record.getOrNull field = .number (.int held))
    (isWord : (Number.int held).IsWord) {wanted : Int} (isWordToo : (Number.int wanted).IsWord)
    (apart : nearestInt held = nearestInt wanted → held = wanted) :
    ComparesIntegers field record held wanted where
  eq := (isMatch_single_eq_int stored isWord isWordToo).trans ⟨apart, congrArg nearestInt⟩
  gte := (isMatch_single_gte_int stored isWord isWordToo).trans
    (nearestInt_le_iff_of_apart fun same => (apart same.symm).symm)
  lte := (isMatch_single_lte_int stored isWord isWordToo).trans (nearestInt_le_iff_of_apart apart)

/-- Filters by an integer answer as integer comparison says exactly if the integer does not
share its double with a different one that is held, as is so up to `2 ^ 53`; the same goes for
the integers of a list. -/
theorem comparesIntegers_iff (stored : record.getOrNull field = .number (.int held))
    (isWord : (Number.int held).IsWord) :
    (∀ wanted : Int, (Number.int wanted).IsWord →
      (ComparesIntegers field record held wanted ↔
        (nearestInt held = nearestInt wanted → held = wanted)) ∧
        (held.natAbs ≤ 0x20000000000000 → wanted.natAbs ≤ 0x20000000000000 →
          ComparesIntegers field record held wanted)) ∧
      ∀ listed : List Int, (∀ wanted ∈ listed, (Number.int wanted).IsWord) →
        (((single field .among (.array (listed.map fun wanted => .number (.int wanted)))).isMatch
          record = true ↔
          held ∈ listed) ↔ ∀ wanted ∈ listed, nearestInt held = nearestInt wanted →
          held ∈ listed) := by
  refine ⟨fun wanted isWordToo =>
    ⟨⟨fun answers same => ?_, comparesIntegers_of_apart stored isWord isWordToo⟩,
    fun small smallToo => ?_⟩, fun listed areWords => ?_⟩
  · exact answers.eq.1 ((isMatch_single_eq_int stored isWord isWordToo).2 same)
  · refine comparesIntegers_of_apart stored isWord isWordToo fun same => ?_
    rwa [Binary64.nearestInt_of_natAbs_le small, Binary64.nearestInt_of_natAbs_le smallToo] at same
  · rw [isMatch_single_among_int stored isWord areWords]
    constructor
    · exact fun answers wanted member same => answers.1 ⟨wanted, member, same⟩
    · exact fun apart =>
        ⟨fun ⟨wanted, member, same⟩ => apart wanted member same, fun member => ⟨held, member, rfl⟩⟩

end Integers

def identified (id : Int) : Json := .object [("id", .number (.int id))]

/-- The largest integer of 64 bits is told from the double next to its own. -/
theorem comparesIntegers_largest :
    (identified 0xFFFFFFFFFFFFFFFF).getOrNull "id" = .number (.int 0xFFFFFFFFFFFFFFFF) ∧
      (Number.int 0xFFFFFFFFFFFFFFFF).IsWord ∧ (Number.int 0xFFFFFFFFFFFFF800).IsWord ∧
      ComparesIntegers "id" (identified 0xFFFFFFFFFFFFFFFF) 0xFFFFFFFFFFFFFFFF 0xFFFFFFFFFFFFF800 ∧
      (single "id" .among (.array [.number (.int 0xFFFFFFFFFFFFF800)])).isMatch
        (identified 0xFFFFFFFFFFFFFFFF) = false := by
  have stored : (identified 0xFFFFFFFFFFFFFFFF).getOrNull "id" =
      .number (.int 0xFFFFFFFFFFFFFFFF) := by decide
  have isWord : (Number.int 0xFFFFFFFFFFFFFFFF).IsWord := by decide
  have isWordToo : (Number.int 0xFFFFFFFFFFFFF800).IsWord := by decide
  obtain ⟨answers, listed⟩ := comparesIntegers_iff stored isWord
  have among :=
    (listed [0xFFFFFFFFFFFFF800] (List.forall_mem_singleton.2 isWordToo)).2 (by decide +kernel)
  refine ⟨stored, isWord, isWordToo, (answers _ isWordToo).1.2 (by decide +kernel), ?_⟩
  exact Bool.eq_false_iff.2 fun matched => absurd (among.1 matched) (by decide)

/-- An identifier finds the record of another one. -/
theorem identified_found_by_neighbour :
    (single "id" .eq (.number (.int 9007199254740993))).isMatch (identified 9007199254740992) =
      true ∧
      ¬ ComparesIntegers "id" (identified 9007199254740992) 9007199254740992 9007199254740993 := by
  have found :
      (single "id" .eq (.number (.int 9007199254740993))).isMatch
        (identified 9007199254740992) = true := by
    decide +kernel
  exact ⟨found, fun answers => absurd (answers.eq.1 found) (by decide)⟩

end FilterQuery

end Backoffice
