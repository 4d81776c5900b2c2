import Backoffice.Binary64.Numeral
import Backoffice.Text.Blank
import Mathlib.Algebra.Order.Field.Power
import Mathlib.Algebra.Order.Field.Rat
import Mathlib.Data.List.Forall2
import Mathlib.Data.List.Induction
import Mathlib.Data.String.Basic
import Mathlib.Order.Compare
import Mathlib.Tactic.Linarith
import Mathlib.Tactic.Ring

/-!
The numbers that numerals stand for, and their texts.

Texts are compared character by character. That is comparing the numbers where both texts have
digits in the same places and points in the same places, and nothing else.
-/

namespace Backoffice

/-! ### Digits -/

namespace Text

theorem spell_cons (base digit : Nat) (digits : List Nat) :
    spell base (digit :: digits) = digit * base ^ digits.length + spell base digits := by
  induction digits using List.reverseRecOn with
  | nil => simp [spell]
  | append_singleton digits last inductionHypothesis =>
    rw [← List.cons_append, spell_concat, spell_concat, inductionHypothesis, List.length_append,
      List.length_singleton, pow_succ]
    ring

theorem spell_lt {base : Nat} {digits : List Nat} (below : ∀ digit ∈ digits, digit < base) :
    spell base digits < base ^ digits.length := by
  induction digits with
  | nil => simp [spell]
  | cons digit digits inductionHypothesis =>
    rw [List.forall_mem_cons] at below
    have rest := inductionHypothesis below.2
    have scaled : (digit + 1) * base ^ digits.length ≤ base * base ^ digits.length :=
      Nat.mul_le_mul_right _ below.1
    rw [spell_cons, List.length_cons, pow_succ, Nat.mul_comm _ base]
    linarith

/-- Of two digits with as many more after them, the greater one decides, and
then those that follow. -/
theorem spell_cons_lt_iff {base digit other : Nat} {digits others : List Nat}
    (sameLength : digits.length = others.length) (below : ∀ digit ∈ digits, digit < base)
    (belowToo : ∀ digit ∈ others, digit < base) :
    spell base (digit :: digits) < spell base (other :: others) ↔
      digit < other ∨ digit = other ∧ spell base digits < spell base others := by
  have small := spell_lt below
  have smallToo := spell_lt belowToo
  rw [spell_cons, spell_cons, sameLength]
  rw [sameLength] at small
  rcases Nat.lt_trichotomy digit other with less | same | more
  · have scaled : (digit + 1) * base ^ others.length ≤ other * base ^ others.length :=
      Nat.mul_le_mul_right _ less
    rw [Nat.add_mul, Nat.one_mul] at scaled
    simp only [less, true_or, iff_true]
    omega
  · subst same
    simp
  · have scaled : (other + 1) * base ^ others.length ≤ digit * base ^ others.length :=
      Nat.mul_le_mul_right _ more
    rw [Nat.add_mul, Nat.one_mul] at scaled
    simp only [not_lt_of_gt more, more.ne', false_and, or_false, iff_false]
    omega

theorem digit?_eq_some {c : Char} {digit : Nat} (isDigit : digit? c = some digit) :
    c.toNat = digit + 48 ∧ digit < 10 := by
  unfold digit? at isDigit
  split at isDigit
  · next between =>
    have lower : 48 ≤ c.toNat := between.1
    have upper : c.toNat ≤ 57 := between.2
    cases isDigit
    show c.toNat = c.toNat - 48 + 48 ∧ c.toNat - 48 < 10
    omega
  · cases isDigit

theorem ne_point {c : Char} (isDigit : (digit? c).isSome = true) : c ≠ '.' := by
  rintro rfl
  exact absurd isDigit (by decide)

theorem lt_ten_of_mem_filterMap {chars : List Char} :
    ∀ digit ∈ chars.filterMap digit?, digit < 10 := by
  intro digit member
  obtain ⟨c, _, isDigit⟩ := List.mem_filterMap.1 member
  exact (digit?_eq_some isDigit).2

/-! ### Aligned texts -/

def IsPlain (chars : List Char) : Prop := ∀ c ∈ chars, (digit? c).isSome = true ∨ c = '.'

/-- Whether two texts have digits in the same places and points in the same
places, and nothing else. -/
def Aligned (first second : List Char) : Prop :=
  List.Forall₂ (fun c d => (digit? c).isSome = true ∧ (digit? d).isSome = true ∨ c = '.' ∧
    d = '.') first second

namespace Aligned

variable {first second : List Char}

theorem symm (aligned : Aligned first second) : Aligned second first :=
  aligned.flip.imp fun _ _ => Or.imp And.symm And.symm

theorem isPlain (aligned : Aligned first second) : IsPlain first := by
  induction aligned with
  | nil => exact fun _ member => nomatch member
  | cons related _ inductionHypothesis =>
    exact List.forall_mem_cons.2 ⟨related.imp And.left And.left, inductionHypothesis⟩

theorem length_filterMap (aligned : Aligned first second) :
    (first.filterMap digit?).length = (second.filterMap digit?).length := by
  induction aligned with
  | nil => rfl
  | cons related _ inductionHypothesis =>
    rcases related with ⟨isDigit, isDigitToo⟩ | ⟨rfl, rfl⟩
    · obtain ⟨digit, found⟩ := Option.isSome_iff_exists.1 isDigit
      obtain ⟨other, foundToo⟩ := Option.isSome_iff_exists.1 isDigitToo
      rw [List.filterMap_cons_some found, List.filterMap_cons_some foundToo, List.length_cons,
        List.length_cons, inductionHypothesis]
    · exact inductionHypothesis

theorem length_dropWhile (aligned : Aligned first second) :
    (first.dropWhile (· ≠ '.')).length = (second.dropWhile (· ≠ '.')).length := by
  induction aligned with
  | nil => rfl
  | cons related rest inductionHypothesis =>
    rcases related with ⟨isDigit, isDigitToo⟩ | ⟨rfl, rfl⟩
    · rw [List.dropWhile_cons, List.dropWhile_cons, if_pos (decide_eq_true (ne_point isDigit)),
        if_pos (decide_eq_true (ne_point isDigitToo)), inductionHypothesis]
    · rw [List.dropWhile_cons_of_neg (by decide), List.dropWhile_cons_of_neg (by decide),
        List.length_cons, List.length_cons, rest.length_eq]

/-- Aligned texts stand in the order of what their digits spell. -/
theorem lt_iff (aligned : Aligned first second) :
    first < second ↔ spell 10 (first.filterMap digit?) < spell 10 (second.filterMap digit?) := by
  induction aligned with
  | nil => simp
  | @cons c d first second related rest inductionHypothesis =>
    rw [List.cons_lt_cons_iff, inductionHypothesis]
    rcases related with ⟨isDigit, isDigitToo⟩ | ⟨rfl, rfl⟩
    · obtain ⟨digit, found⟩ := Option.isSome_iff_exists.1 isDigit
      obtain ⟨other, foundToo⟩ := Option.isSome_iff_exists.1 isDigitToo
      have code := (digit?_eq_some found).1
      have codeToo := (digit?_eq_some foundToo).1
      have less : c < d ↔ digit < other := by
        show c.toNat < d.toNat ↔ digit < other
        omega
      have same : c = d ↔ digit = other := by
        rw [← Char.toNat_inj]
        omega
      rw [List.filterMap_cons_some found, List.filterMap_cons_some foundToo, less, same,
        spell_cons_lt_iff (length_filterMap rest) lt_ten_of_mem_filterMap lt_ten_of_mem_filterMap]
    · simp [show digit? '.' = none from rfl]

end Aligned

theorem isBlank_of_isPlain {chars : List Char} (plain : IsPlain chars) :
    ∀ c ∈ chars, isBlank c = false := by
  intro c member
  rcases plain c member with isDigit | rfl
  · obtain ⟨digit, found⟩ := Option.isSome_iff_exists.1 isDigit
    obtain ⟨code, small⟩ := digit?_eq_some found
    simp only [isBlank, code]
    simp
    omega
  · rfl

theorem trim_of_isPlain {chars : List Char} (plain : IsPlain chars) : trim chars = chars := by
  have kept {chars : List Char} (none : ∀ c ∈ chars, isBlank c = false) :
      dropBlanks chars = chars := by
    cases chars with
    | nil => rfl
    | cons c rest => exact List.dropWhile_cons_of_neg (by simp [none c List.mem_cons_self])
  have none := isBlank_of_isPlain plain
  rw [trim, kept none, kept fun c member => none c (List.mem_reverse.1 member),
    List.reverse_reverse]

theorem spanDigits_of_isPlain {chars : List Char} (plain : IsPlain chars) :
    spanDigits chars =
      ((chars.takeWhile (· ≠ '.')).filterMap digit?, chars.dropWhile (· ≠ '.')) := by
  induction chars with
  | nil => rfl
  | cons c rest inductionHypothesis =>
    obtain ⟨isDigit | rfl, plain⟩ := List.forall_mem_cons.1 plain
    · obtain ⟨digit, found⟩ := Option.isSome_iff_exists.1 isDigit
      have notPoint : decide (c ≠ '.') = true := decide_eq_true (ne_point isDigit)
      rw [spanDigits, found, inductionHypothesis plain, List.takeWhile_cons, if_pos notPoint,
        List.dropWhile_cons, if_pos notPoint, List.filterMap_cons_some found]
    · rfl

theorem length_filterMap_of_dropWhile_eq_nil {chars : List Char} (plain : IsPlain chars)
    (noPoint : chars.dropWhile (· ≠ '.') = []) :
    chars.takeWhile (· ≠ '.') = chars ∧ (chars.filterMap digit?).length = chars.length := by
  have all : chars.takeWhile (· ≠ '.') = chars := by
    have parts := List.takeWhile_append_dropWhile (p := (· ≠ '.')) (l := chars)
    rwa [noPoint, List.append_nil] at parts
  have taken := length_spanDigits chars
  rw [spanDigits_of_isPlain plain, all, noPoint] at taken
  exact ⟨all, taken⟩

end Text

/-! ### Numerals -/

theorem compare_eq_compare_of_lt_iff {First Second : Type} [LinearOrder First] [LinearOrder Second]
    {a b : First} {x y : Second} (below : a < b ↔ x < y) (above : b < a ↔ y < x) :
    compare a b = compare x y := by
  rcases lt_trichotomy x y with less | same | more
  · rw [compare_lt_iff_lt.2 less, compare_lt_iff_lt.2 (below.2 less)]
  · have notMore := not_lt.1 (mt above.1 same.symm.not_lt)
    have notLess := not_lt.1 (mt below.1 same.not_lt)
    rw [compare_eq_iff_eq.2 same, compare_eq_iff_eq.2 (le_antisymm notMore notLess)]
  · rw [compare_gt_iff_gt.2 more, compare_gt_iff_gt.2 (above.2 more)]

namespace Numeral

open Text

def value (numeral : Numeral) : ℚ :=
  (if numeral.negative then -1 else 1) * numeral.digits * 10 ^ numeral.exponent

theorem sign_of_isPlain {chars : List Char} (plain : IsPlain chars) :
    sign chars = (false, chars) := by
  unfold sign
  split
  · exact absurd (plain '-' List.mem_cons_self) (by decide)
  · exact absurd (plain '+' List.mem_cons_self) (by decide)
  · rfl

theorem exponent?_of_isPlain {chars : List Char} (plain : IsPlain chars) {exponent : Int}
    (reads : exponent? chars = some exponent) : chars = [] ∧ exponent = 0 := by
  cases chars with
  | nil => exact ⟨rfl, (Option.some.inj reads).symm⟩
  | cons c rest =>
    have noMark : ¬ (c = 'e' ∨ c = 'E') := by
      rintro (rfl | rfl) <;> exact absurd (plain _ List.mem_cons_self) (by decide)
    rw [exponent?, if_neg noMark] at reads
    cases reads

/-- A text of digits and points is read as the number that its digits spell, less a power of ten for
each digit after the point. -/
theorem ofChars?_of_isPlain {chars : List Char} (plain : IsPlain chars) {numeral : Numeral}
    (reads : ofChars? chars = some numeral) :
    numeral = ⟨false, spell 10 (chars.filterMap digit?),
      -((chars.dropWhile (· ≠ '.')).length - 1 : ℕ)⟩ := by
  have parts := List.takeWhile_append_dropWhile (p := (· ≠ '.')) (l := chars)
  rw [ofChars?, sign_of_isPlain plain] at reads
  simp only [spanDigits_of_isPlain plain] at reads
  cases after : chars.dropWhile (· ≠ '.') with
  | nil =>
    rw [after, (length_filterMap_of_dropWhile_eq_nil plain after).1] at reads
    obtain ⟨_, reads⟩ := Option.ite_none_left_eq_some.1 reads
    cases reads
    simp
  | cons c fraction =>
    have stopped : chars.dropWhile (· ≠ '.') ≠ [] := after ▸ List.cons_ne_nil c fraction
    obtain rfl : c = '.' := by
      have stops := List.head_dropWhile_not (fun c => decide (c ≠ '.')) stopped
      simp only [after, List.head_cons] at stops
      exact not_not.1 (of_decide_eq_false stops)
    rw [after] at parts reads
    have plainToo : IsPlain fraction := fun c member => plain c (by rw [← parts]; simp [member])
    simp only [spanDigits_of_isPlain plainToo] at reads
    obtain ⟨_, reads⟩ := Option.ite_none_left_eq_some.1 reads
    obtain ⟨exponent, marks, reads⟩ := Option.bind_eq_some_iff.1 reads
    obtain ⟨noPoint, rfl⟩ :=
      exponent?_of_isPlain (fun c member => plainToo c (List.dropWhile_subset _ member)) marks
    obtain ⟨all, length⟩ := length_filterMap_of_dropWhile_eq_nil plainToo noPoint
    cases reads
    have digits : chars.filterMap digit? =
        (chars.takeWhile (· ≠ '.')).filterMap digit? ++ fraction.filterMap digit? := by
      conv_lhs => rw [← parts, List.filterMap_append]
      rfl
    rw [all, length, digits]
    simp

theorem value_of_isPlain {chars : List Char} (plain : IsPlain chars) {numeral : Numeral}
    (reads : ofChars? chars = some numeral) :
    numeral.value =
      spell 10 (chars.filterMap digit?) * 10 ^
        (-((chars.dropWhile (· ≠ '.')).length - 1 : ℕ) : ℤ) := by
  rw [ofChars?_of_isPlain plain reads, value, if_neg Bool.false_ne_true, one_mul]

/-- Aligned texts stand in the order of their numbers. -/
theorem compare_ofList_of_aligned {first second : List Char} (aligned : Aligned first second)
    {numeral other : Numeral} (reads : ofChars? first = some numeral)
    (readsToo : ofChars? second = some other) :
    compare (String.ofList first) (String.ofList second) = compare numeral.value other.value := by
  have less {first second : List Char} (aligned : Aligned first second) {numeral other : Numeral}
      (reads : ofChars? first = some numeral) (readsToo : ofChars? second = some other) :
      String.ofList first < String.ofList second ↔ numeral.value < other.value := by
    rw [value_of_isPlain aligned.isPlain reads, value_of_isPlain aligned.symm.isPlain readsToo,
      aligned.length_dropWhile, mul_lt_mul_iff_left₀ (by positivity), Nat.cast_lt, ← aligned.lt_iff,
      String.lt_iff_toList_lt, String.toList_ofList, String.toList_ofList]
  exact compare_eq_compare_of_lt_iff (less aligned reads readsToo)
    (less aligned.symm readsToo reads)

end Numeral

end Backoffice
