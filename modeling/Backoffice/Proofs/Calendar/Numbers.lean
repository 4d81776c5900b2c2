import Backoffice.Calendar.Reader
import Backoffice.Proofs.Text.Numerals

/-!
Numbers in dates and times: a number that was written with leading zeros is read where its digits
end, or where no more of them are taken.
-/

namespace Backoffice

open Text

/-! ### Digits that are written -/

theorem Text.digit?_of_isDigit {c : Char} (isDigit : c.isDigit = true) :
    digit? c = some (c.toNat - '0'.toNat) := by
  simp only [Char.isDigit, ge_iff_le, Bool.and_eq_true, decide_eq_true_eq] at isDigit
  exact if_pos isDigit

theorem Text.foldl_filterMap_digit? {chars : List Char} (digits : ∀ c ∈ chars, c.isDigit = true)
    (start : Nat) :
    (chars.filterMap digit?).foldl (fun value digit => 10 * value + digit) start =
      Nat.ofDigitChars 10 chars start := by
  induction chars generalizing start with
  | nil => rfl
  | cons c rest inductionHypothesis =>
    rw [List.forall_mem_cons] at digits
    rw [List.filterMap_cons_some (digit?_of_isDigit digits.1), List.foldl_cons,
      inductionHypothesis digits.2, Nat.ofDigitChars_cons]

theorem Text.length_filterMap_digit? {chars : List Char} (digits : ∀ c ∈ chars, c.isDigit = true) :
    (chars.filterMap digit?).length = chars.length :=
  List.filterMap_length_eq_length.2 fun c member => by rw [digit?_of_isDigit (digits c member)]; rfl

variable {width value limit : Nat} {rest : List Char}

theorem isDigit_of_mem_padded : ∀ c ∈ padded width value, c.isDigit = true := by
  intro c member
  rcases List.mem_append.1 member with zero | digit
  · rw [(List.mem_replicate.1 zero).2]
    rfl
  · exact Nat.isDigit_of_mem_toDigits (by decide) (by decide) digit

theorem length_filterMap_padded (width value : Nat) :
    ((padded width value).filterMap digit?).length = (padded width value).length :=
  length_filterMap_digit? isDigit_of_mem_padded

theorem spell_padded : spell 10 ((padded width value).filterMap digit?) = value := by
  rw [spell, foldl_filterMap_digit? isDigit_of_mem_padded, padded, Nat.ofDigitChars_append]
  simp

theorem padded_ne_nil : padded width value ≠ [] := by
  simp [padded]

theorem length_padded (fits : value < 10 ^ width) (positive : 0 < width) :
    (padded width value).length = width := by
  have short := (Nat.length_toDigits_le_iff (b := 10) (n := value) (by decide) positive).2 fits
  simp only [padded, List.length_append, List.length_replicate]
  omega

theorem padded_append_ne_cons {c : Char} (notDigit : c.isDigit = false) {more : List Char} :
    padded width value ++ rest ≠ c :: more := by
  intro same
  cases written : padded width value with
  | nil => exact padded_ne_nil written
  | cons first digits =>
    have isDigit : first.isDigit = true :=
      isDigit_of_mem_padded first (written ▸ List.mem_cons_self)
    rw [written, List.cons_append, List.cons.injEq] at same
    rw [same.1, notDigit] at isDigit
    cases isDigit

theorem dropBlanks_padded :
    dropBlanks (padded width value ++ rest) = padded width value ++ rest := by
  cases written : padded width value with
  | nil => exact absurd written padded_ne_nil
  | cons c digits =>
    have isDigit : c.isDigit = true := isDigit_of_mem_padded c (written ▸ List.mem_cons_self)
    have plain : IsPlain [c] := by simp [IsPlain, digit?_of_isDigit isDigit]
    have notBlank : isBlank c = false := isBlank_of_isPlain plain c List.mem_cons_self
    rw [List.cons_append, dropBlanks, List.dropWhile_cons, notBlank, if_neg Bool.false_ne_true]

/-! ### Digits that are read -/

def Text.StopsDigits (rest : List Char) : Prop := ∀ c ∈ rest.head?, digit? c = none

theorem Text.spanDigits_of_stops (stops : StopsDigits rest) : spanDigits rest = ([], rest) := by
  cases rest with
  | nil => rfl
  | cons c rest => rw [spanDigits, stops c rfl]

theorem Text.spanDigits_append {chars : List Char} (digits : ∀ c ∈ chars, c.isDigit = true)
    (stops : StopsDigits rest) : spanDigits (chars ++ rest) = (chars.filterMap digit?, rest) := by
  induction chars with
  | nil => exact spanDigits_of_stops stops
  | cons c chars inductionHypothesis =>
    rw [List.forall_mem_cons] at digits
    have isDigit := digit?_of_isDigit digits.1
    rw [List.cons_append, spanDigits, isDigit, inductionHypothesis digits.2,
      List.filterMap_cons_some isDigit]

theorem Text.lt_ten_of_mem_spanDigits (chars : List Char) :
    ∀ digit ∈ (spanDigits chars).1, digit < 10 := by
  induction chars with
  | nil => exact nofun
  | cons c rest inductionHypothesis =>
    cases reads : digit? c with
    | none => simp [spanDigits, reads]
    | some digit =>
      rw [spanDigits, reads]
      exact List.forall_mem_cons.2 ⟨(digit?_eq_some reads).2, inductionHypothesis⟩

namespace Calendar

theorem lt_of_fixed?_eq_some {chars : List Char} (reads : fixed? width chars = some (value, rest)) :
    value < 10 ^ width := by
  obtain ⟨length, same⟩ := Option.ite_none_right_eq_some.1 reads
  have below := spell_lt (lt_ten_of_mem_spanDigits (chars.take width))
  rw [length] at below
  cases same
  exact below

theorem takeDigits_append {chars : List Char} (digits : ∀ c ∈ chars, c.isDigit = true)
    (fits : chars.length ≤ limit) (ends : chars.length = limit ∨ StopsDigits rest) :
    takeDigits limit (chars ++ rest) = (chars.filterMap digit?, rest) := by
  have stops : StopsDigits (rest.take (limit - chars.length)) := by
    rcases ends with full | stops
    · rw [full, Nat.sub_self, List.take_zero]
      exact nofun
    · intro c first
      rw [List.head?_take] at first
      split at first
      · cases first
      · exact stops c first
  rw [takeDigits, List.take_append, List.take_of_length_le fits, spanDigits_append digits stops]
  simp only [length_filterMap_digit? digits, List.drop_left]

theorem number?_padded (fits : (padded width value).length ≤ limit)
    (ends : (padded width value).length = limit ∨ StopsDigits rest) :
    number? limit (padded width value ++ rest) = some (value, rest) := by
  rw [number?, takeDigits_append isDigit_of_mem_padded fits ends]
  have spelled : spell 10 ((padded width value).filterMap digit?) = value := spell_padded
  cases digits : (padded width value).filterMap digit? with
  | nil =>
    have none := length_filterMap_padded width value
    rw [digits] at none
    exact absurd (List.length_eq_zero_iff.1 none.symm) padded_ne_nil
  | cons digit others =>
    rw [digits] at spelled
    exact congrArg (fun value => some (value, rest)) spelled

theorem fixed?_padded (fits : value < 10 ^ width) (positive : 0 < width) :
    fixed? width (padded width value ++ rest) = some (value, rest) := by
  have length := length_padded fits positive
  rw [fixed?, takeDigits_append isDigit_of_mem_padded length.le (.inl length)]
  simp only [length_filterMap_padded, length, if_true, spell_padded]

theorem fixed?_eq_none (stops : StopsDigits rest) (positive : 0 < width) :
    fixed? width rest = none := by
  have taken : takeDigits width ([] ++ rest) = ([], rest) :=
    takeDigits_append nofun (Nat.zero_le _) (.inr stops)
  rw [fixed?, ← List.nil_append rest, taken]
  exact if_neg positive.ne

theorem short?_padded (fits : value < 100) :
    short? (padded 2 value ++ rest) = some (value, rest) := by
  have length : (padded 2 value).length = 2 := length_padded fits (by decide)
  rw [short?, dropBlanks_padded, number?_padded length.le (.inl length)]

end Calendar

end Backoffice
