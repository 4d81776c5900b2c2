/-!
ASCII characters: decimal and hexadecimal digits, the numbers that they spell, and letters without
their case.
-/

namespace Backoffice.Text

def digit? (c : Char) : Option Nat :=
  if '0' ≤ c ∧ c ≤ '9' then some (c.toNat - '0'.toNat) else none

def hexDigit? (c : Char) : Option Nat :=
  if 'a' ≤ c ∧ c ≤ 'f' then some (c.toNat - 'a'.toNat + 10)
  else if 'A' ≤ c ∧ c ≤ 'F' then some (c.toNat - 'A'.toNat + 10)
  else digit? c

/-- The number that digits spell to a base, the most significant one first. -/
def spell (base : Nat) (digits : List Nat) : Nat :=
  digits.foldl (fun value digit => base * value + digit) 0

def spanDigits : List Char → List Nat × List Char
  | [] => ([], [])
  | c :: rest =>
    match digit? c with
    | some digit =>
      let (digits, after) := spanDigits rest
      (digit :: digits, after)
    | none => ([], c :: rest)

/-- A letter without its case; only ASCII letters lose it. -/
def smallLetter (c : Char) : Char :=
  if 'A' ≤ c ∧ c ≤ 'Z' then Char.ofNat (c.toNat + 32) else c

def smallLetters (word : String) : List Char :=
  word.toList.map smallLetter

@[simp]
theorem spell_concat (base : Nat) (digits : List Nat) (digit : Nat) :
    spell base (digits ++ [digit]) = base * spell base digits + digit := by
  simp [spell]

theorem length_spanDigits (chars : List Char) :
    (spanDigits chars).1.length + (spanDigits chars).2.length = chars.length := by
  induction chars with
  | nil => rfl
  | cons c rest inductionHypothesis =>
    simp only [spanDigits]
    split
    · simp only [List.length_cons]
      omega
    · simp

end Backoffice.Text
