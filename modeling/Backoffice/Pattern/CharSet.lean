import Backoffice.Text.Ascii

/-!
Sets of characters as ordered, separated ranges of code points.
-/

namespace Backoffice.Pattern

/-- A set of code points: ranges with both ends included, in order, no two of them touching. -/
structure CharSet where
  ranges : List (Nat × Nat)
  deriving DecidableEq, Repr, Inhabited

namespace CharSet

def lastCode : Nat := 0x10FFFF

def empty : CharSet := ⟨[]⟩

def all : CharSet := ⟨[(0, lastCode)]⟩

/-- Join a range with the ranges after it that overlap or touch it; the others start a range of
their own. The ranges are ordered by their first code points. -/
def joinFrom (low high : Nat) : List (Nat × Nat) → List (Nat × Nat)
  | [] => [(low, high)]
  | (nextLow, nextHigh) :: rest =>
    if nextLow ≤ high + 1 then joinFrom low (max high nextHigh) rest
    else (low, high) :: joinFrom nextLow nextHigh rest

def joinRanges : List (Nat × Nat) → List (Nat × Nat)
  | [] => []
  | (low, high) :: rest => joinFrom low high rest

def ofRanges (ranges : List (Nat × Nat)) : CharSet :=
  let ordered := ranges.mergeSort fun left right => left.1 ≤ right.1
  ⟨joinRanges ordered⟩

def range (low high : Nat) : CharSet := ⟨[(low, high)]⟩

def single (c : Char) : CharSet := range c.toNat c.toNat

def contains (set : CharSet) (c : Char) : Bool :=
  set.ranges.any fun (low, high) => low ≤ c.toNat && c.toNat ≤ high

def union (left right : CharSet) : CharSet := ofRanges (left.ranges ++ right.ranges)

/-- The gaps between ranges, from a code point on. -/
def gaps (start : Nat) : List (Nat × Nat) → List (Nat × Nat)
  | [] => if start ≤ lastCode then [(start, lastCode)] else []
  | (low, high) :: rest =>
    if start < low then (start, low - 1) :: gaps (high + 1) rest else gaps (high + 1) rest

def complement (set : CharSet) : CharSet := ⟨gaps 0 set.ranges⟩

def inter (left right : CharSet) : CharSet :=
  (left.complement.union right.complement).complement

def diff (left right : CharSet) : CharSet := left.inter right.complement

def symmetricDiff (left right : CharSet) : CharSet := (left.diff right).union (right.diff left)

def isAscii (set : CharSet) : Bool := set.ranges.all fun (_, high) => high < 0x80

def single? (set : CharSet) : Option Char :=
  match set.ranges with
  | [(low, high)] => if low = high then some (Char.ofNat low) else none
  | _ => none

def hexCode? (digits : List Char) : Option Nat :=
  if digits.isEmpty then none else (digits.mapM Text.hexDigit?).map (Text.spell 16)

/-- The ranges that an entry of a table stands for: one code point `41`, a range `41-5a`, or every
second code point of a range `100-136/2`. -/
def entryRanges (entry : List Char) : List (Nat × Nat) :=
  let ends := entry.takeWhile (· ≠ '/')
  let low := ends.takeWhile (· ≠ '-')
  let high := (ends.drop low.length).drop 1
  match hexCode? low, hexCode? high with
  | some low, some high =>
    if entry.length = ends.length then [(low, high)]
    else (List.range ((high - low) / 2 + 1)).map fun place => (low + 2 * place, low + 2 * place)
  | some low, none => [(low, low)]
  | none, _ => []

/-- The words of a text with a space or a line break after each word; words may be empty. -/
def words : List Char → List (List Char)
  | [] => [[]]
  | c :: rest =>
    match words rest with
    | [] => [[c]]
    | word :: more =>
      if c = ' ' ∨ c = '\n' then [] :: word :: more else (c :: word) :: more

def ofTable (table : String) : CharSet :=
  ofRanges ((words table.toList).flatMap entryRanges)

/-- The tables write ranges, single characters and alternating letters. -/
example : entryRanges "41-5a".toList = [(0x41, 0x5a)] ∧ entryRanges "aa".toList = [(0xaa, 0xaa)] ∧
    entryRanges "100-104/2".toList = [(0x100, 0x100), (0x102, 0x102), (0x104, 0x104)] := by
  decide

end CharSet

end Backoffice.Pattern
