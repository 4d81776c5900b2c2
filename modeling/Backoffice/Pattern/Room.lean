import Backoffice.Pattern.Basic

/-!
How much room the states of a pattern take, which bounds the patterns that are accepted.

A matcher reads the bytes of a text, so a set of characters is written out in sequences of byte
ranges. Characters of one length make a tree of such sequences, in which a common start is shared.
-/

namespace Backoffice.Pattern

/-! ### Byte sequences -/

/-- Numbers from one to another as sequences of digit ranges to base 64, most significant digit
first: in each sequence only the last digits that differ take ranges, and the digits after them take
all values. -/
def digitRanges : Nat → Nat → Nat → List (List (Nat × Nat))
  | 0, low, high => [[(low, high)]]
  | places + 1, low, high =>
    let block := Nat.pow 64 (places + 1)
    let under (first low high : Nat) :=
      (digitRanges places low high).map fun ranges => (first, first) :: ranges
    if low / block = high / block then under (low / block) (low % block) (high % block)
    else
      let startsInside := low % block ≠ 0
      let endsInside := high % block ≠ block - 1
      let first := if startsInside then low / block + 1 else low / block
      let stop := if endsInside then high / block else high / block + 1
      (if startsInside then under (low / block) (low % block) (block - 1) else []) ++
        (if first < stop then [(first, stop - 1) :: List.replicate (places + 1) (0, 63)] else []) ++
        if endsInside then under (high / block) 0 (high % block) else []

/-- The first and the last code point of each length in bytes, with the number of bytes after the
first. Surrogates are no characters. -/
def codeLengths : List (Nat × Nat × Nat) :=
  [(0, 0x7F, 0), (0x80, 0x7FF, 1), (0x800, 0xD7FF, 2), (0xE000, 0xFFFF, 2), (0x10000, 0x10FFFF, 3)]

def byteSequences (low high : Nat) : List (List (Nat × Nat)) :=
  codeLengths.flatMap fun (first, last, places) =>
    if max low first ≤ min high last then digitRanges places (max low first) (min high last) else []

/-- The length of the common start of two sequences. Sequences of different lengths differ in their
first bytes. -/
def sharedStart (left right : List (Nat × Nat)) : Nat :=
  if left.length = right.length then
    ((left.zip right).takeWhile fun (left, right) => left = right).length
  else 0

/-- The number of byte ranges in ordered sequences, each common start counted once. -/
def sharedRanges (previous : List (Nat × Nat)) : List (List (Nat × Nat)) → Nat
  | [] => 0
  | sequence :: rest =>
    (sequence.length - sharedStart previous sequence) + sharedRanges sequence rest

/-- The Greek letters alpha to omega share the first byte of those before pi. -/
example : byteSequences 0x3B1 0x3C9 = [[(14, 14), (49, 63)], [(15, 15), (0, 9)]] ∧
    sharedRanges [] (byteSequences 0x3B1 0x3C9) = 4 := by
  decide

/-! ### Patterns -/

/-- Whether the pattern takes no characters wherever it matches, so that further rounds of it change
nothing. -/
def takesNothing : Pattern → Bool
  | empty | assert _ => true
  | oneOf _ => false
  | seq first second => first.takesNothing && second.takesNothing
  | either left right => left.takesNothing && right.takesNothing
  | repeated _ most body => most = some 0 || body.takesNothing

def stateRoom : Nat := 32

/-- The room of a set of characters. A single character is a chain of states, ASCII characters share
a state, and any other set is a choice among its byte sequences. -/
def setRoom (set : CharSet) : Nat :=
  match set.single? with
  | some c => stateRoom * c.utf8Size
  | none =>
    if set.isAscii then 2 * stateRoom + 8 * set.ranges.length
    else
      let sequences := set.ranges.flatMap fun (low, high) => byteSequences low high
      2 * stateRoom + stateRoom * sharedRanges [] sequences + 4 * sequences.length

/-- The room that the states of a pattern take, in bytes. A repetition holds a copy of its body for
each counted round, and a choice for each round that may be left out. -/
def room : Pattern → Nat
  | empty | assert _ => stateRoom
  | oneOf set => setRoom set
  | seq first second => first.room + second.room
  | either left right => 2 * stateRoom + left.room + right.room
  | repeated least most body =>
    let choice := stateRoom + 8
    if body.takesNothing then choice + body.room
    else
      match most with
      | none => choice + max least 1 * body.room
      | some most => least * body.room + (most - least) * (choice + body.room) + stateRoom

def maxRoom : Nat := 10485760

end Backoffice.Pattern
