import Backoffice.Pattern.Lookup

/-!
Patterns over texts, and the search for a match anywhere in a text.

A search keeps the set of positions that a pattern can reach from a set of positions, so it needs no
backtracking and always ends.
-/

namespace Backoffice

/-- Where a word edge is looked for: between a word character and another, not there, at the start
or the end of a word, or on one side only. -/
inductive WordEdge where
  | boundary
  | inside
  | start
  | finish
  | startHalf
  | finishHalf
  deriving DecidableEq, Repr

/-- Conditions on a position. Lines may also end in a carriage return. -/
inductive Assertion where
  | textStart
  | textEnd
  | lineStart (crlf : Bool)
  | lineEnd (crlf : Bool)
  | word (edge : WordEdge) (unicode : Bool)
  deriving DecidableEq, Repr

inductive Pattern where
  | empty
  | oneOf (set : Pattern.CharSet)
  | assert (condition : Assertion)
  | seq (first second : Pattern)
  | either (left right : Pattern)
  | repeated (least : Nat) (most : Option Nat) (body : Pattern)
  deriving Repr, Inhabited

namespace Assertion

/-- Whether a condition holds between two neighbouring characters of a text, either of which is
missing at an end of the text. -/
def holds (condition : Assertion) (before after : Option Char) : Bool :=
  match condition with
  | textStart => before.isNone
  | textEnd => after.isNone
  | lineStart false => before.isNone || before = some '\n'
  | lineEnd false => after.isNone || after = some '\n'
  | lineStart true =>
    before.isNone || before = some '\n' || (before = some '\r' && after ≠ some '\n')
  | lineEnd true =>
    after.isNone || after = some '\r' || (after = some '\n' && before ≠ some '\r')
  | word edge unicode =>
    let inWord (c : Option Char) : Bool := c.any (Pattern.wordChars unicode).contains
    match edge with
    | .boundary => inWord before != inWord after
    | .inside => inWord before == inWord after
    | .start => !inWord before && inWord after
    | .finish => inWord before && !inWord after
    | .startHalf => !inWord before
    | .finishHalf => !inWord after

end Assertion

namespace Pattern

/-- Positions in order, without repetitions, that are in one list or the other. -/
def joinPositions (left right : List Nat) : List Nat :=
  left ++ right.filter fun position => !left.contains position

/-- Take a step a number of times, as long as it changes anything. -/
def times (step : List Nat → List Nat) : Nat → List Nat → List Nat
  | 0, positions => positions
  | count + 1, positions =>
    let reached := step positions
    if reached = positions then positions else times step count reached

/-- Everything reached in at most a number of steps, from the positions reached last and those
reached before. -/
def within (step : List Nat → List Nat) : Nat → List Nat → List Nat → List Nat
  | 0, _, reached => reached
  | count + 1, newest, reached =>
    match (step newest).filter fun position => !reached.contains position with
    | [] => reached
    | found => within step count found (joinPositions reached found)

/-- The positions that a match can end at when it starts at one of some positions. -/
def ends (text : Array Char) : Pattern → List Nat → List Nat
  | empty, starts => starts
  | oneOf set, starts =>
    starts.filterMap fun position =>
      match text[position]? with
      | some c => if set.contains c then some (position + 1) else none
      | none => none
  | assert condition, starts =>
    starts.filter fun position =>
      condition.holds (if position = 0 then none else text[position - 1]?) text[position]?
  | seq first second, starts => ends text second (ends text first starts)
  | either left right, starts => joinPositions (ends text left starts) (ends text right starts)
  | repeated least most body, starts =>
    let started := times (ends text body) least starts
    within (ends text body) ((most.getD (least + text.size + 1)) - least) started started

def matchesIn (pattern : Pattern) (text : String) : Bool :=
  let chars := text.toList.toArray
  !(pattern.ends chars (List.range (chars.size + 1))).isEmpty

end Pattern

end Backoffice
