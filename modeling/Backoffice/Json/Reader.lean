import Backoffice.Json.Document
import Backoffice.Text.Ascii

/-!
Reading JSON texts.

The grammar is the strict one: no leading zeros, no trailing commas, no control characters in
strings, nothing but blanks around the value. Containers nested more than `maxDepth` deep stand for
no value.
-/

namespace Backoffice.Json

def maxDepth : Nat := 127

def skipBlanks : List Char → List Char
  | c :: rest => if c = ' ' ∨ c = '\t' ∨ c = '\n' ∨ c = '\r' then skipBlanks rest else c :: rest
  | [] => []

/-! ### Strings -/

/-- A piece of a string literal: a character as it stands, or an escaped code unit. -/
inductive StringUnit where
  | char (c : Char)
  | escaped (unit : Nat)

def escapeLetter? : Char → Option Char
  | '"' => some '"'
  | '\\' => some '\\'
  | '/' => some '/'
  | 'b' => some '\x08'
  | 'f' => some '\x0c'
  | 'n' => some '\n'
  | 'r' => some '\r'
  | 't' => some '\t'
  | _ => none

def readUnits : List Char → Option (List StringUnit × List Char)
  | [] => none
  | '"' :: rest => some ([], rest)
  | '\\' :: 'u' :: a :: b :: c :: d :: rest => do
    let digits ← [a, b, c, d].mapM Text.hexDigit?
    let (units, after) ← readUnits rest
    some (.escaped (Text.spell 16 digits) :: units, after)
  | '\\' :: letter :: rest => do
    let c ← escapeLetter? letter
    let (units, after) ← readUnits rest
    some (.char c :: units, after)
  | c :: rest =>
    if c.toNat < 0x20 then none
    else do
      let (units, after) ← readUnits rest
      some (.char c :: units, after)

/-- The characters of a string literal. Escaped surrogates must come in pairs. -/
def joinUnits : List StringUnit → Option (List Char)
  | [] => some []
  | .char c :: rest => (joinUnits rest).map (c :: ·)
  | .escaped high :: .escaped low :: rest =>
    if 0xD800 ≤ high ∧ high < 0xDC00 then
      if 0xDC00 ≤ low ∧ low < 0xE000 then
        (joinUnits rest).map
          (Char.ofNat (0x10000 + (high - 0xD800) * 0x400 + (low - 0xDC00)) :: ·)
      else none
    else if 0xDC00 ≤ high ∧ high < 0xE000 then none
    else (joinUnits (.escaped low :: rest)).map (Char.ofNat high :: ·)
  | .escaped unit :: rest =>
    if 0xD800 ≤ unit ∧ unit < 0xE000 then none
    else (joinUnits rest).map (Char.ofNat unit :: ·)

/-- The text of a string literal after its opening quote, `none` when it stands for no text. -/
def readString (chars : List Char) : Option (Option String × List Char) :=
  (readUnits chars).map fun (units, after) => ((joinUnits units).map String.ofList, after)

/-! ### Numbers -/

structure NumberLiteral where
  negative : Bool
  whole : List Nat
  fraction : Option (List Nat)
  exponent : Option (Bool × List Nat)

/-- The whole part of a number: a zero on its own, or digits that start with another one. -/
def readWhole? (chars : List Char) : Option (List Nat × List Char) :=
  match Text.spanDigits chars with
  | ([], _) | (0 :: _ :: _, _) => none
  | found => some found

def readFraction? : List Char → Option (Option (List Nat) × List Char)
  | '.' :: rest =>
    match Text.spanDigits rest with
    | ([], _) => none
    | (digits, after) => some (some digits, after)
  | chars => some (none, chars)

/-- The exponent (whether it is negative, and its digits), if there is one. -/
def readExponent? (chars : List Char) : Option (Option (Bool × List Nat) × List Char) :=
  let unsigned (negative : Bool) (chars : List Char) :=
    match Text.spanDigits chars with
    | ([], _) => none
    | (digits, after) => some (some (negative, digits), after)
  match chars with
  | 'e' :: '-' :: rest | 'E' :: '-' :: rest => unsigned true rest
  | 'e' :: '+' :: rest | 'E' :: '+' :: rest => unsigned false rest
  | 'e' :: rest | 'E' :: rest => unsigned false rest
  | chars => some (none, chars)

def readNumber? (chars : List Char) : Option (NumberLiteral × List Char) := do
  let (negative, chars) := match chars with
    | '-' :: rest => (true, rest)
    | chars => (false, chars)
  let (whole, chars) ← readWhole? chars
  let (fraction, chars) ← readFraction? chars
  let (exponent, chars) ← readExponent? chars
  some ({ negative, whole, fraction, exponent }, chars)

/-- Extend a significand by digits while it fits 64 bits; also the number of digits left out. -/
def extendSignificand (significand : Nat) : List Nat → Nat × Nat
  | [] => (significand, 0)
  | digit :: rest =>
    if significand * 10 + digit < 0x10000000000000000
      then extendSignificand (significand * 10 + digit) rest
    else (significand, rest.length + 1)

def powerOfTen? (exponent : Nat) : Option Binary64 := Binary64.ofDecimal? false 1 exponent

/-- Scale a double by a power of ten, rounding at each step; `none` beyond the largest double. -/
def scale? (x : Binary64) (exponent : Int) : Option Binary64 :=
  if 0 ≤ exponent then
    if exponent ≤ 308 then (powerOfTen? exponent.toNat).bind x.mul?
    else if x.magnitude = 0 then some x
    else none
  else if -308 ≤ exponent then (powerOfTen? (-exponent).toNat).bind x.div?
  else if x.magnitude = 0 then some x
  else ((powerOfTen? 308).bind x.div?).bind fun scaled => scale? scaled (exponent + 308)
termination_by (-exponent).toNat
decreasing_by omega

def maxExponent : Nat := 0x7FFFFFFF

namespace NumberLiteral

/-- The double of a literal: a significand of at most 64 bits, rounded, then scaled by a power of
ten with a second rounding. -/
def toBinary64? (literal : NumberLiteral) : Option Binary64 := do
  let (whole, dropped) := extendSignificand 0 literal.whole
  let fraction := literal.fraction.getD []
  let (significand, unread) := extendSignificand whole fraction
  let shift : Int := dropped - (fraction.length - unread : Nat)
  let (negativeExponent, exponentDigits) := literal.exponent.getD (false, [])
  let exponent := Text.spell 10 exponentDigits
  if maxExponent < exponent then
    if negativeExponent || significand = 0 then some (.zero literal.negative) else none
  else
    let start ← Binary64.ofInt? significand
    let scaled ← scale? start (if negativeExponent then shift - exponent else shift + exponent)
    some { scaled with negative := literal.negative }

/-- The number of a literal. Without point and exponent it is an integer when 64 bits hold it; minus
zero is a double. -/
def value? (literal : NumberLiteral) : Option Number :=
  let whole := Text.spell 10 literal.whole
  if literal.fraction.isNone && literal.exponent.isNone &&
      (if literal.negative then 0 < whole && whole ≤ 0x8000000000000000
        else whole < 0x10000000000000000) then
    some (.int (if literal.negative then -whole else whole))
  else literal.toBinary64?.map .float

end NumberLiteral

/-! ### Values -/

def atDepth (depth : Nat) (document : Document) : Document :=
  if depth < maxDepth then document else .unreadable

def objectOf (members : List (Option String × Document)) : Document :=
  match members.mapM fun (name, document) => name.map fun name => (name, document) with
  | some members => .object members
  | none => .unreadable

mutual

/-- A value at the start of a text, and what follows it. `depth` counts the containers around it.
The fuel bounds the number of nested calls; each of them is paid for by a character. -/
def readValue (fuel depth : Nat) (chars : List Char) : Option (Document × List Char) :=
  match fuel with
  | 0 => none
  | fuel + 1 =>
    match skipBlanks chars with
    | 'n' :: 'u' :: 'l' :: 'l' :: rest => some (.null, rest)
    | 't' :: 'r' :: 'u' :: 'e' :: rest => some (.bool true, rest)
    | 'f' :: 'a' :: 'l' :: 's' :: 'e' :: rest => some (.bool false, rest)
    | '"' :: rest =>
      (readString rest).map fun (text, after) =>
        ((text.map Document.string).getD .unreadable, after)
    | '[' :: rest =>
      match skipBlanks rest with
      | ']' :: after => some (atDepth depth (.array []), after)
      | rest => (readItems fuel (depth + 1) rest).map fun (items, after) =>
        (atDepth depth (.array items), after)
    | '\x7b' :: rest =>
      match skipBlanks rest with
      | '\x7d' :: after => some (atDepth depth (.object []), after)
      | rest => (readMembers fuel (depth + 1) rest).map fun (members, after) =>
        (atDepth depth (objectOf members), after)
    | rest =>
      (readNumber? rest).map fun (literal, after) =>
        ((literal.value?.map Document.number).getD .unreadable, after)

def readItems (fuel depth : Nat) (chars : List Char) : Option (List Document × List Char) :=
  match fuel with
  | 0 => none
  | fuel + 1 => do
    let (item, rest) ← readValue fuel depth chars
    match skipBlanks rest with
    | ']' :: after => some ([item], after)
    | ',' :: rest =>
      let (items, after) ← readItems fuel depth rest
      some (item :: items, after)
    | _ => none

def readMembers (fuel depth : Nat) (chars : List Char) :
    Option (List (Option String × Document) × List Char) :=
  match fuel with
  | 0 => none
  | fuel + 1 =>
    match skipBlanks chars with
    | '"' :: rest => do
      let (name, rest) ← readString rest
      match skipBlanks rest with
      | ':' :: rest =>
        let (document, rest) ← readValue fuel depth rest
        match skipBlanks rest with
        | '\x7d' :: after => some ([(name, document)], after)
        | ',' :: rest =>
          let (members, after) ← readMembers fuel depth rest
          some ((name, document) :: members, after)
        | _ => none
      | _ => none
    | _ => none

end

end Json

def Document.ofText? (text : String) : Option Document := do
  let chars := text.toList
  let (document, rest) ← Json.readValue (2 * chars.length + 2) 0 chars
  if (Json.skipBlanks rest).isEmpty then some document else none

end Backoffice
