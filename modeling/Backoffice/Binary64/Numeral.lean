import Backoffice.Binary64.Basic
import Backoffice.Text.Ascii

/-!
Numerals: decimal texts of numbers, as people write them in forms and addresses.
-/

namespace Backoffice

/-- A decimal `digits * 10 ^ exponent` with a sign. -/
structure Numeral where
  negative : Bool
  digits : Nat
  exponent : Int
  deriving DecidableEq, Repr

namespace Numeral

/-- A sign at the start of a text (whether it is a minus), and the rest. -/
def sign (chars : List Char) : Bool × List Char :=
  match chars with
  | '-' :: rest => (true, rest)
  | '+' :: rest => (false, rest)
  | _ => (false, chars)

def exponent? (chars : List Char) : Option Int :=
  match chars with
  | [] => some 0
  | c :: rest =>
    if c = 'e' ∨ c = 'E' then
      let (negative, rest) := sign rest
      match Text.spanDigits rest with
      | ([], _) => none
      | (digits, []) =>
        some (if negative then -(Text.spell 10 digits : Int) else Text.spell 10 digits)
      | _ => none
    else none

/-- A numeral: a sign, digits with a point before, among or after them, and an exponent. The point
and the exponent may be missing, but not all digits. -/
def ofChars? (chars : List Char) : Option Numeral := do
  let (negative, chars) := sign chars
  let (whole, chars) := Text.spanDigits chars
  let (fraction, chars) := match chars with
    | '.' :: rest => Text.spanDigits rest
    | _ => ([], chars)
  if whole.isEmpty && fraction.isEmpty then none
  else
    let exponent ← exponent? chars
    some
      { negative
        digits := Text.spell 10 (whole ++ fraction)
        exponent := exponent - fraction.length }

def toBinary64? (numeral : Numeral) : Option Binary64 :=
  Binary64.ofDecimal? numeral.negative numeral.digits numeral.exponent

def integer? (chars : List Char) : Option Int :=
  let (negative, chars) := sign chars
  match Text.spanDigits chars with
  | ([], _) => none
  | (digits, []) => some (if negative then -(Text.spell 10 digits : Int) else Text.spell 10 digits)
  | _ => none

end Numeral

end Backoffice
