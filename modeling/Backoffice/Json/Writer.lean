import Backoffice.Binary64.Shortest
import Backoffice.Json.Value

/-!
The compact text of a JSON value: no spaces, members in their order, only what must be escaped
escaped.
-/

namespace Backoffice.Json

/-- Doubles from `10 ^ leastPositional` up to, but excluding, `10 ^ endPositional` are written
without an exponent. -/
structure FloatStyle where
  leastPositional : Int
  endPositional : Int

/-- Doubles are written positionally from `0.00001` up to below `1e16`. -/
def floatStyle : FloatStyle := { leastPositional := -5, endPositional := 16 }

def FloatStyle.write (style : FloatStyle) (x : Binary64) : String :=
  let decimal := x.shortest
  let digits := Nat.toDigits 10 decimal.digits
  let leading : Int := decimal.exponent + digits.length - 1
  if style.leastPositional ≤ leading ∧ leading < style.endPositional then
    if 0 ≤ decimal.exponent then
      String.ofList (digits ++ List.replicate decimal.exponent.toNat '0') ++ ".0"
    else if 0 ≤ leading then
      String.ofList (digits.take (leading.toNat + 1)) ++ "." ++
        String.ofList (digits.drop (leading.toNat + 1))
    else
      "0." ++ String.ofList (List.replicate (-leading - 1).toNat '0' ++ digits)
  else
    let fraction := digits.drop 1
    String.ofList (digits.take 1) ++
      (if fraction.isEmpty then "" else "." ++ String.ofList fraction) ++
      "e" ++ (if leading < 0 then "-" else "+") ++ toString leading.natAbs

/-- The text of a double; zero keeps its sign. -/
def writeFloat (x : Binary64) : String :=
  (if x.negative then "-" else "") ++
    (if x.magnitude = 0 then "0.0" else floatStyle.write x)

def writeNumber : Number → String
  | .int value => toString value
  | .float value => writeFloat value

def hexDigit (value : Nat) : Char :=
  (Nat.toDigits 16 (value % 16)).headD '0'

/-- A character inside quotes: quotes, backslashes and control characters are escaped. -/
def escapeChar (c : Char) : List Char :=
  match c with
  | '"' => ['\\', '"']
  | '\\' => ['\\', '\\']
  | '\x08' => ['\\', 'b']
  | '\t' => ['\\', 't']
  | '\n' => ['\\', 'n']
  | '\x0c' => ['\\', 'f']
  | '\r' => ['\\', 'r']
  | c =>
    if c.toNat < 0x20 then ['\\', 'u', '0', '0', hexDigit (c.toNat / 16), hexDigit c.toNat]
    else [c]

def quote (text : String) : String :=
  String.ofList ('"' :: text.toList.flatMap escapeChar ++ ['"'])

mutual

def compact : Json → String
  | .null => "null"
  | .bool true => "true"
  | .bool false => "false"
  | .number value => writeNumber value
  | .string text => quote text
  | .array items => "[" ++ compactItems items ++ "]"
  | .object members => "\x7b" ++ compactMembers members ++ "\x7d"

def compactItems : List Json → String
  | [] => ""
  | [item] => compact item
  | item :: rest => compact item ++ "," ++ compactItems rest

def compactMembers : List (String × Json) → String
  | [] => ""
  | [(name, value)] => quote name ++ ":" ++ compact value
  | (name, value) :: rest => quote name ++ ":" ++ compact value ++ "," ++ compactMembers rest

end

end Backoffice.Json
