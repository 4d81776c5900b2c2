import Backoffice.Text.Ascii

/-!
Universally unique identifiers: 32 hexadecimal digits.

They are read as 32 digits, in groups with hyphens, in groups in braces, or in groups after
`urn:uuid:`, and written in groups with small letters.
-/

namespace Backoffice

/-- An identifier: the values of its 32 hexadecimal digits. -/
structure Uuid where
  digits : List (Fin 16)
  length_digits : digits.length = 32
  deriving DecidableEq, Repr

namespace Uuid

def digit? (c : Char) : Option (Fin 16) :=
  (Text.hexDigit? c).map (Fin.ofNat 16)

def digitChar (value : Fin 16) : Char :=
  ['0', '1', '2', '3', '4', '5', '6', '7', '8', '9', 'a', 'b', 'c', 'd', 'e', 'f'].getD value '0'

@[simp]
theorem digit?_digitChar (value : Fin 16) : digit? (digitChar value) = some value := by
  decide +revert

def ofSimple? (chars : List Char) : Option Uuid :=
  match chars.mapM digit? with
  | some digits =>
    if length_digits : digits.length = 32 then some { digits, length_digits } else none
  | none => none

/-- Digits in groups of 8, 4, 4, 4 and 12 with hyphens between them. -/
def ofHyphenated? (chars : List Char) : Option Uuid :=
  if chars.length = 36 ∧ [8, 13, 18, 23].all (fun place => chars[place]? = some '-') then
    ofSimple? (chars.take 8 ++ (chars.drop 9).take 4 ++ (chars.drop 14).take 4 ++
      (chars.drop 19).take 4 ++ chars.drop 24)
  else none

def ofText? (text : String) : Option Uuid :=
  let chars := text.toList
  match chars.length with
  | 32 => ofSimple? chars
  | 36 => ofHyphenated? chars
  | 38 =>
    if chars.head? = some '\x7b' ∧ chars.getLast? = some '\x7d' then
      ofHyphenated? ((chars.drop 1).take 36)
    else none
  | 45 =>
    if (chars.take 9).map Text.smallLetter = "urn:uuid:".toList then ofHyphenated? (chars.drop 9)
    else none
  | _ => none

def toText (uuid : Uuid) : String :=
  let chars := uuid.digits.map digitChar
  String.ofList (chars.take 8 ++ '-' :: (chars.drop 8).take 4 ++ '-' :: (chars.drop 12).take 4 ++
    '-' :: (chars.drop 16).take 4 ++ '-' :: chars.drop 20)

end Uuid

end Backoffice
