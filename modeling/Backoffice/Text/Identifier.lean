import Backoffice.Text.Letter

/-!
Identifiers: labels made from field keys, names of embedded resources, and the snake-case spelling
of camel-case keys.
-/

namespace Backoffice.Text

/-- A label for a key: underscores become spaces, and the first letter a capital. -/
def humanize (key : String) : String :=
  match key.toList.map fun c => if c = '_' then ' ' else c with
  | [] => ""
  | first :: rest => String.ofList (toCapital first ++ rest)

/-- What joins the name of a resource and the key of a field embedded in it. -/
def embedSeparator : String := "__"

def embedName (parent field : String) : String :=
  parent ++ embedSeparator ++ field

def beforeSeparator : List Char → List Char
  | '_' :: '_' :: _ => []
  | c :: rest => c :: beforeSeparator rest
  | [] => []

def hasSeparator (name : String) : Bool :=
  beforeSeparator name.toList ≠ name.toList

def embedRoot (name : String) : String :=
  String.ofList (beforeSeparator name.toList)

/-- The snake-case spelling of characters after the first: each capital is written small after an
underscore. -/
def snakeTail (chars : List Char) : List Char :=
  chars.flatMap fun c => if isUppercase c then '_' :: toSmall c else [c]

/-- The snake-case spelling of an identifier; a capital at its start gets no underscore. -/
def snakeCase (identifier : String) : String :=
  match identifier.toList with
  | [] => ""
  | first :: rest =>
    String.ofList ((if isUppercase first then toSmall first else [first]) ++ snakeTail rest)

end Backoffice.Text
