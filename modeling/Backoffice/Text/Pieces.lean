/-!
Pieces of texts: between separators, before and after the first one, without a given ending.
-/

namespace Backoffice.Text

/-- The pieces of a text between separators; there is one piece more than there are separators. -/
def splitOnChar (separator : Char) : List Char → List (List Char)
  | [] => [[]]
  | c :: rest =>
    if c = separator then [] :: splitOnChar separator rest
    else
      match splitOnChar separator rest with
      | [] => [[c]]
      | piece :: pieces => (c :: piece) :: pieces

def pieces (separator : Char) (text : String) : List String :=
  (splitOnChar separator text.toList).map String.ofList

def lastSegment (path : String) : String :=
  ((pieces '.' path).getLast?).getD ""

/-- The text before the first separator, and the text after it, if there is one. -/
def splitFirst? (separator : Char) : List Char → Option (List Char × List Char)
  | [] => none
  | c :: rest =>
    if c = separator then some ([], rest)
    else (splitFirst? separator rest).map fun (before, after) => (c :: before, after)

def hasEnding (ending chars : List Char) : Bool :=
  ending.isSuffixOf chars

def withoutEnding (ending chars : List Char) : List Char :=
  if hasEnding ending chars then chars.take (chars.length - ending.length) else chars

theorem splitOnChar_ne_nil (separator : Char) (chars : List Char) :
    splitOnChar separator chars ≠ [] := by
  cases chars with
  | nil => simp [splitOnChar]
  | cons c rest =>
    simp only [splitOnChar]
    split
    · simp
    · split <;> simp

end Backoffice.Text
