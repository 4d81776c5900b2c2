import Backoffice.Pattern.Property

/-!
Character sets by name: general categories, scripts and properties, the Unicode word characters,
digits and blanks, and the POSIX classes of ASCII characters.

Names match loosely: case, blanks, hyphens, underscores and a leading `is` do not count.
-/

namespace Backoffice.Pattern

/-- A name without what does not count when names are compared. -/
def looseName (name : List Char) : List Char :=
  let startsWithIs := match name with
    | i :: s :: _ => (i = 'i' || i = 'I') && (s = 's' || s = 'S')
    | _ => false
  let kept := (if startsWithIs then name.drop 2 else name).filterMap fun c =>
    if c = ' ' ∨ c = '_' ∨ c = '-' ∨ 0x7F < c.toNat then none
    else some (Text.smallLetter c)
  if startsWithIs && kept = ['c'] then ['i', 's', 'c'] else kept

def isNamed (name : List Char) (names : List String) : Bool :=
  names.any fun other => looseName other.toList = name

/-- The characters of a category that is no union, by its short name. -/
def leafCategory (name : String) : CharSet :=
  if name = "Cn" then
    (CharSet.ofRanges ((categoryTables.flatMap fun entry =>
      (CharSet.ofTable entry.table).ranges) ++ [(0xD800, 0xDFFF)])).complement
  else
    match categoryTables.find? (·.names.contains name) with
    | some entry => CharSet.ofTable entry.table
    | none => .empty

def unionOfCategories (names : List String) : CharSet :=
  .ofRanges (names.flatMap fun name => (leafCategory name).ranges)

def category? (name : List Char) : Option CharSet :=
  if name = "any".toList then some .all
  else if name = "ascii".toList then some (.range 0 0x7F)
  else if name = "assigned".toList then some (leafCategory "Cn").complement
  else if isNamed name ["Cn", "Unassigned"] then some (leafCategory "Cn")
  else
    match categoryGroups.find? fun group => isNamed name group.names with
    | some group => some (unionOfCategories group.parts)
    | none => (categoryTables.find? fun entry => isNamed name entry.names).map fun entry =>
        .ofTable entry.table

def script? (name : List Char) : Option CharSet :=
  (scriptTables.find? fun entry => isNamed name entry.names).map fun entry => .ofTable entry.table

def scriptExtensions? (name : List Char) : Option CharSet := do
  let entry ← scriptTables.find? fun entry => isNamed name entry.names
  let isShared (shared : SharedCharacters) := shared.scripts.any entry.names.contains
  let tables (shared : List SharedCharacters) : CharSet :=
    .ofRanges (shared.flatMap fun entry => (CharSet.ofTable entry.table).ranges)
  some (((CharSet.ofTable entry.table).diff (tables sharedCharacters)).union
    (tables (sharedCharacters.filter isShared)))

def property? (name : List Char) : Option CharSet :=
  (propertyTables.find? fun entry => isNamed name entry.names).map fun entry =>
    ((unionOfCategories entry.categories).union (.ofTable entry.added)).diff
      (.ofTable entry.removed)

/-- The set of a name on its own: a property, else a category, else a script. Three short names are
categories although properties share them. -/
def namedSet? (name : List Char) : Option CharSet :=
  let name := looseName name
  let isCategory := name = "cf".toList || name = "sc".toList || name = "lc".toList
  ((if isCategory then none else property? name).or (category? name)).or (script? name)

def valueSet? (property value : List Char) : Option CharSet :=
  let property := looseName property
  let value := looseName value
  if isNamed property ["gc", "General_Category"] then category? value
  else if isNamed property ["sc", "Script"] then script? value
  else if isNamed property ["scx", "Script_Extensions"] then scriptExtensions? value
  else none

def unicodeDigits : CharSet := leafCategory "Nd"

def unicodeBlanks : CharSet := (property? "whitespace".toList).getD .empty

def unicodeLetters : CharSet := (property? "alphabetic".toList).getD .empty

/-- Word characters of all scripts: letters, marks, digits, connectors and joiners. -/
def unicodeWordChars : CharSet :=
  (unicodeLetters.union (unionOfCategories ["Mn", "Mc", "Me", "Nd", "Pc"])).union
    ((property? "joincontrol".toList).getD .empty)

def digits (unicode : Bool) : CharSet :=
  if unicode then unicodeDigits else .range 0x30 0x39

def blanks (unicode : Bool) : CharSet :=
  if unicode then unicodeBlanks else .ofRanges [(0x9, 0xD), (0x20, 0x20)]

def wordChars (unicode : Bool) : CharSet :=
  if unicode then unicodeWordChars
  else .ofRanges [(0x30, 0x39), (0x41, 0x5A), (0x5F, 0x5F), (0x61, 0x7A)]

def asciiClass? (name : List Char) : Option CharSet :=
  let ranges? : Option (List (Nat × Nat)) := match String.ofList name with
    | "alnum" => some [(0x30, 0x39), (0x41, 0x5A), (0x61, 0x7A)]
    | "alpha" => some [(0x41, 0x5A), (0x61, 0x7A)]
    | "ascii" => some [(0, 0x7F)]
    | "blank" => some [(0x9, 0x9), (0x20, 0x20)]
    | "cntrl" => some [(0, 0x1F), (0x7F, 0x7F)]
    | "digit" => some [(0x30, 0x39)]
    | "graph" => some [(0x21, 0x7E)]
    | "lower" => some [(0x61, 0x7A)]
    | "print" => some [(0x20, 0x7E)]
    | "punct" => some [(0x21, 0x2F), (0x3A, 0x40), (0x5B, 0x60), (0x7B, 0x7E)]
    | "space" => some [(0x9, 0xD), (0x20, 0x20)]
    | "upper" => some [(0x41, 0x5A)]
    | "word" => some [(0x30, 0x39), (0x41, 0x5A), (0x5F, 0x5F), (0x61, 0x7A)]
    | "xdigit" => some [(0x30, 0x39), (0x41, 0x46), (0x61, 0x66)]
    | _ => none
  ranges?.map CharSet.ofRanges

end Backoffice.Pattern
