import Backoffice.Pattern.CaseFolding
import Backoffice.Pattern.Room

/-!
Reading patterns.

The syntax is that of Perl without look-around and back-references: alternatives, groups, counted
repetitions, bracketed sets with ranges, nesting and set operations, classes by letter and by name,
assertions, and flags that hold to the end of their group. Text is read as characters, and a set of
bytes that are no characters is refused.
-/

namespace Backoffice.Pattern

structure Flags where
  ignoreCase : Bool := false
  multiLine : Bool := false
  dotAll : Bool := false
  crlf : Bool := false
  unicode : Bool := true
  ignoreBlanks : Bool := false
  deriving DecidableEq, Repr

structure Nested where
  pattern : Pattern
  depth : Nat

def maxNesting : Nat := 250

/-- Characters with a meaning of their own, which a backslash takes away. -/
def isMeta (c : Char) : Bool :=
  "\\.+*?()|[]\x7b\x7d^$#&-~".toList.contains c

/-- Other ASCII characters that may follow a backslash and stand for themselves. -/
def isEscapable (c : Char) : Bool :=
  isMeta c || (c.toNat < 0x80 && !c.isAlphanum && c ≠ '<' && c ≠ '>')

/-! ### Blanks -/

def skipComment : List Char → List Char
  | [] => []
  | c :: rest => if c = '\n' then rest else skipComment rest

theorem skipComment_length_le (chars : List Char) : (skipComment chars).length ≤ chars.length := by
  induction chars with
  | nil => simp [skipComment]
  | cons c rest inductionHypothesis =>
    simp only [skipComment]
    split <;> simp only [List.length_cons] <;> omega

def skipIgnored (blank : Char → Bool) (chars : List Char) : List Char :=
  match chars with
  | [] => []
  | c :: rest =>
    if blank c then skipIgnored blank rest
    else if c = '#' then
      have := skipComment_length_le rest
      skipIgnored blank (skipComment rest)
    else c :: rest
termination_by chars.length

/-- Skip blanks and comments where they do not count. -/
def skip (flags : Flags) (chars : List Char) : List Char :=
  if flags.ignoreBlanks then skipIgnored unicodeBlanks.contains chars else chars

/-! ### Numbers -/

/-- The decimal digits a text starts with, and the rest; blanks between them may be ignored. -/
def countDigits (flags : Flags) : Nat → List Char → List Nat × List Char
  | 0, chars => ([], chars)
  | fuel + 1, chars =>
    match chars with
    | c :: rest =>
      match Text.digit? c with
      | some digit =>
        let (digits, after) := countDigits flags fuel (skip flags rest)
        (digit :: digits, after)
      | none => ([], chars)
    | [] => ([], [])

def count? (flags : Flags) (chars : List Char) : Option (Nat × List Char) :=
  let chars := chars.dropWhile unicodeBlanks.contains
  match countDigits flags chars.length chars with
  | ([], _) => none
  | (digits, rest) =>
    let value := Text.spell 10 digits
    if value < 0x100000000 then
      some (value, skip flags (rest.dropWhile unicodeBlanks.contains))
    else none

def bounds? (flags : Flags) (chars : List Char) : Option (Nat × Option Nat × List Char) := do
  let (least, rest) ← count? flags (skip flags chars)
  match rest with
  | '\x7d' :: after => some (least, some least, after)
  | ',' :: rest =>
    match skip flags rest with
    | '\x7d' :: after => some (least, none, after)
    | rest =>
      let (most, rest) ← count? flags rest
      match rest with
      | '\x7d' :: after => if least ≤ most then some (least, some most, after) else none
      | _ => none
  | _ => none

def charOfCode? (code : Nat) : Option Char :=
  if code < 0xD800 ∨ (0xE000 ≤ code ∧ code < 0x110000) then some (Char.ofNat code) else none

def hexDigits? (flags : Flags) : Nat → List Char → Option (List Nat × List Char)
  | 0, chars => some ([], chars)
  | _ + 1, [] => none
  | count + 1, c :: rest => do
    let digit ← Text.hexDigit? c
    let (digits, after) ← hexDigits? flags count (skip flags rest)
    some (digit :: digits, after)

def hexBraces? (flags : Flags) : Nat → List Char → Option (List Nat × List Char)
  | 0, _ | _, [] => none
  | _ + 1, '\x7d' :: rest => some ([], skip flags rest)
  | fuel + 1, c :: rest => do
    let digit ← Text.hexDigit? c
    let (digits, after) ← hexBraces? flags fuel (skip flags rest)
    some (digit :: digits, after)

/-! ### Single items -/

/-- What a character or an escape stands for. A character written as two hexadecimal digits counts
as a byte when text is not read as Unicode. -/
inductive Item where
  | literal (c : Char) (asByte : Bool)
  | set (set : CharSet)
  | condition (condition : Assertion)

def hexItem? (flags : Flags) (count : Nat) (chars : List Char) : Option (Item × List Char) :=
  match skip flags chars with
  | '\x7b' :: rest => do
    let rest := skip flags rest
    let (digits, after) ← hexBraces? flags (rest.length + 1) rest
    let c ← if digits.isEmpty then none else charOfCode? (Text.spell 16 digits)
    some (.literal c false, after)
  | rest => do
    let (digits, after) ← hexDigits? flags count rest
    let c ← charOfCode? (Text.spell 16 digits)
    some (.literal c (count = 2), after)

/-- The text up to a closing brace, ignored blanks left out, and what follows it. -/
def upToBrace? (flags : Flags) : Nat → List Char → Option (List Char × List Char)
  | 0, _ => none
  | fuel + 1, chars =>
    match skip flags chars with
    | [] => none
    | '\x7d' :: rest => some ([], rest)
    | c :: rest => (upToBrace? flags fuel rest).map fun (name, after) => (c :: name, after)

/-- A property and its value, where a separator stands between them, and whether it negates. -/
def splitValue (name : List Char) : Option (List Char × List Char × Bool) :=
  let before (stop : Char) := name.takeWhile (· ≠ stop)
  let notEqual := before '!'
  match name.drop notEqual.length with
  | '!' :: '=' :: value => some (notEqual, value, true)
  | _ =>
    if name.contains ':' then some (before ':', name.drop ((before ':').length + 1), false)
    else if name.contains '=' then some (before '=', name.drop ((before '=').length + 1), false)
    else none

def namedItem? (flags : Flags) (negated : Bool) (chars : List Char) :
    Option (Item × List Char) := do
  let finish (negated : Bool) (set : CharSet) : Item :=
    let set := if flags.ignoreCase then set.foldCase else set
    .set (if negated then set.complement else set)
  if !flags.unicode then none
  else
    match skip flags chars with
    | '\x7b' :: rest => do
      let (name, after) ← upToBrace? flags (rest.length + 1) rest
      match splitValue name with
      | some (property, value, differs) =>
        let set ← valueSet? property value
        some (finish (negated != differs) set, after)
      | none =>
        let set ← namedSet? name
        some (finish negated set, after)
    | '\\' :: _ | [] => none
    | c :: rest => do
      let set ← category? (looseName [c])
      some (finish negated set, skip flags rest)

def edgeNamed? (name : List Char) : Option WordEdge :=
  match String.ofList name with
  | "start" => some .start
  | "end" => some .finish
  | "start-half" => some .startHalf
  | "end-half" => some .finishHalf
  | _ => none

def edgeName (flags : Flags) : Nat → List Char → List Char × List Char
  | 0, chars => ([], chars)
  | fuel + 1, chars =>
    match chars with
    | c :: rest =>
      if c.isAlpha || c = '-' then
        let (name, after) := edgeName flags fuel (skip flags rest)
        (c :: name, after)
      else ([], chars)
    | [] => ([], [])

/-- A word edge: a plain one, or one named in braces. Braces that do not start with a name belong to
a repetition. -/
def wordEdge? (flags : Flags) (chars : List Char) : Option (Item × List Char) :=
  let plain := (Item.condition (.word .boundary flags.unicode), chars)
  match chars with
  | '\x7b' :: rest =>
    match skip flags rest with
    | [] => none
    | rest =>
      match edgeName flags rest.length rest with
      | ([], _) => some plain
      | (name, '\x7d' :: after) =>
        (edgeNamed? name).map fun edge => (.condition (.word edge flags.unicode), after)
      | _ => none
  | _ => some plain

/-- A class by letter. Without Unicode its complement would hold bytes that are no characters. -/
def letterClass? (flags : Flags) (negated : Bool) (set : Bool → CharSet) : Option Item :=
  if flags.unicode then
    some (.set (if negated then (set true).complement else set true))
  else if negated then none
  else some (.set (set false))

def escape? (flags : Flags) (chars : List Char) : Option (Item × List Char) :=
  match chars with
  | [] => none
  | c :: rest =>
    let literal (c : Char) := some (Item.literal c false, rest)
    let condition (condition : Assertion) := some (Item.condition condition, rest)
    let letters (negated : Bool) (set : Bool → CharSet) :=
      (letterClass? flags negated set).map fun item => (item, rest)
    if isEscapable c then literal c
    else
      match c with
      | 'x' => hexItem? flags 2 rest
      | 'u' => hexItem? flags 4 rest
      | 'U' => hexItem? flags 8 rest
      | 'p' => namedItem? flags false rest
      | 'P' => namedItem? flags true rest
      | 'd' => letters false digits
      | 'D' => letters true digits
      | 's' => letters false blanks
      | 'S' => letters true blanks
      | 'w' => letters false wordChars
      | 'W' => letters true wordChars
      | 'a' => literal '\x07'
      | 'f' => literal '\x0c'
      | 't' => literal '\t'
      | 'n' => literal '\n'
      | 'r' => literal '\r'
      | 'v' => literal '\x0b'
      | 'A' => condition .textStart
      | 'z' => condition .textEnd
      | 'b' => wordEdge? flags rest
      | 'B' => condition (.word .inside flags.unicode)
      | '<' => condition (.word .start flags.unicode)
      | '>' => condition (.word .finish flags.unicode)
      | _ => none

/-! ### Bracketed sets -/

structure NestedSet where
  set : CharSet
  depth : Nat

inductive SetOperator where
  | both
  | without
  | oneOfTwo

/-- The items of a bracketed set read so far, last first. -/
abbrev SetItems := List NestedSet

/-- The union of items. More than one of them make a level of nesting. -/
def unionOfItems (items : SetItems) : NestedSet :=
  { set := .ofRanges (items.flatMap (·.set.ranges))
    depth := (items.map (·.depth)).foldl max 0 + (if items.length ≤ 1 then 0 else 1) }

/-- The set with all case variants where case is ignored. Without Unicode only ASCII letters have
variants. -/
def foldFor (flags : Flags) (set : CharSet) : CharSet :=
  if !flags.ignoreCase then set
  else if flags.unicode then set.foldCase
  else set.foldCase.inter (.range 0 0x7F)

/-- A pending operator with its left operand, and the items after it. -/
structure SetState where
  pending : Option (SetOperator × NestedSet) := none
  items : SetItems := []

def SetState.finish (flags : Flags) (state : SetState) : NestedSet :=
  let right := unionOfItems state.items
  match state.pending with
  | none => right
  | some (operator, left) =>
    let leftSet := foldFor flags left.set
    let rightSet := foldFor flags right.set
    { set := match operator with
        | .both => leftSet.inter rightSet
        | .without => leftSet.diff rightSet
        | .oneOfTwo => leftSet.symmetricDiff rightSet
      depth := max left.depth right.depth + 1 }

def SetState.operate (flags : Flags) (operator : SetOperator) (state : SetState) : SetState :=
  { pending := some (operator, state.finish flags) }

def itemSet? (flags : Flags) : Item → Option CharSet
  | .literal c _ => if flags.unicode || c.toNat < 0x80 then some (.single c) else none
  | .set set => some set
  | .condition _ => none

def setItem? (flags : Flags) : List Char → Option (Item × List Char)
  | [] => none
  | '\\' :: rest => escape? flags rest
  | c :: rest => some (.literal c false, rest)

/-- Whether a hyphen before a text in brackets stands for itself: so it does when a closing bracket
or another hyphen follows, ignored blanks and one number sign passed over. -/
def hyphenStands (flags : Flags) (chars : List Char) : Bool :=
  let followed (chars : List Char) : Bool := chars.head? = some ']' || chars.head? = some '-'
  if flags.ignoreBlanks then
    match chars.dropWhile unicodeBlanks.contains with
    | '#' :: rest => followed (rest.dropWhile unicodeBlanks.contains)
    | rest => followed rest
  else followed chars

def setRange? (flags : Flags) (chars : List Char) : Option (CharSet × List Char) := do
  let (first, rest) ← setItem? flags chars
  let single := (itemSet? flags first).map fun set => (set, skip flags rest)
  match skip flags rest with
  | [] => none
  | '-' :: rest =>
    if hyphenStands flags rest then single
    else do
      let (last, after) ← setItem? flags (skip flags rest)
      match first, last with
      | .literal low _, .literal high _ =>
        if low ≤ high ∧ (flags.unicode ∨ high.toNat < 0x80) then
          some (.range low.toNat high.toNat, after)
        else none
      | _, _ => none
  | _ => single

def asciiItem? (chars : List Char) : Option (Bool × CharSet × List Char) :=
  match chars with
  | ':' :: rest =>
    let (negated, rest) := match rest with
      | '^' :: rest => (true, rest)
      | rest => (false, rest)
    let name := rest.takeWhile (· ≠ ':')
    match rest.drop name.length with
    | ':' :: ']' :: after => (asciiClass? name).map fun set => (negated, set, after)
    | _ => none
  | _ => none

/-- A set with its variants, negated where it says so. Without Unicode a negated set would hold
bytes that are no characters. -/
def finishSet? (flags : Flags) (negated : Bool) (set : CharSet) : Option CharSet :=
  let set := foldFor flags set
  if !negated then some set
  else if flags.unicode then some set.complement
  else none

def leadingHyphens (flags : Flags) : Nat → List Char → SetItems × List Char
  | 0, chars => ([], chars)
  | fuel + 1, chars =>
    match chars with
    | '-' :: rest =>
      let (items, after) := leadingHyphens flags fuel (skip flags rest)
      (⟨.single '-', 0⟩ :: items, after)
    | _ => ([], chars)

/-- How a set starts: whether it is negated, and the hyphens or the closing bracket that stand for
themselves there. -/
def openSet (flags : Flags) (chars : List Char) : Bool × SetItems × List Char :=
  let chars := skip flags chars
  let (negated, chars) := match chars with
    | '^' :: rest => (true, skip flags rest)
    | chars => (false, chars)
  match leadingHyphens flags chars.length chars with
  | ([], ']' :: rest) => (negated, [⟨.single ']', 0⟩], skip flags rest)
  | (items, rest) => (negated, items, rest)

def readSet (flags : Flags) : Nat → Bool → SetState → List Char → Option (NestedSet × List Char)
  | 0, _, _, _ => none
  | fuel + 1, negated, state, chars =>
    let add (item : NestedSet) (rest : List Char) :=
      readSet flags fuel negated { state with items := item :: state.items } rest
    match skip flags chars with
    | [] => none
    | ']' :: rest => do
      let whole := state.finish flags
      let set ← finishSet? flags negated whole.set
      some (⟨set, whole.depth + 1⟩, rest)
    | '&' :: '&' :: rest => readSet flags fuel negated (state.operate flags .both) rest
    | '-' :: '-' :: rest => readSet flags fuel negated (state.operate flags .without) rest
    | '~' :: '~' :: rest => readSet flags fuel negated (state.operate flags .oneOfTwo) rest
    | '[' :: rest =>
      match asciiItem? rest with
      | some (inverted, set, after) => do
        let set ← finishSet? flags inverted set
        add ⟨set, 0⟩ after
      | none => do
        let (inverted, items, inner) := openSet flags rest
        let (nested, after) ← readSet flags fuel inverted { items } inner
        add nested after
    | chars => do
      let (set, rest) ← setRange? flags chars
      add ⟨set, 0⟩ rest

/-! ### Groups -/

/-- What a bracket after a parenthesis opens: a group with its flags, or flags for what follows. -/
inductive GroupHead where
  | group (flags : Flags)
  | directive (flags : Flags)

/-- Set or clear the flag of a letter. Greediness makes no difference to
whether there is a match. -/
def setFlag? (flags : Flags) (letter : Char) (value : Bool) : Option Flags :=
  match letter with
  | 'i' => some { flags with ignoreCase := value }
  | 'm' => some { flags with multiLine := value }
  | 's' => some { flags with dotAll := value }
  | 'U' => some flags
  | 'u' => some { flags with unicode := value }
  | 'R' => some { flags with crlf := value }
  | 'x' => some { flags with ignoreBlanks := value }
  | _ => none

/-- Flags up to a colon or a closing parenthesis. A flag stands at most once, and the sign that
clears flags has one after it. -/
def readFlags (flags : Flags) (seen : List Char) : List Char → Option (GroupHead × List Char)
  | [] => none
  | ':' :: rest => if seen.head? = some '-' then none else some (.group flags, rest)
  | ')' :: rest =>
    if seen.isEmpty || seen.head? = some '-' then none else some (.directive flags, rest)
  | letter :: rest =>
    if seen.contains letter then none
    else if letter = '-' then readFlags flags ('-' :: seen) rest
    else
      match setFlag? flags letter (!seen.contains '-') with
      | some flags => readFlags flags (letter :: seen) rest
      | none => none

def unicodeNumbers : CharSet := unionOfCategories ["Nd", "Nl", "No"]

def isGroupName : List Char → Bool
  | [] => false
  | first :: rest =>
    (first = '_' || unicodeLetters.contains first) && rest.all fun c =>
      c = '_' || c = '.' || c = '[' || c = ']' || unicodeLetters.contains c ||
        unicodeNumbers.contains c

def groupName? (chars : List Char) : Option (List Char × List Char) :=
  let name := chars.takeWhile (· ≠ '>')
  match chars.drop name.length with
  | '>' :: rest => if isGroupName name then some (name, rest) else none
  | _ => none

def groupHead? (flags : Flags) (chars : List Char) :
    Option (GroupHead × Option (List Char) × List Char) :=
  let named (chars : List Char) := do
    let (name, rest) ← groupName? chars
    some (GroupHead.group flags, some name, rest)
  match skip flags chars with
  | '?' :: '=' :: _ | '?' :: '!' :: _ | '?' :: '<' :: '=' :: _ | '?' :: '<' :: '!' :: _ => none
  | '?' :: 'P' :: '<' :: rest => named rest
  | '?' :: '<' :: rest => named rest
  | '?' :: rest => (readFlags flags [] rest).map fun (head, after) => (head, none, after)
  | rest => some (.group flags, none, rest)

/-! ### Whole patterns -/

/-- The branches of an open group: the finished ones and the items of the current one, each last
first. A directive stands as an item that cannot be repeated. -/
structure Frame where
  /-- The flags in force before the group. -/
  outer : Flags
  branches : List Nested := []
  items : List (Option Nested) := []

def Frame.branch (frame : Frame) : Nested :=
  let count := frame.items.length
  match frame.items.reverse.filterMap id with
  | [] => ⟨.empty, if count ≤ 1 then 0 else 1⟩
  | first :: rest =>
    { pattern := rest.foldl (fun pattern item => .seq pattern item.pattern) first.pattern
      depth := (rest.map (·.depth)).foldl max first.depth + (if count = 1 then 0 else 1) }

def Frame.whole (frame : Frame) : Nested :=
  match (frame.branch :: frame.branches).reverse with
  | [] => ⟨.empty, 0⟩
  | [only] => only
  | first :: rest =>
    { pattern := rest.foldl (fun pattern branch => .either pattern branch.pattern) first.pattern
      depth := (rest.map (·.depth)).foldl max first.depth + 1 }

def Frame.add (frame : Frame) (item : Nested) : Frame :=
  { frame with items := some item :: frame.items }

def Frame.repeatLast? (frame : Frame) (least : Nat) (most : Option Nat) : Option Frame :=
  match frame.items with
  | some last :: items =>
    some { frame with items := some ⟨.repeated least most last.pattern, last.depth + 1⟩ :: items }
  | _ => none

/-- Skip the question mark that makes a repetition lazy. -/
def skipLazy : List Char → List Char
  | '?' :: rest => rest
  | chars => chars

def literalPattern (flags : Flags) (c : Char) : Pattern :=
  if flags.unicode || c.toNat < 0x80 then .oneOf (foldFor flags (.single c)) else .oneOf (.single c)

def itemPattern? (flags : Flags) : Item → Option Pattern
  | .literal c asByte =>
    if asByte && !flags.unicode && 0x80 ≤ c.toNat then none else some (literalPattern flags c)
  | .set set => some (.oneOf set)
  | .condition condition => some (.assert condition)

/-- Any character, but not the end of a line unless flags say so. -/
def dot? (flags : Flags) : Option Pattern :=
  if !flags.unicode then none
  else if flags.dotAll then some (.oneOf .all)
  else if flags.crlf then some (.oneOf (CharSet.ofRanges [(0xA, 0xA), (0xD, 0xD)]).complement)
  else some (.oneOf (CharSet.single '\n').complement)

def lineCondition (flags : Flags) (atStart : Bool) : Assertion :=
  match flags.multiLine, atStart with
  | false, true => .textStart
  | false, false => .textEnd
  | true, true => .lineStart flags.crlf
  | true, false => .lineEnd flags.crlf

def single? (flags : Flags) : List Char → Option (Pattern × List Char)
  | [] => none
  | '\\' :: rest => do
    let (item, after) ← escape? flags rest
    let pattern ← itemPattern? flags item
    some (pattern, after)
  | '.' :: rest => (dot? flags).map fun pattern => (pattern, rest)
  | '^' :: rest => some (.assert (lineCondition flags true), rest)
  | '$' :: rest => some (.assert (lineCondition flags false), rest)
  | c :: rest => some (literalPattern flags c, rest)

/-- What is being read: the flags in force, the names of groups so far, the innermost open group and
those around it. -/
structure ReaderState where
  flags : Flags := {}
  names : List (List Char) := []
  frame : Frame := { outer := {} }
  enclosing : List Frame := []

def ReaderState.enter? (state : ReaderState) (head : GroupHead) (name : Option (List Char)) :
    Option ReaderState :=
  match head with
  | .directive flags =>
    some { state with flags, frame := { state.frame with items := none :: state.frame.items } }
  | .group flags =>
    if name.any state.names.contains then none
    else some
      { flags
        names := name.toList ++ state.names
        frame := { outer := state.flags }
        enclosing := state.frame :: state.enclosing }

def ReaderState.leave? (state : ReaderState) : Option ReaderState :=
  match state.enclosing with
  | [] => none
  | frame :: enclosing =>
    let whole := state.frame.whole
    some
      { state with
        flags := state.frame.outer
        frame := frame.add ⟨whole.pattern, whole.depth + 1⟩
        enclosing }

def ReaderState.nextBranch (state : ReaderState) : ReaderState :=
  { state with
    frame :=
      { state.frame with branches := state.frame.branch :: state.frame.branches, items := [] } }

/-- Read a pattern to its end. Each step takes at least one character. -/
def readFrom : Nat → ReaderState → List Char → Option Nested
  | 0, _, _ => none
  | fuel + 1, state, chars =>
    let repeatLast (least : Nat) (most : Option Nat) (rest : List Char) := do
      let frame ← state.frame.repeatLast? least most
      readFrom fuel { state with frame } (skipLazy rest)
    match skip state.flags chars with
    | [] => if state.enclosing.isEmpty then some state.frame.whole else none
    | '(' :: rest => do
      let (head, name, after) ← groupHead? state.flags rest
      let state ← state.enter? head name
      readFrom fuel state after
    | ')' :: rest => do
      let state ← state.leave?
      readFrom fuel state rest
    | '|' :: rest => readFrom fuel state.nextBranch rest
    | '[' :: rest => do
      let (negated, items, inner) := openSet state.flags rest
      let (nested, after) ← readSet state.flags (inner.length + 1) negated { items } inner
      readFrom fuel
        { state with frame := state.frame.add ⟨.oneOf nested.set, nested.depth⟩ } after
    | '?' :: rest => repeatLast 0 (some 1) rest
    | '*' :: rest => repeatLast 0 none rest
    | '+' :: rest => repeatLast 1 none rest
    | '\x7b' :: rest => do
      let (least, most, after) ← bounds? state.flags rest
      repeatLast least most (skip state.flags after)
    | chars => do
      let (pattern, rest) ← single? state.flags chars
      readFrom fuel { state with frame := state.frame.add ⟨pattern, 0⟩ } rest

/-- The pattern that a text writes, if it is one, is not nested too deeply and does
not take too much room. -/
def ofText? (text : String) : Option Pattern := do
  let chars := text.toList
  let nested ← readFrom (chars.length + 1) {} chars
  if nested.depth ≤ maxNesting ∧ nested.pattern.room ≤ maxRoom then some nested.pattern else none

end Backoffice.Pattern
