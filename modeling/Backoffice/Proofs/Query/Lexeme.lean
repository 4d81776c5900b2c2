import Backoffice.Proofs.Query.StoredColumns
import Mathlib.Data.List.Chain

/-!
Reading the text of a statement.

The text is read from the left by the rule for quoted names: a quote opens a name, two quotes in a
row inside of it stand for one, and a single quote closes it. What a legible statement is read as
are its own parts, so no name can reach beyond its quotes.
-/

namespace Backoffice

/-- What a text is read as: characters outside of quotes, and quoted names. -/
inductive Lexeme where
  | bare (char : Char)
  | quoted (name : String)
  deriving DecidableEq, Repr

namespace Lexeme

/-- Reads a text, from inside of a name of which some characters have been read, or from outside of
names. A text that ends inside of a name has no reading. -/
def scan : Option (List Char) → List Char → Option (List Lexeme)
  | none, [] => some []
  | some _, [] => none
  | none, '"' :: rest => scan (some []) rest
  | none, c :: rest => (scan none rest).map (bare c :: ·)
  | some name, '"' :: '"' :: rest => scan (some (name ++ ['"'])) rest
  | some name, '"' :: rest => (scan none rest).map (quoted (String.ofList name) :: ·)
  | some name, c :: rest => scan (some (name ++ [c])) rest

def ofText? (text : String) : Option (List Lexeme) := scan none text.toList

def bares (chars : List Char) : List Lexeme := chars.map bare

def names (lexemes : List Lexeme) : List String :=
  lexemes.filterMap fun
    | quoted name => some name
    | bare _ => none

theorem names_append (first second : List Lexeme) :
    names (first ++ second) = names first ++ names second :=
  List.filterMap_append

@[simp]
theorem names_bares (chars : List Char) : names (bares chars) = [] := by
  simp [names, bares]

theorem mem_names_iff {lexemes : List Lexeme} {name : String} :
    name ∈ names lexemes ↔ quoted name ∈ lexemes := by
  rw [names, List.mem_filterMap]
  constructor
  · rintro ⟨lexeme, member, named⟩
    cases lexeme with
    | bare c => cases named
    | quoted other =>
      cases named
      exact member
  · intro member
    exact ⟨quoted name, member, rfl⟩

@[simp]
theorem bare_mem_bares_iff {c : Char} {chars : List Char} : bare c ∈ bares chars ↔ c ∈ chars := by
  simp [bares]

theorem scan_bares {chars : List Char} (plain : '"' ∉ chars) (rest : List Char) :
    scan none (chars ++ rest) = (scan none rest).map (bares chars ++ ·) := by
  induction chars with
  | nil => simp [bares]
  | cons c chars inductionHypothesis =>
    rw [List.mem_cons, not_or] at plain
    rw [List.cons_append, scan, inductionHypothesis plain.2, Option.map_map]
    · rfl
    · intro same
      exact plain.1 same.symm

/-- A single quote closes the name. Were it followed by another one, the two
would stand for a quote. -/
theorem scan_closing (read : List Char) {rest : List Char} (apart : rest.head? ≠ some '"') :
    scan (some read) ('"' :: rest) = (scan none rest).map (quoted (String.ofList read) :: ·) := by
  rw [scan]
  intro more same
  subst same
  exact apart rfl

theorem scan_doubleQuotes (read chars rest : List Char) :
    scan (some read) (SqlStatement.doubleQuotes chars ++ rest) =
      scan (some (read ++ chars)) rest := by
  induction chars generalizing read with
  | nil => simp [SqlStatement.doubleQuotes]
  | cons c chars inductionHypothesis =>
    simp only [SqlStatement.doubleQuotes, List.flatMap_cons, List.append_assoc]
      at inductionHypothesis ⊢
    by_cases quote : c = '"'
    · -- Written twice, it is read once.
      subst quote
      rw [if_pos rfl, List.cons_append, List.cons_append, List.nil_append, scan,
        inductionHypothesis, List.append_assoc, List.singleton_append]
    · rw [if_neg quote, List.cons_append, List.nil_append, scan, inductionHypothesis,
        List.append_assoc, List.singleton_append]
      · intro _ same
        exact absurd same quote
      · exact quote

/-- Whatever characters a name has, in its quotes it is read as that name. -/
theorem scan_quoted (name : String) {rest : List Char} (apart : rest.head? ≠ some '"') :
    scan none (SqlStatement.quoted name ++ rest) = (scan none rest).map (quoted name :: ·) := by
  rw [SqlStatement.quoted, List.cons_append, scan, List.append_assoc, scan_doubleQuotes,
    List.nil_append, List.singleton_append, scan_closing _ apart, String.ofList_toList]

end Lexeme

/-! ### Legible statements -/

/-- Whether a text that begins with some characters cannot be taken for more of the
placeholder before it. -/
def endsPlaceholder : List Char → Bool
  | ' ' :: c :: _ => !c.isLower
  | c :: _ => c = ',' || c = ')'
  | [] => false

/-- What may come after a part: names and placeholders are kept apart from what follows. -/
def SqlPart.Fits : SqlPart → SqlPart → Prop
  | .fixed _, _ | .number _, _ => True
  | .identifier _, .fixed text => text ≠ ""
  | .parameter _ _, .fixed text => endsPlaceholder text.toList = true
  | .identifier _, _ | .parameter _ _, _ => False

namespace SqlStatement

structure Legible (statement : SqlStatement) : Prop where
  plain : ∀ text, .fixed text ∈ statement → '"' ∉ text.toList
  spaced : statement.IsChain SqlPart.Fits

/-- What the parts of a statement are read as, whose placeholders are numbered after so many. -/
def lexemes (numbered : Nat) : SqlStatement → List Lexeme
  | [] => []
  | .fixed text :: rest => Lexeme.bares text.toList ++ lexemes numbered rest
  | .number value :: rest => Lexeme.bares (Nat.toDigits 10 value) ++ lexemes numbered rest
  | .identifier name :: rest => .quoted name :: lexemes numbered rest
  | .parameter _ cast :: rest =>
    Lexeme.bares (placeholder (UInt32.ofNat numbered + 1) cast) ++ lexemes (numbered + 1) rest

theorem lexemes_append (numbered : Nat) (first second : SqlStatement) :
    lexemes numbered (first ++ second) =
      lexemes numbered first ++ lexemes (numbered + first.parameters.length) second := by
  induction first generalizing numbered with
  | nil => rfl
  | cons part rest inductionHypothesis =>
    cases part with
    | parameter value cast =>
      simp only [List.cons_append, lexemes, inductionHypothesis, parameters, List.filterMap_cons,
        List.length_cons, List.append_assoc]
      rw [Nat.add_right_comm, Nat.add_assoc]
    | _ =>
      simp only [List.cons_append, lexemes, inductionHypothesis, parameters, List.filterMap_cons,
        List.append_assoc]

theorem names_lexemes (numbered : Nat) (statement : SqlStatement) :
    Lexeme.names (statement.lexemes numbered) = statement.identifiers := by
  induction statement generalizing numbered with
  | nil => rfl
  | cons part rest inductionHypothesis =>
    cases part with
    | identifier name => exact congrArg (name :: ·) (inductionHypothesis numbered)
    | _ =>
      rw [lexemes, Lexeme.names_append, Lexeme.names_bares, inductionHypothesis]
      rfl

theorem Legible.tail {part : SqlPart} {rest : SqlStatement} (legible : Legible (part :: rest)) :
    rest.Legible where
  plain text member := legible.plain text (List.mem_cons_of_mem _ member)
  spaced := (List.isChain_cons.1 legible.spaced).2

theorem Legible.fits {part next : SqlPart} {rest : SqlStatement}
    (legible : Legible (part :: next :: rest)) : part.Fits next :=
  (List.isChain_cons_cons.1 legible.spaced).1

theorem not_mem_digits {c : Char} (other : c.isDigit = false) (value : Nat) :
    c ∉ Nat.toDigits 10 value := by
  intro member
  cases other.symm.trans (Nat.isDigit_of_mem_toDigits (by decide) (by decide) member)

structure Unnumbered (c : Char) : Prop where
  digit : c.isDigit = false
  marks : c ∉ ['$', ':']
  types : ∀ type : SqlType, c ∉ type.name.toList

theorem unnumbered_quote : Unnumbered '"' where
  digit := by decide
  marks := by decide
  types type := by cases type <;> decide

theorem Unnumbered.not_mem_placeholder {c : Char} (unnumbered : Unnumbered c) (number : UInt32)
    (cast : Option SqlType) : c ∉ placeholder number cast := by
  intro member
  rcases List.mem_cons.1 member with dollar | member
  · exact unnumbered.marks (by simp [dollar])
  rcases List.mem_append.1 member with digit | inCast
  · exact not_mem_digits unnumbered.digit _ digit
  · cases cast with
    | none => cases inCast
    | some type =>
      rcases List.mem_append.1 inCast with colon | inName
      · have same : c = ':' := by simpa using colon
        exact unnumbered.marks (by simp [same])
      · exact unnumbered.types type inName

theorem Unnumbered.bare_mem_lexemes_iff {c : Char} (unnumbered : Unnumbered c) {numbered : Nat}
    {statement : SqlStatement} :
    .bare c ∈ statement.lexemes numbered ↔ ∃ text, .fixed text ∈ statement ∧ c ∈ text.toList := by
  induction statement generalizing numbered with
  | nil => simp [lexemes]
  | cons part rest inductionHypothesis =>
    cases part with
    | fixed text => simp [lexemes, inductionHypothesis, or_and_right, exists_or]
    | number value => simp [lexemes, inductionHypothesis, not_mem_digits unnumbered.digit]
    | identifier name => simp [lexemes, inductionHypothesis]
    | parameter value cast => simp [lexemes, inductionHypothesis, unnumbered.not_mem_placeholder]

theorem Legible.apart {name : String} {rest : SqlStatement}
    (legible : Legible (.identifier name :: rest)) (numbered : Nat) :
    (render numbered rest).head? ≠ some '"' := by
  cases rest with
  | nil => nofun
  | cons next more =>
    have fits := legible.fits
    cases next with
    | fixed text =>
      have plain := legible.plain text (by simp)
      intro first
      rw [render, List.head?_append] at first
      cases chars : text.toList with
      | nil => exact fits (String.toList_inj.1 chars)
      | cons c _ =>
        rw [chars] at first plain
        cases first
        exact plain List.mem_cons_self
    | _ => cases fits

theorem scan_render {statement : SqlStatement} (legible : statement.Legible) (numbered : Nat) :
    Lexeme.scan none (render numbered statement) = some (statement.lexemes numbered) := by
  induction statement generalizing numbered with
  | nil => rfl
  | cons part rest inductionHypothesis =>
    have read := inductionHypothesis legible.tail
    cases part with
    | fixed text =>
      rw [render, Lexeme.scan_bares (legible.plain text List.mem_cons_self), read, lexemes,
        Option.map_some]
    | number value =>
      rw [render, Lexeme.scan_bares (not_mem_digits unnumbered_quote.digit value), read, lexemes,
        Option.map_some]
    | identifier name =>
      rw [render, Lexeme.scan_quoted name (legible.apart numbered), read, lexemes,
        Option.map_some]
    | parameter value cast =>
      rw [render, Lexeme.scan_bares (unnumbered_quote.not_mem_placeholder _ cast), read, lexemes,
        Option.map_some]

theorem ofText?_text {statement : SqlStatement} (legible : statement.Legible) :
    Lexeme.ofText? statement.text = some (statement.lexemes 0) := by
  rw [Lexeme.ofText?, text, String.toList_ofList, scan_render legible]

end SqlStatement

end Backoffice
