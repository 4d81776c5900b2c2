import Backoffice.Json.Writer

/-!
Statements for a relational database, held in parts until they are written.

A statement is written from left to right: names are quoted, values are not written but replaced by
numbered placeholders, and everything else is fixed text or a number. So nothing that a user has
written can be taken for a part of the statement.
-/

namespace Backoffice

inductive SqlType where
  | bigint
  | doublePrecision
  | numeric
  | boolean
  | uuid
  | date
  | time
  | timestamp
  | timestamptz
  deriving DecidableEq, Repr

/-- A part of a statement. -/
inductive SqlPart where
  | fixed (text : String)
  | number (value : Nat)
  | identifier (name : String)
  | parameter (value : Json) (cast : Option SqlType)
  deriving DecidableEq, Repr

/-- A statement in parts. -/
abbrev SqlStatement := List SqlPart

namespace SqlType

def name : SqlType → String
  | bigint => "bigint"
  | doublePrecision => "double precision"
  | numeric => "numeric"
  | boolean => "boolean"
  | uuid => "uuid"
  | date => "date"
  | time => "time"
  | timestamp => "timestamp"
  | timestamptz => "timestamptz"

end SqlType

namespace SqlStatement

/-- The inside of a quoted name: a quote is written twice. -/
def doubleQuotes (chars : List Char) : List Char :=
  chars.flatMap fun c => if c = '"' then ['"', '"'] else [c]

def quoted (name : String) : List Char :=
  '"' :: (doubleQuotes name.toList ++ ['"'])

/-- The placeholder of a number, with its cast. Placeholders are numbered by words of 32 bits. -/
def placeholder (number : UInt32) (cast : Option SqlType) : List Char :=
  '$' :: (Nat.toDigits 10 number.toNat ++
    (cast.map fun type => "::".toList ++ type.name.toList).getD [])

/-- The text of a statement whose placeholders are numbered after so many. -/
def render (numbered : Nat) : SqlStatement → List Char
  | [] => []
  | .fixed text :: rest => text.toList ++ render numbered rest
  | .number value :: rest => Nat.toDigits 10 value ++ render numbered rest
  | .identifier name :: rest => quoted name ++ render numbered rest
  | .parameter _ cast :: rest =>
    placeholder (UInt32.ofNat numbered + 1) cast ++ render (numbered + 1) rest

def text (statement : SqlStatement) : String :=
  String.ofList (render 0 statement)

def parameters (statement : SqlStatement) : List Json :=
  statement.filterMap fun
    | .parameter value _ => some value
    | _ => none

def separate (separator : String) : List SqlStatement → SqlStatement
  | [] => []
  | [statement] => statement
  | statement :: rest => statement ++ .fixed separator :: separate separator rest

/-- The text that a value is bound as, or none for null. Texts are bound as they
are, other values as JSON. -/
def boundText? : Json → Option String
  | .null => none
  | .string text => some text
  | value => some value.compact

end SqlStatement

end Backoffice
