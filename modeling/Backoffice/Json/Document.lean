import Backoffice.Json.Value

/-!
JSON as it stands in a text: members in the order written, repeated names kept, and literals that
are well formed but stand for no value marked as such.

Declarations are read from documents, because a repeated member is an error in a record of known
members and harmless in a free-form object, and because an unreadable literal only matters to a
reader that looks at it. A record is an object, or an array of its members in their declared order.
-/

namespace Backoffice

/-- A JSON text, parsed. -/
inductive Document where
  | null
  | bool (value : Bool)
  | number (value : Number)
  | string (text : String)
  | array (items : List Document)
  | object (members : List (String × Document))
  /-- A number beyond the range of doubles, a string with half a surrogate pair, a container nested
  too deeply, or an object with a name that cannot be read. -/
  | unreadable
  deriving Repr, Inhabited

namespace Document

mutual

def ofJson : Json → Document
  | .null => .null
  | .bool value => .bool value
  | .number value => .number value
  | .string text => .string text
  | .array items => .array (ofItems items)
  | .object members => .object (ofMembers members)

def ofItems : List Json → List Document
  | [] => []
  | item :: rest => ofJson item :: ofItems rest

def ofMembers : List (String × Json) → List (String × Document)
  | [] => []
  | (name, value) :: rest => (name, ofJson value) :: ofMembers rest

end

mutual

/-- The value of a document, if all of it can be read. Members are put into order, and of two
members of one name the last counts. -/
def value? : Document → Option Json
  | .null => some .null
  | .bool value => some (.bool value)
  | .number value => some (.number value)
  | .string text => some (.string text)
  | .array items => (itemValues? items).map .array
  | .object members => (memberValues? members).map fun members => .object (Table.ofList members)
  | .unreadable => none

def itemValues? : List Document → Option (List Json)
  | [] => some []
  | item :: rest => do
    let value ← value? item
    let values ← itemValues? rest
    some (value :: values)

def memberValues? : List (String × Document) → Option (List (String × Json))
  | [] => some []
  | (name, document) :: rest => do
    let value ← value? document
    let values ← memberValues? rest
    some ((name, value) :: values)

end

def text? : Document → Option String
  | .string text => some text
  | _ => none

def flag? : Document → Option Bool
  | .bool value => some value
  | _ => none

/-- A whole number from zero to a bound, written without point or exponent. -/
def natural? (bound : Nat) : Document → Option Nat
  | .number (.int value) => if 0 ≤ value ∧ value ≤ bound then some value.toNat else none
  | _ => none

def word32? : Document → Option Nat := natural? 0xFFFFFFFF

def byte? : Document → Option Nat := natural? 0xFF

def list? {Item : Type} (read : Document → Option Item) : Document → Option (List Item)
  | .array items => items.mapM read
  | _ => none

def members? : Document → Option Members
  | .object members => (memberValues? members).map Table.ofList
  | _ => none

/-- One of several names, written as a string or as an object whose only member has that name and
holds null. -/
def name? {Item : Type} (read : String → Option Item) : Document → Option Item
  | .string name => read name
  | .object [(name, .null)] => read name
  | _ => none

end Document

abbrev Record := List (String × Document)

namespace Record

def get? (record : Record) (name : String) : Option Document :=
  match record with
  | [] => none
  | (other, document) :: rest => if other = name then some document else get? rest name

def required {Item : Type} (record : Record) (name : String) (read : Document → Option Item) :
    Option Item :=
  (record.get? name).bind read

/-- A member that may be missing or null. -/
def optional {Item : Type} (record : Record) (name : String) (read : Document → Option Item) :
    Option (Option Item) :=
  match record.get? name with
  | none | some .null => some none
  | some document => (read document).map some

def defaulted {Item : Type} (record : Record) (name : String) (missing : Item)
    (read : Document → Option Item) : Option Item :=
  match record.get? name with
  | none => some missing
  | some document => read document

/-- The named members of an object, none of them written twice. Members of other names are left
unread. -/
def ofMembers? (names : List String) (members : List (String × Document)) : Option Record :=
  if names.all fun name => members.countP (fun member => member.1 = name) ≤ 1 then some members
  else none

/-- A record with the given members, from an object or from an array in their order; members at the
end of the array may be missing. -/
def ofDocument? (names : List String) : Document → Option Record
  | .object members => ofMembers? names members
  | .array items => if items.length ≤ names.length then some (names.zip items) else none
  | _ => none

end Record

end Backoffice
