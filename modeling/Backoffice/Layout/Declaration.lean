import Backoffice.Error

/-!
Declared layouts: fields in nested containers.

An item is written as the name of a field or as an object with one member, the kind of the item. A
field and the containers that have nothing but items may be written in a short form; tabs stand
under `sections`, one tab under `section`.
-/

namespace Backoffice

/-- An item of a layout. -/
inductive LayoutItem where
  | field (name : String) (opts : Members)
  | stacked (items : List LayoutItem) (opts : Members)
  | inline (items : List LayoutItem) (opts : Members)
  | group (title : String) (items : List LayoutItem) (opts : Members)
  | tabs (items : List LayoutItem) (opts : Members)
  | tab (label : String) (active : Option Bool) (items : List LayoutItem) (opts : Members)
  deriving Repr, Inhabited

/-- The columns of an index, and the options of its listing. -/
structure IndexDeclaration where
  columns : List LayoutItem
  opts : Members := []
  deriving Repr, Inhabited

/-- The declared views of a resource. Others have a default layout. -/
structure LayoutDeclaration where
  resource : String
  index : Option IndexDeclaration := none
  detail : Option (List LayoutItem) := none
  form : Option (List LayoutItem) := none
  deriving Repr, Inhabited

namespace LayoutItem

/-- The options declared on the item itself. -/
def opts : LayoutItem → Members
  | field _ opts | stacked _ opts | inline _ opts | group _ _ opts | tabs _ opts
  | tab _ _ _ opts => opts

def items : LayoutItem → List LayoutItem
  | field _ _ => []
  | stacked items _ | inline items _ | group _ items _ | tabs items _ | tab _ _ items _ => items

/-- A tab with its active flag set; other items stay as they are. -/
def withActive (active : Bool) : LayoutItem → LayoutItem
  | tab label _ items opts => tab label (some active) items opts
  | item => item

def withOpt (name : String) (value : Json) : LayoutItem → LayoutItem
  | field key opts => field key (opts.insert name value)
  | stacked items opts => stacked items (opts.insert name value)
  | inline items opts => inline items (opts.insert name value)
  | group title items opts => group title items (opts.insert name value)
  | tabs items opts => tabs items (opts.insert name value)
  | tab label active items opts => tab label active items (opts.insert name value)

mutual

def toJson : LayoutItem → Json
  | field name opts =>
    .object [("field", .object [("name", .string name), ("opts", .object opts)])]
  | stacked items opts =>
    .object [("stacked", .object [("items", .array (listToJson items)), ("opts", .object opts)])]
  | inline items opts =>
    .object [("inline", .object [("items", .array (listToJson items)), ("opts", .object opts)])]
  | group title items opts =>
    .object [("group", .object [
      ("items", .array (listToJson items)), ("opts", .object opts), ("title", .string title)])]
  | tabs items opts =>
    .object [("sections", .object [("items", .array (listToJson items)), ("opts", .object opts)])]
  | tab label active items opts =>
    .object [("section", .object [
      ("active", match active with
        | some active => .bool active
        | none => .null),
      ("items", .array (listToJson items)),
      ("label", .string label),
      ("opts", .object opts)])]

def listToJson : List LayoutItem → List Json
  | [] => []
  | item :: rest => toJson item :: listToJson rest

end

def opts? (record : Record) : Option Members :=
  record.defaulted "opts" [] Document.members?

/-- A record that can only be an object. -/
def fieldBody? (members : List (String × Document)) : Option LayoutItem := do
  let record ← Record.ofMembers? ["name", "opts"] members
  let name ← record.required "name" Document.text?
  let opts ← opts? record
  some (.field name opts)

mutual

/-- An item: the name of a field, or an object whose only member is the kind of the item. -/
def ofDocument? : Document → Option LayoutItem
  | .string name => some (.field name [])
  | .object [(kind, body)] => ofBody? kind body
  | _ => none

/-- The item of a kind. A field may be a name; containers of items may be arrays of them; a group
and a tab are records, as objects or as arrays of their members. -/
def ofBody? (kind : String) : Document → Option LayoutItem
  | .string name => if kind = "field" then some (.field name []) else none
  | .array parts =>
    if kind = "stacked" then (ofList? parts).map (.stacked · [])
    else if kind = "inline" then (ofList? parts).map (.inline · [])
    else if kind = "sections" then (ofList? parts).map (.tabs · [])
    else if kind = "group" then ofGroupParts? parts
    else if kind = "section" then ofTabParts? parts
    else none
  | .object members =>
    if kind = "field" then fieldBody? members
    else if kind = "stacked" then do
      let record ← Record.ofMembers? ["items", "opts"] members
      some (.stacked (← itemsOf? members) (← opts? record))
    else if kind = "inline" then do
      let record ← Record.ofMembers? ["items", "opts"] members
      some (.inline (← itemsOf? members) (← opts? record))
    else if kind = "sections" then do
      let record ← Record.ofMembers? ["items", "opts"] members
      some (.tabs (← itemsOf? members) (← opts? record))
    else if kind = "group" then do
      let record ← Record.ofMembers? ["title", "items", "opts"] members
      let title ← record.required "title" Document.text?
      some (.group title (← itemsOf? members) (← opts? record))
    else if kind = "section" then do
      let record ← Record.ofMembers? ["label", "active", "items", "opts"] members
      let label ← record.required "label" Document.text?
      let active ← record.optional "active" Document.flag?
      some (.tab label active (← itemsOf? members) (← opts? record))
    else none
  | _ => none

/-- A group as an array: title, items and options, which may be missing. -/
def ofGroupParts? : List Document → Option LayoutItem
  | .string title :: .array items :: rest => do
    let items ← ofList? items
    match rest with
    | [] => some (.group title items [])
    | [opts] => opts.members?.map (.group title items ·)
    | _ => none
  | _ => none

/-- A tab as an array: label, active flag or null, items, and options, which may be missing. -/
def ofTabParts? : List Document → Option LayoutItem
  | .string label :: active :: .array items :: rest => do
    let active ← match active with
      | .null => some none
      | .bool active => some (some active)
      | _ => none
    let items ← ofList? items
    match rest with
    | [] => some (.tab label active items [])
    | [opts] => opts.members?.map (.tab label active items ·)
    | _ => none
  | _ => none

def itemsOf? : List (String × Document) → Option (List LayoutItem)
  | [] => none
  | (name, .array items) :: rest => if name = "items" then ofList? items else itemsOf? rest
  | (name, _) :: rest => if name = "items" then none else itemsOf? rest

def ofList? : List Document → Option (List LayoutItem)
  | [] => some []
  | document :: rest => do
    let item ← ofDocument? document
    let items ← ofList? rest
    some (item :: items)

end

/-- An item, nothing in which is unreadable. What an item is cannot be told before all of it is
read, so members that are passed over count too. -/
def read? (document : Document) : Option LayoutItem :=
  document.value?.bind fun _ => ofDocument? document

def arrayOf? (document : Document) : Option (List LayoutItem) :=
  document.list? read?

end LayoutItem

namespace IndexDeclaration

def ofDocument? (document : Document) : Option IndexDeclaration := do
  let record ← Record.ofDocument? ["columns", "opts"] document
  let columns ← record.required "columns" LayoutItem.arrayOf?
  let opts ← record.defaulted "opts" [] Document.members?
  some { columns, opts }

end IndexDeclaration

namespace LayoutDeclaration

def ofDocument? (document : Document) : Option LayoutDeclaration := do
  let record ← Record.ofDocument? ["resource", "index", "show", "form"] document
  let resource ← record.required "resource" Document.text?
  let index ← record.optional "index" IndexDeclaration.ofDocument?
  let detail ← record.optional "show" LayoutItem.arrayOf?
  let form ← record.optional "form" LayoutItem.arrayOf?
  some { resource, index, detail, form }

end LayoutDeclaration

end Backoffice
