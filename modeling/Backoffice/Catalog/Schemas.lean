import Backoffice.Operation.Logical
import Backoffice.Text.Pieces

/-!
Catalogs of plain schemas and of the functions that contexts expose.

Functions are tied to schemas by their names: a verb for what they do, an underscore, and the
singular or plural noun of a schema, with an ending where they return pages. A function may also say
its schema and its kind.
-/

namespace Backoffice

/-- A schema with its fields and associations. -/
structure Schema where
  name : SchemaName
  /-- The noun for one entity, instead of the one made from the name. -/
  singular : Option String := none
  /-- The noun for several entities, instead of the one made from the singular. -/
  plural : Option String := none
  fields : List Attribute
  associations : List Relationship := []
  deriving DecidableEq, Repr

/-- A function of a context. -/
structure ContextFunction where
  name : String
  arity : Nat
  schema : Option SchemaName := none
  kind : Option ActionKind := none
  deriving DecidableEq, Repr

structure Context where
  name : ContextName
  functions : List ContextFunction
  deriving DecidableEq, Repr

structure SchemaCatalog where
  schemas : List Schema
  contexts : List Context := []
  deriving DecidableEq, Repr

def paginatedEnding : String := "_paginated"

namespace Schema

/-- The noun for one entity: by default the last segment of the name in snake case. -/
def singularNoun (schema : Schema) : String :=
  schema.singular.getD (Text.snakeCase (Text.lastSegment schema.name.text))

/-- The noun for several entities: by default the singular with an `s`. -/
def pluralNoun (schema : Schema) : String :=
  schema.plural.getD (schema.singularNoun ++ "s")

end Schema

namespace ContextFunction

/-- The noun in the name: what follows the first underscore, without the ending for pages. -/
def noun? (function : ContextFunction) : Option String :=
  (Text.splitFirst? '_' function.name.toList).map fun (_, noun) =>
    String.ofList (Text.withoutEnding paginatedEnding.toList noun)

def isPaginated (function : ContextFunction) : Bool :=
  Text.hasEnding paginatedEnding.toList function.name.toList

def kindOfVerb? : String → Option ActionKind
  | "list" | "get" => some .read
  | "create" => some .create
  | "update" | "change" => some .update
  | "delete" => some .destroy
  | _ => none

/-- The kind of the function: the one it says, or the one of the verb in its name. -/
def kind? (function : ContextFunction) : Option ActionKind :=
  function.kind.or
    (kindOfVerb? (String.ofList (function.name.toList.takeWhile (· ≠ '_'))))

def asAction (function : ContextFunction) (kind : ActionKind) : Action :=
  { name := function.name
    kind
    pagination := .flag function.isPaginated
    arity := some function.arity }

end ContextFunction

namespace SchemaCatalog

/-- The schema of a name; of several the last. -/
def schema? (catalog : SchemaCatalog) (name : SchemaName) : Option Schema :=
  catalog.schemas.reverse.find? (·.name = name)

theorem schema?_eq_none {catalog : SchemaCatalog} {name : SchemaName}
    (unknown : name ∉ catalog.schemas.map (·.name)) : catalog.schema? name = none := by
  simp only [schema?, List.find?_eq_none, List.mem_reverse, decide_eq_true_eq]
  exact fun found member same => unknown (List.mem_map.2 ⟨found, member, same⟩)

def functions (catalog : SchemaCatalog) (context : Option ContextName) : List ContextFunction :=
  (catalog.contexts.filter fun candidate => context.all (candidate.name = ·)).flatMap (·.functions)

/-- The schema of a function: the one it says, or the first one whose noun is in its name. -/
def schemaOf? (catalog : SchemaCatalog) (function : ContextFunction) : Option SchemaName :=
  function.schema.or <| function.noun?.bind fun noun =>
    (catalog.schemas.find? fun schema => schema.pluralNoun = noun || schema.singularNoun = noun).map
      (·.name)

def actions (catalog : SchemaCatalog) (schema : SchemaName) (context : Option ContextName)
    (kind : ActionKind) : List Action :=
  ((catalog.functions context).filter fun function =>
    function.kind? = some kind && catalog.schemaOf? function = some schema).map (·.asAction kind)

/-- The first function of a name that a context exposes. -/
def function? (catalog : SchemaCatalog) (context : ContextName) (name : String) :
    Option ContextFunction :=
  (catalog.functions (some context)).find? (·.name = name)

def target? (catalog : SchemaCatalog) (context : ContextName) (name : String) :
    Option ActionTarget :=
  (catalog.function? context name).map fun function =>
    { schema := catalog.schemaOf? function, action := function.name, arity := some function.arity }

/-- A function named for an operation, whatever its name says; a kind of its own must be the one
asked for. -/
def explicitAction? (catalog : SchemaCatalog) (context : ContextName) (name : String)
    (kind : ActionKind) : Option Action :=
  (catalog.function? context name).bind fun function =>
    if function.kind.all (· = kind) then some (function.asAction kind) else none

def conventionalName? (catalog : SchemaCatalog) (schema : SchemaName) (op : LogicalOp) :
    Option String :=
  (catalog.schema? schema).bind fun schema =>
    match op with
    | .list => some ("list_" ++ schema.pluralNoun)
    | .listPaginated => some ("list_" ++ schema.pluralNoun ++ paginatedEnding)
    | .get => some ("get_" ++ schema.singularNoun)
    | .create => some ("create_" ++ schema.singularNoun)
    | .update => some ("update_" ++ schema.singularNoun)
    | .delete => some ("delete_" ++ schema.singularNoun)
    | .change => some ("change_" ++ schema.singularNoun)
    | .new => none

end SchemaCatalog

/-! ### Data -/

namespace Schema

def ofDocument? (document : Document) : Option Schema := do
  let record ← Record.ofDocument? ["name", "singular", "plural", "fields", "associations"] document
  let name ← record.required "name" SchemaName.ofDocument?
  let singular ← record.optional "singular" Document.text?
  let plural ← record.optional "plural" Document.text?
  let fields ← record.required "fields" (Document.list? Attribute.ofDocument?)
  let associations ← record.defaulted "associations" [] (Document.list? Relationship.ofDocument?)
  some { name, singular, plural, fields, associations }

def toJson (schema : Schema) : Json :=
  .object [
    ("associations", .array (schema.associations.map (·.toJson))),
    ("fields", .array (schema.fields.map (·.toJson))),
    ("name", schema.name.toJson),
    ("plural", Json.ofOption .string schema.plural),
    ("singular", Json.ofOption .string schema.singular)]

end Schema

namespace ContextFunction

def ofDocument? (document : Document) : Option ContextFunction := do
  let record ← Record.ofDocument? ["name", "arity", "schema", "kind"] document
  let name ← record.required "name" Document.text?
  let arity ← record.required "arity" Document.byte?
  let schema ← record.optional "schema" SchemaName.ofDocument?
  let kind ← record.optional "kind" (Document.name? ActionKind.ofName?)
  some { name, arity, schema, kind }

def toJson (function : ContextFunction) : Json :=
  .object [
    ("arity", Json.ofNat function.arity),
    ("kind", Json.ofOption (fun kind => .string kind.name) function.kind),
    ("name", .string function.name),
    ("schema", Json.ofOption SchemaName.toJson function.schema)]

end ContextFunction

namespace Context

def ofDocument? (document : Document) : Option Context := do
  let record ← Record.ofDocument? ["name", "functions"] document
  let name ← record.required "name" ContextName.ofDocument?
  let functions ← record.required "functions" (Document.list? ContextFunction.ofDocument?)
  some { name, functions }

def toJson (context : Context) : Json :=
  .object [
    ("functions", .array (context.functions.map (·.toJson))),
    ("name", context.name.toJson)]

end Context

namespace SchemaCatalog

def ofDocument? (document : Document) : Option SchemaCatalog := do
  let record ← Record.ofDocument? ["schemas", "contexts"] document
  let schemas ← record.required "schemas" (Document.list? Schema.ofDocument?)
  let contexts ← record.defaulted "contexts" [] (Document.list? Context.ofDocument?)
  some { schemas, contexts }

def toJson (catalog : SchemaCatalog) : Json :=
  .object [
    ("contexts", .array (catalog.contexts.map (·.toJson))),
    ("schemas", .array (catalog.schemas.map (·.toJson)))]

end SchemaCatalog

end Backoffice
