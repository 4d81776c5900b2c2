import Backoffice.Field.Kind
import Backoffice.Json.Writer
import Backoffice.Query.Options

/-!
Fields: what a screen shows of an attribute or a relationship.
-/

namespace Backoffice

/-- A rendering of the caller's own: from the context, or from the context and the entity. -/
inductive Renderer where
  | unary (render : Json → String)
  | binary (render : Json → Json → String)

/-- How a selector labels the entities it offers: by an attribute, or by a function of the entity,
or of the context and the entity. -/
inductive OptionLabel where
  | field (name : String)
  | unary (label : Json → String)
  | binary (label : Json → Json → String)

/-- A field that leads to entities of another schema. -/
structure AssociationData where
  /-- The registered resource of the other schema, once it is linked. -/
  resource : Option String := none
  ownerKey : String
  related : SchemaName
  relatedKey : String
  optionLabel : Option OptionLabel := none
  queryOpts : QueryOpts := {}

structure SelectData where
  options : List (String × String)
  multiple : Bool
  deriving DecidableEq, Repr

/-- A field whose entities are part of their owner. -/
structure EmbedData where
  owner : String
  /-- The resource that stands for the embedded schema. -/
  resource : String
  related : SchemaName
  deriving DecidableEq, Repr

/-- What a field has beside its control. -/
inductive FieldData where
  | none
  | association (data : AssociationData)
  | select (data : SelectData)
  | embed (data : EmbedData)

/-- A field of a resource. -/
structure Field where
  key : String
  type : FieldType
  htmlType : HtmlType
  label : String
  placeholder : String
  length : Nat
  precision : Nat
  scale : Nat
  required : Bool := false
  readonly : Bool := false
  disabled : Bool
  hidden : Bool
  omitted : Bool
  filterable : Bool := true
  renderer : Option Renderer := none
  data : FieldData := .none

namespace Renderer

def run : Renderer → Json → Json → String
  | unary render, context, _ => render context
  | binary render, context, entity => render context entity

end Renderer

namespace OptionLabel

/-- The label of an entity. A text is its own label, null or a missing attribute has none, and other
values are written as JSON. -/
def labelFor : OptionLabel → Json → Json → String
  | field name, _, entity =>
    match entity.get? name with
    | some (.string text) => text
    | some .null | none => ""
    | some other => other.compact
  | unary label, _, entity => label entity
  | binary label, context, entity => label context entity

/-- Functions are written by the number of their arguments. -/
def toJson : OptionLabel → Json
  | field name => .string name
  | unary _ => .string "fn/1"
  | binary _ => .string "fn/2"

def ofDocument? (document : Document) : Option OptionLabel :=
  document.text?.map field

end OptionLabel

namespace FieldData

def association? : FieldData → Option AssociationData
  | association data => some data
  | _ => .none

def embed? : FieldData → Option EmbedData
  | embed data => some data
  | _ => .none

def relatedResource? : FieldData → Option String
  | association data => data.resource
  | embed data => some data.resource
  | _ => .none

end FieldData

namespace AssociationData

/-- The members of an association; a label and options of its own only where they are set. -/
def toMembers (data : AssociationData) : Members :=
  [("kind", .string "association")] ++
    (data.optionLabel.toList.map fun label => ("option_label", label.toJson)) ++
    [("owner_key", .string data.ownerKey)] ++
    (if data.queryOpts.isEmpty then [] else [("query_opts", data.queryOpts.toJson)]) ++
    [("related", data.related.toJson),
      ("related_key", .string data.relatedKey),
      ("resource", Json.ofOption .string data.resource)]

end AssociationData

namespace FieldData

def pairsJson (pairs : List (String × String)) : Json :=
  .array (pairs.map fun (value, label) => .array [.string value, .string label])

def toJson : FieldData → Json
  | none => .object [("kind", .string "none")]
  | association data => .object data.toMembers
  | select data =>
    .object [
      ("kind", .string "select"),
      ("multiple", .bool data.multiple),
      ("opts", pairsJson data.options)]
  | embed data =>
    .object [
      ("kind", .string "embed"),
      ("owner", .string data.owner),
      ("related", data.related.toJson),
      ("resource", .string data.resource)]

end FieldData

namespace Field

def association? (field : Field) : Option AssociationData := field.data.association?

def embed? (field : Field) : Option EmbedData := field.data.embed?

def relatedResource? (field : Field) : Option String := field.data.relatedResource?

def toMembers (field : Field) : Members :=
  [("data", field.data.toJson),
    ("disabled", .bool field.disabled),
    ("filterable", .bool field.filterable),
    ("hidden", .bool field.hidden),
    ("html_type", .string field.htmlType.name),
    ("key", .string field.key),
    ("label", .string field.label),
    ("length", Json.ofNat field.length),
    ("omitted", .bool field.omitted),
    ("placeholder", .string field.placeholder),
    ("precision", Json.ofNat field.precision),
    ("readonly", .bool field.readonly),
    ("required", .bool field.required),
    ("scale", Json.ofNat field.scale),
    ("type", field.type.toJson)]

/-- Renderings of the caller's own are not written. -/
def toJson (field : Field) : Json := .object field.toMembers

end Field

end Backoffice
