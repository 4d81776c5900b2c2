import Backoffice.Declaration.Application

/-!
Declarations in full, for inspection: every member, null where nothing is declared, and beside them
what follows at once, as the enabled routes and the backend.
-/

namespace Backoffice

namespace Renderer

/-- Functions are shown by the number of their arguments. -/
def summary : Renderer → Json
  | unary _ => .string "unary"
  | binary _ => .string "binary"

end Renderer

namespace FieldDeclaration

def summary (field : FieldDeclaration) : Json :=
  .object [
    ("disabled", Json.ofOption .bool field.disabled),
    ("filterable", Json.ofOption .bool field.filterable),
    ("hidden", Json.ofOption .bool field.hidden),
    ("html_type", Json.ofOption (fun type => .string type.name) field.htmlType),
    ("label", Json.ofOption .string field.label),
    ("length", Json.ofOption Json.ofNat field.length),
    ("multiple", Json.ofOption .bool field.multiple),
    ("name", .string field.name),
    ("omitted", Json.ofOption .bool field.omitted),
    ("option_label", Json.ofOption OptionLabel.toJson field.optionLabel),
    ("options", Json.ofOption (fun options => FieldData.pairsJson (options.map (·.pair)))
      field.options),
    ("placeholder", Json.ofOption .string field.placeholder),
    ("precision", Json.ofOption Json.ofNat field.precision),
    ("query_opts", Json.ofOption QueryOpts.toJson field.queryOpts),
    ("readonly", Json.ofOption .bool field.readonly),
    ("renderer", Json.ofOption Renderer.summary field.renderer),
    ("required", Json.ofOption .bool field.required),
    ("scale", Json.ofOption Json.ofNat field.scale),
    ("type", Json.ofOption FieldType.toJson field.type)]

end FieldDeclaration

namespace RouteAction

def namesJson (routes : List RouteAction) : Json :=
  Json.ofTexts (routes.map (·.name))

end RouteAction

namespace Routes

def summary (routes : Routes) : Json :=
  .object [
    ("except", RouteAction.namesJson routes.except),
    ("manifest", RouteAction.namesJson routes.manifest),
    ("only", Json.ofOption RouteAction.namesJson routes.only)]

end Routes

namespace ResourceDeclaration

/-- The declaration, beside a backend that is shown already: the chosen one, or what is wrong with
the choice. -/
def summary (declaration : ResourceDeclaration) (backend : Json) : Json :=
  .object [
    ("backend", backend),
    ("context", Json.ofOption ContextName.toJson declaration.context),
    ("custom_new", .bool declaration.newEntity.isSome),
    ("domain", Json.ofOption ContextName.toJson declaration.domain),
    ("fields", .array (declaration.fields.map (·.summary))),
    ("name", .string declaration.name),
    ("operations", .object (declaration.operations.map fun (key, name) =>
      (key, Json.ofOption .string name))),
    ("opts", .object declaration.opts),
    ("resource", Json.ofOption SchemaName.toJson declaration.resource),
    ("routes", declaration.routes.summary),
    ("schema", Json.ofOption SchemaName.toJson declaration.schema)]

end ResourceDeclaration

namespace LayoutDeclaration

def summary (layout : LayoutDeclaration) : Json :=
  let items (declared : List LayoutItem) : Json := .array (LayoutItem.listToJson declared)
  .object [
    ("form", Json.ofOption items layout.form),
    ("index", Json.ofOption (fun index => .object [
      ("columns", items index.columns), ("opts", .object index.opts)]) layout.index),
    ("resource", .string layout.resource),
    ("show", Json.ofOption items layout.detail)]

end LayoutDeclaration

namespace NamingRules

def toJson (rules : NamingRules) : Json :=
  .object [
    ("disabled", Json.ofTexts rules.disabled),
    ("hidden", Json.ofTexts rules.hidden),
    ("omitted", Json.ofTexts rules.omitted)]

end NamingRules

end Backoffice
