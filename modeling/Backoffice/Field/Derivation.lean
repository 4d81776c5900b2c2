import Backoffice.Field.Naming

/-!
Fields derived from attributes, and what a declaration changes in them.
-/

namespace Backoffice

namespace Field

/-- A field of a type: its label comes from its key, its constraints from its type, and its flags
from the naming policy. -/
def base (key : String) (type : FieldType) (htmlType : HtmlType) (length : Nat)
    (policy : NamingPolicy) : Field :=
  { key
    type
    htmlType
    label := Text.humanize key
    placeholder := Text.humanize key
    length
    precision := type.numericConstraints.1
    scale := type.numericConstraints.2
    disabled := policy.isDisabled key
    hidden := policy.isHidden key
    omitted := policy.isOmitted key }

/-- The data of a field under a declaration: declared options make a selection, and whether several
of them may be chosen can be declared for any selection. -/
def customizedData (data : FieldData) (declaration : FieldDeclaration) : FieldData :=
  match declaration.options with
  | some options =>
    .select { options := options.map (·.pair), multiple := declaration.multiple.getD false }
  | none =>
    match declaration.multiple, data with
    | some multiple, .select select => .select { select with multiple }
    | _, data => data

/-- The control of a field under a declaration: the declared one, or a selector when options are
declared. -/
def customizedHtmlType (htmlType : HtmlType) (declaration : FieldDeclaration) : HtmlType :=
  declaration.htmlType.getD (if declaration.options.isSome then .select else htmlType)

/-- A field under a declaration: what is declared counts, the rest stays. A declared label is also
the placeholder, unless one is declared. -/
def customize (field : Field) (declaration : FieldDeclaration) : Field :=
  { key := field.key
    type := declaration.type.getD field.type
    htmlType := customizedHtmlType field.htmlType declaration
    label := declaration.label.getD field.label
    placeholder := (declaration.placeholder.or declaration.label).getD field.placeholder
    length := declaration.length.getD field.length
    precision := declaration.precision.getD field.precision
    scale := declaration.scale.getD field.scale
    required := declaration.required.getD field.required
    readonly := declaration.readonly.getD field.readonly
    disabled := declaration.disabled.getD field.disabled
    hidden := declaration.hidden.getD field.hidden
    omitted := declaration.omitted.getD field.omitted
    filterable := declaration.filterable.getD field.filterable
    renderer := declaration.renderer.or field.renderer
    data := customizedData field.data declaration }

def customizedBy (field : Field) (declaration : Option FieldDeclaration) : Field :=
  match declaration with
  | some declaration => field.customize declaration
  | none => field

/-- The values that make a selection of an attribute: those that a text is restricted to. -/
def restriction (attr : Attribute) : Option (List String) :=
  match attr.oneOf with
  | some (first :: rest) =>
    if FieldType.ofNative attr.nativeType = .string then some (first :: rest) else none
  | _ => none

def ofPlainAttribute (attr : Attribute) (policy : NamingPolicy) : Field :=
  let type := FieldType.ofNative attr.nativeType
  let field := match restriction attr with
    | some values =>
      { base attr.name type .select ((values.map String.length).foldl max 0) policy with
        data := .select
          { options := values.map fun value => (value, Text.humanize value), multiple := false } }
    | none => base attr.name type type.htmlType type.defaultLength policy
  { field with
    required := !attr.allowNil && !attr.primaryKey
    filterable := FieldType.isFilterable attr.nativeType }

def ofAttribute (attr : Attribute) (declaration : Option FieldDeclaration)
    (policy : NamingPolicy) : Field :=
  (ofPlainAttribute attr policy).customizedBy declaration

def ofDeclaration (declaration : FieldDeclaration) (policy : NamingPolicy) : Field :=
  let type := declaration.type.getD .undefined
  (base declaration.name type type.htmlType type.defaultLength policy).customize declaration

end Field

end Backoffice
