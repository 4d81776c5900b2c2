import Backoffice.Field.Basic

/-!
What a declaration says about one field. Everything that is left out keeps the value
derived from the backend.
-/

namespace Backoffice

/-- A fixed option of a select field: a value that is its own label, or a value with a label. -/
inductive SelectOption where
  | plain (value : String)
  | labeled (value label : String)
  deriving DecidableEq, Repr

structure FieldDeclaration where
  name : String
  type : Option FieldType := none
  htmlType : Option HtmlType := none
  label : Option String := none
  placeholder : Option String := none
  length : Option Nat := none
  precision : Option Nat := none
  scale : Option Nat := none
  required : Option Bool := none
  readonly : Option Bool := none
  disabled : Option Bool := none
  hidden : Option Bool := none
  omitted : Option Bool := none
  filterable : Option Bool := none
  options : Option (List SelectOption) := none
  multiple : Option Bool := none
  optionLabel : Option OptionLabel := none
  queryOpts : Option QueryOpts := none
  /-- Only set by callers, never read. -/
  renderer : Option Renderer := none

namespace SelectOption

def pair : SelectOption → String × String
  | plain value => (value, value)
  | labeled value label => (value, label)

def ofDocument? : Document → Option SelectOption
  | .string value => some (plain value)
  | .array [.string value, .string label] => some (labeled value label)
  | _ => none

end SelectOption

namespace FieldDeclaration

def ofDocument? (document : Document) : Option FieldDeclaration := do
  let record ← Record.ofDocument?
    ["name", "type", "html_type", "label", "placeholder", "length", "precision", "scale",
      "required", "readonly", "disabled", "hidden", "omitted", "filterable", "options", "multiple",
      "option_label", "query_opts"] document
  let name ← record.required "name" Document.text?
  let type ← record.optional "type" FieldType.ofDocument?
  let htmlType ← record.optional "html_type" (Document.name? HtmlType.ofName?)
  let label ← record.optional "label" Document.text?
  let placeholder ← record.optional "placeholder" Document.text?
  let length ← record.optional "length" Document.word32?
  let precision ← record.optional "precision" Document.word32?
  let scale ← record.optional "scale" Document.word32?
  let required ← record.optional "required" Document.flag?
  let readonly ← record.optional "readonly" Document.flag?
  let disabled ← record.optional "disabled" Document.flag?
  let hidden ← record.optional "hidden" Document.flag?
  let omitted ← record.optional "omitted" Document.flag?
  let filterable ← record.optional "filterable" Document.flag?
  let options ← record.optional "options" (Document.list? SelectOption.ofDocument?)
  let multiple ← record.optional "multiple" Document.flag?
  let optionLabel ← record.optional "option_label" OptionLabel.ofDocument?
  let queryOpts ← record.optional "query_opts" QueryOpts.ofDocument?
  some
    { name, type, htmlType, label, placeholder, length, precision, scale, required, readonly
      disabled, hidden, omitted, filterable, options, multiple, optionLabel, queryOpts }

end FieldDeclaration

end Backoffice
