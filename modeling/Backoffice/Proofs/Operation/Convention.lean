import Backoffice.Proofs.Operation.Overrides
import Backoffice.Proofs.Operation.Resolution
import Backoffice.Proofs.Table
import Mathlib.Data.List.Nodup

/-!
Functions that are named by convention.

The name for an operation is a verb, an underscore and a noun of the schema, with an ending where
pages are returned. Reading it back gives the kind of the operation, and the noun without any such
ending. The function belongs to the first schema of the catalog that has the noun read, so it serves
the schema it was named for exactly if that one is the first.
-/

namespace Backoffice

/-! ### Names put together and taken apart -/

namespace Text

theorem splitFirst?_append {separator : Char} {before : List Char} (absent : separator ∉ before)
    (after : List Char) :
    splitFirst? separator (before ++ separator :: after) = some (before, after) := by
  induction before with
  | nil => simp [splitFirst?]
  | cons c rest inductionHypothesis =>
    rw [List.mem_cons, not_or] at absent
    rw [List.cons_append, splitFirst?, if_neg (Ne.symm absent.1), inductionHypothesis absent.2]
    rfl

theorem hasEnding_append (ending chars : List Char) : hasEnding ending (chars ++ ending) = true :=
  List.isSuffixOf_iff_suffix.2 (List.suffix_append chars ending)

theorem withoutEnding_append (ending chars : List Char) :
    withoutEnding ending (chars ++ ending) = chars := by
  rw [withoutEnding, if_pos (hasEnding_append ending chars)]
  simp

end Text

namespace LogicalOp

/-- The verb in the name of a function for the operation. -/
def verb : LogicalOp → String
  | list | listPaginated => "list"
  | get => "get"
  | create => "create"
  | update => "update"
  | delete => "delete"
  | change => "change"
  | new => "new"

theorem verb_plain (op : LogicalOp) : '_' ∉ op.verb.toList := by
  cases op <;> decide

theorem kindOfVerb?_verb (op : LogicalOp) :
    ContextFunction.kindOfVerb? op.verb = op.actionKind? := by
  cases op <;> rfl

end LogicalOp

def withoutPages (noun : String) : String :=
  String.ofList (Text.withoutEnding paginatedEnding.toList noun.toList)

theorem withoutPages_append (noun : String) : withoutPages (noun ++ paginatedEnding) = noun := by
  rw [withoutPages, String.toList_append, Text.withoutEnding_append, String.ofList_toList]

-- A noun that has the ending itself is not the one read from a name made with it.
example : withoutPages "job_paginated" = "job" := by decide

namespace Schema

def hasNoun (noun : String) (schema : Schema) : Bool :=
  schema.pluralNoun = noun || schema.singularNoun = noun

def nounFor (schema : Schema) : LogicalOp → String
  | .list => schema.pluralNoun
  | .listPaginated => schema.pluralNoun ++ paginatedEnding
  | _ => schema.singularNoun

/-- The noun that is read from the name of a function for an operation. -/
def nounRead (schema : Schema) : LogicalOp → String
  | .list => withoutPages schema.pluralNoun
  | .listPaginated => schema.pluralNoun
  | _ => withoutPages schema.singularNoun

theorem withoutPages_nounFor (schema : Schema) (op : LogicalOp) :
    withoutPages (schema.nounFor op) = schema.nounRead op := by
  cases op with
  | listPaginated => exact withoutPages_append schema.pluralNoun
  | _ => rfl

end Schema

namespace ContextFunction

variable {function : ContextFunction} {verb noun : String}

theorem noun?_of_name (plain : '_' ∉ verb.toList) (named : function.name = verb ++ "_" ++ noun) :
    function.noun? = some (withoutPages noun) := by
  have spelled : function.name.toList = verb.toList ++ '_' :: noun.toList := by
    rw [named]
    simp
  rw [noun?, spelled, Text.splitFirst?_append plain]
  rfl

theorem kind?_of_name (plain : '_' ∉ verb.toList) (named : function.name = verb ++ "_" ++ noun)
    (inferred : function.kind = none) : function.kind? = kindOfVerb? verb := by
  have spelled : function.name.toList = verb.toList ++ '_' :: noun.toList := by
    rw [named]
    simp
  have taken : function.name.toList.takeWhile (· ≠ '_') = verb.toList := by
    rw [spelled, List.takeWhile_append_of_pos]
    · simp
    · intro c member
      simpa using fun same : c = '_' => plain (same ▸ member)
  rw [kind?, inferred, taken, Option.none_or, String.ofList_toList]

end ContextFunction

namespace SchemaCatalog

variable {catalog : SchemaCatalog} {schema : Schema} {op : LogicalOp} {kind : ActionKind}
  {function : ContextFunction}

theorem schema?_eq_some (distinct : (catalog.schemas.map (·.name)).Nodup)
    (known : schema ∈ catalog.schemas) : catalog.schema? schema.name = some schema := by
  rw [schema?]
  refine find?_key_eq_some ?_ (List.mem_reverse.2 known)
  rwa [List.map_reverse, List.nodup_reverse]

theorem conventionalName?_eq_some (found : catalog.schema? schema.name = some schema)
    (acting : op ≠ .new) :
    catalog.conventionalName? schema.name op = some (op.verb ++ "_" ++ schema.nounFor op) := by
  rw [conventionalName?, found, Option.bind_some]
  cases op with
  | listPaginated => rw [Schema.nounFor, ← String.append_assoc]; rfl
  | new => exact absurd rfl acting
  | _ => rfl

theorem mem_functions_iff {context : ContextName} :
    function ∈ catalog.functions (some context) ↔
      ∃ definition ∈ catalog.contexts, definition.name = context ∧
      function ∈ definition.functions := by
  simp only [functions, Option.all_some, List.mem_flatMap, List.mem_filter, decide_eq_true_eq,
    and_assoc]

theorem mem_actions_iff {name : SchemaName} {context : Option ContextName} {action : Action} :
    action ∈ catalog.actions name context kind ↔ ∃ function ∈ catalog.functions context,
      function.kind? = some kind ∧ catalog.schemaOf? function = some name ∧
        function.asAction kind = action := by
  simp only [actions, List.mem_map, List.mem_filter, Bool.and_eq_true, decide_eq_true_eq, and_assoc]

/-- A function without a schema of its own belongs to the first one that has its noun. -/
theorem schemaOf?_eq_some_iff {noun : String} (inferred : function.schema = none)
    (read : function.noun? = some noun) (name : SchemaName) :
    catalog.schemaOf? function = some name ↔
      ∃ schema, catalog.schemas.find? (·.hasNoun noun) = some schema ∧ schema.name = name := by
  rw [schemaOf?, inferred, Option.none_or, read, Option.bind_some]
  exact Option.map_eq_some_iff

end SchemaCatalog

namespace OperationScope

variable {catalog : SchemaCatalog} {op : LogicalOp} {kind : ActionKind} {name : String}
  {function : ContextFunction}

/-- Without an override the conventional name finds an action, once some function of the context has
the name, and returns pages where these are asked for. -/
theorem exists_resolveAction_eq_ok (scope : OperationScope) (overrides : OperationOverrides)
    (free : (overrides.nameFor op).join = none)
    (conventional : catalog.conventionalName? scope.schema op = some name)
    (listed : function.asAction kind ∈ catalog.actions scope.schema scope.context kind)
    (named : function.name = name) (pages : op = .listPaginated → function.isPaginated = true) :
    ∃ action, scope.resolveAction (.simple catalog) op kind overrides = .ok action ∧
      action.name = name := by
  have candidates : scope.candidates (.simple catalog) op kind (overrides.nameFor op).join =
      ⟨some name, catalog.actions scope.schema scope.context kind⟩ := by
    rw [free, ← conventional]
    rfl
  have fits : function.asAction kind ∈
      fitting op (scope.wanted (.simple catalog) op kind overrides) := by
    rw [mem_fitting_iff, wanted, candidates, mem_named_iff]
    refine ⟨⟨listed, ?_⟩, pages⟩
    rintro _ ⟨⟩
    exact named
  obtain ⟨action, chosen⟩ := exists_choose?_eq_some (List.ne_nil_of_mem fits)
  refine ⟨action, (resolveAction_of_standIn?_eq_none (standIn?_eq_none free)).2 chosen, ?_⟩
  obtain ⟨member, _⟩ := mem_fitting_iff.1 (mem_of_choose?_eq_some chosen)
  rw [wanted, candidates, mem_named_iff] at member
  exact member.2 name rfl

end OperationScope

namespace SchemaCatalog

variable {catalog : SchemaCatalog} {schema : Schema} {context : Context} {op : LogicalOp}
  {kind : ActionKind} {function : ContextFunction}

/-- A function that a context declares under the conventional name for an operation on a
schema is among the actions of the schema in the context, and the operation is resolved to
one of the name: all this where the schema is the first of the catalog to have the noun that
is read from the name. -/
theorem conventional_listed_and_resolved (distinct : (catalog.schemas.map (·.name)).Nodup)
    (exposed : context ∈ catalog.contexts) (declared : function ∈ context.functions)
    (acts : op.actionKind? = some kind)
    (conventional : catalog.conventionalName? schema.name op = some function.name)
    (inferredSchema : function.schema = none) (inferredKind : function.kind = none)
    (first : catalog.schemas.find? (·.hasNoun (schema.nounRead op)) = some schema)
    (resource : String) :
    function.asAction kind ∈ catalog.actions schema.name (some context.name) kind ∧
      ∃ reference action,
        OperationScope.resolve ⟨resource, schema.name, some context.name⟩ (.simple catalog) op {} =
            .ok reference ∧
          reference.target = .action action ∧ action.name = function.name := by
  have acting : op ≠ .new := LogicalOp.ne_new_of_actionKind?_eq_some acts
  have found : catalog.schema? schema.name = some schema :=
    schema?_eq_some distinct (List.mem_of_find?_eq_some first)
  have named : function.name = op.verb ++ "_" ++ schema.nounFor op :=
    Option.some.inj (conventional.symm.trans (conventionalName?_eq_some found acting))
  have noun : function.noun? = some (schema.nounRead op) := by
    rw [ContextFunction.noun?_of_name op.verb_plain named, Schema.withoutPages_nounFor]
  have ofKind : function.kind? = some kind := by
    rw [ContextFunction.kind?_of_name op.verb_plain named inferredKind,
      LogicalOp.kindOfVerb?_verb, acts]
  have ofSchema : catalog.schemaOf? function = some schema.name :=
    (schemaOf?_eq_some_iff inferredSchema noun _).2 ⟨schema, first, rfl⟩
  have listed : function.asAction kind ∈ catalog.actions schema.name (some context.name) kind :=
    mem_actions_iff.2
      ⟨function, mem_functions_iff.2 ⟨context, exposed, rfl, declared⟩, ofKind, ofSchema, rfl⟩
  have pages (paged : op = .listPaginated) : function.isPaginated = true := by
    subst paged
    rw [ContextFunction.isPaginated, named, Schema.nounFor, ← String.append_assoc,
      String.toList_append]
    exact Text.hasEnding_append _ _
  have free : (OperationOverrides.nameFor {} op).join = none := by
    rw [OperationOverrides.nameFor_empty]
    rfl
  obtain ⟨action, resolved, sameName⟩ := OperationScope.exists_resolveAction_eq_ok
    ⟨resource, schema.name, some context.name⟩ {} free conventional listed rfl pages
  exact ⟨listed, _, action,
    (OperationScope.resolve_eq_ok_iff_of_kind acts).2 ⟨action, resolved, rfl⟩, rfl, sameName⟩

def lineItem : Schema where
  name := ⟨"Stock.LineItem"⟩
  fields := []

def pagesOfLineItems : ContextFunction where
  name := "list_line_items_paginated"
  arity := 2

def stock : Context where
  name := ⟨"Stock"⟩
  functions := [{ name := "stock_take", arity := 0 }, pagesOfLineItems]

/-- Two schemas with the noun `line_items`. -/
def stockCatalog : SchemaCatalog where
  schemas := [lineItem, { name := ⟨"Stock.Batch"⟩, singular := some "line_items", fields := [] }]
  contexts := [stock]

/-- The pages of line items are found, though a later schema has their plural as its singular. -/
theorem pagesOfLineItems_listed_and_resolved :
    pagesOfLineItems.asAction .read ∈ stockCatalog.actions lineItem.name (some stock.name) .read ∧
      ∃ reference action,
        OperationScope.resolve ⟨"item", lineItem.name, some stock.name⟩ (.simple stockCatalog)
            .listPaginated {} = .ok reference ∧
          reference.target = .action action ∧ action.name = pagesOfLineItems.name := by
  have exposed : stock ∈ stockCatalog.contexts := by decide
  have declared : pagesOfLineItems ∈ stock.functions := by decide
  have conventional : stockCatalog.conventionalName? lineItem.name .listPaginated =
      some pagesOfLineItems.name := by decide +kernel
  have first : stockCatalog.schemas.find? (·.hasNoun (lineItem.nounRead .listPaginated)) =
      some lineItem := by decide +kernel
  exact conventional_listed_and_resolved (by decide) exposed declared rfl conventional rfl rfl first
    "item"

/-- A function that is named for the second of two schemas with the noun `orders`. -/
def listOrders : ContextFunction where
  name := "list_orders"
  arity := 1

def archive : Context where
  name := ⟨"Archive"⟩
  functions := [listOrders]

def archiveCatalog : SchemaCatalog where
  schemas := [
    { name := ⟨"Sales.Order"⟩, fields := [] },
    { name := ⟨"Archive.Order"⟩, fields := [] }]
  contexts := [archive]

/-- The listing of archived orders counts as one of sold orders, and is not found. -/
theorem listOrders_neither_listed_nor_resolved :
    (archiveCatalog.schemas.map (·.name)).Nodup ∧ archive ∈ archiveCatalog.contexts ∧
      listOrders ∈ archive.functions ∧ listOrders.schema = none ∧ listOrders.kind = none ∧
      archiveCatalog.conventionalName? ⟨"Archive.Order"⟩ .list = some listOrders.name ∧
      listOrders.asAction .read ∉
        archiveCatalog.actions ⟨"Archive.Order"⟩ (some archive.name) .read ∧
      (OperationScope.resolve ⟨"archived", ⟨"Archive.Order"⟩, some archive.name⟩
        (.simple archiveCatalog) .list {}).toOption.isNone := by
  decide +kernel

end SchemaCatalog

end Backoffice
