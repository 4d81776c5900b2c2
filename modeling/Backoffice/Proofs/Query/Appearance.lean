import Backoffice.Proofs.Resource.Flags
import Backoffice.Query.Select

/-!
How fields look, and which of them a listing selects.

Whether a field is a column is read off its type and off what it leads to. Of all that a declaration
can say about the looks of a field, only fixed options touch the latter: they take the place of the
association, and a many-to-one field is then no column any more. Everything else may be declared
without changing what is selected.
-/

namespace Backoffice

def FieldDeclaration.withoutLooks (declaration : FieldDeclaration) : FieldDeclaration :=
  { name := declaration.name, type := declaration.type, omitted := declaration.omitted }

namespace ResourceDeclaration

/-- The declaration with nothing said about the looks of fields. -/
def withoutLooks (declaration : ResourceDeclaration) : ResourceDeclaration :=
  { declaration with fields := declaration.fields.map (·.withoutLooks) }

def fixesOptions (declaration : ResourceDeclaration) (key : String) : Bool :=
  (declaration.field? key).any (·.options.isSome)

theorem field?_withoutLooks (declaration : ResourceDeclaration) (key : String) :
    declaration.withoutLooks.field? key = (declaration.field? key).map (·.withoutLooks) := by
  rw [field?, field?, withoutLooks, List.find?_map]
  rfl

end ResourceDeclaration

/-! ### One field -/

namespace Field

/-- Whether a field is selected like one without looks, unless options are
fixed for a many-to-one. -/
structure SelectedLike (fixed : Bool) (plain field : Field) : Prop where
  omitted : field.omitted = plain.omitted
  isColumn : field.isColumn = (plain.isColumn && !(decide (plain.type = .manyToOne) && fixed))

/-- Fixed options take the place of an association, and nothing else that is declared does. -/
theorem association?_customizedData (data : FieldData) (declaration : FieldDeclaration) :
    (customizedData data declaration).association? =
      if declaration.options.isSome then none else data.association? := by
  unfold customizedData
  cases declaration.options with
  | some options => rfl
  | none =>
    cases data with
    | select data => cases declaration.multiple <;> rfl
    | _ => cases declaration.multiple <;> rfl

theorem any_association?_offering (data : FieldData) (declaration : FieldDeclaration)
    (key : String) :
    (data.offering declaration).association?.any (·.ownerKey = key) =
      data.association?.any (·.ownerKey = key) := by
  cases data with
  | association data => rfl
  | _ => rfl

theorem selectedLike_of_association? {fixed : Bool} {plain field : Field}
    (omitted : field.omitted = plain.omitted) (type : field.type = plain.type)
    (association : field.association?.any (·.ownerKey = field.key) =
      (plain.association?.any (·.ownerKey = plain.key) && !fixed)) :
      SelectedLike fixed plain field where
  omitted := omitted
  isColumn := by
    unfold isColumn
    rw [type, association]
    cases plain.type with
    | manyToOne => simp
    | _ => simp

variable (field : Field) (declaration : FieldDeclaration) (policy : NamingPolicy)

theorem selectedLike_declaredAs : SelectedLike declaration.options.isSome
    (field.declaredAs (some declaration.withoutLooks)) (field.declaredAs (some declaration)) := by
  refine selectedLike_of_association? rfl rfl ?_
  have own (declaration : FieldDeclaration) :
      (field.declaredAs (some declaration)).association?.any (·.ownerKey = field.key) =
        (field.association?.any (·.ownerKey = field.key) && !declaration.options.isSome) := by
    refine (any_association?_offering _ declaration field.key).trans ?_
    rw [customize, association?_customizedData]
    cases declaration.options with
    | none => simp [association?]
    | some options => simp
  have plain := (own declaration.withoutLooks).trans (Bool.and_true _)
  exact (own declaration).trans (congrArg (· && _) plain.symm)

theorem selectedLike_ofDeclaration : SelectedLike declaration.options.isSome
    (ofDeclaration declaration.withoutLooks policy) (ofDeclaration declaration policy) := by
  refine selectedLike_of_association? rfl rfl ?_
  -- Nothing is associated with a field that is only declared.
  have own (declaration : FieldDeclaration) :
      (ofDeclaration declaration policy).association? = none := by
    refine (association?_customizedData _ declaration).trans ?_
    cases declaration.options with
    | none => rfl
    | some options => rfl
  simp [own]

end Field

/-! ### The fields of a resource, and their order -/

namespace Resource

variable (name : String) (backend : Backend) (schema : SchemaName) (context : Option ContextName)
  (policy : NamingPolicy) (parent : Option String)

/-- The fields of a resource stand in the order of its declaration without looks. -/
theorem order_discover_withoutLooks (declaration : ResourceDeclaration) :
    (discover name backend schema context (some declaration) policy parent).order =
      (discover name backend schema context (some declaration.withoutLooks) policy
        parent).order := by
  simp only [order_discover, Option.map_some, Option.getD_some, ResourceDeclaration.withoutLooks,
    List.map_map]
  rfl

theorem selectedLike_discover (declaration : ResourceDeclaration) (key : String) :
    Option.Rel (Field.SelectedLike (declaration.fixesOptions key))
      ((discover name backend schema context (some declaration.withoutLooks) policy parent).field?
        key)
      ((discover name backend schema context (some declaration) policy parent).field? key) := by
  rw [field?_discover_some, field?_discover_some, ResourceDeclaration.field?_withoutLooks,
    ResourceDeclaration.fixesOptions]
  cases declaration.field? key with
  | none =>
    cases (discover name backend schema context none policy parent).field? key with
    | none => exact .none
    | some field => exact .some ⟨rfl, by simp [Field.declaredAs]⟩
  | some custom =>
    cases (discover name backend schema context none policy parent).field? key with
    | none => exact .some (Field.selectedLike_ofDeclaration custom policy)
    | some field => exact .some (field.selectedLike_declaredAs custom)

end Resource

/-! ### The columns of a listing -/

theorem filter_eq_filter_iff {Entry : Type} {entries : List Entry} {keep other : Entry → Bool} :
    entries.filter keep = entries.filter other ↔ ∀ entry ∈ entries, keep entry = other entry := by
  constructor
  · intro same entry member
    have kept := congrArg (entry ∈ ·) same
    simp only [List.mem_filter, member, true_and, eq_iff_iff] at kept
    exact Bool.eq_iff_iff.2 kept
  · exact List.filter_congr

namespace SelectQuery

def columnNames (query : SelectQuery) : List String := query.columns.map (·.name)

theorem columnNames_ofResource {resource : Resource} (table : String)
    (keyed : ∀ key field, resource.field? key = some field → field.key = key) :
    (ofResource resource table).columnNames = resource.order.filter fun key =>
      (resource.field? key).any fun field => !field.omitted && field.isColumn := by
  simp only [columnNames, ofResource, Resource.orderedFields, List.map_map]
  induction resource.order with
  | nil => rfl
  | cons key rest inductionHypothesis =>
    cases stored : resource.field? key with
    | none => simpa [stored] using inductionHypothesis
    | some field =>
      rw [List.filterMap_cons_some stored, List.filter_cons, List.filter_cons, stored,
        Option.any_some]
      split
      · rw [List.map_cons, inductionHypothesis]
        exact congrArg (· :: _) (keyed key field stored)
      · exact inductionHypothesis

/-- A selection is that of a resource with plain fields, without the many-to-one fields
whose options are fixed. -/
theorem columnNames_of_selectedLike {plain resource : Resource} {fixed : String → Bool}
    (table : String) (keyed : ∀ key field, resource.field? key = some field → field.key = key)
    (order : resource.order = plain.order)
    (like : ∀ key, Option.Rel (Field.SelectedLike (fixed key)) (plain.field? key)
      (resource.field? key)) :
    (ofResource resource table).columnNames = plain.order.filter fun key =>
      (plain.field? key).any fun field =>
        !field.omitted && (field.isColumn && !(decide (field.type = .manyToOne) && fixed key)) := by
  rw [columnNames_ofResource table keyed, order]
  refine List.filter_congr fun key _ => ?_
  have like := like key
  generalize plain.field? key = plainField, resource.field? key = field at like
  cases like with
  | none => rfl
  | some like => rw [Option.any_some, Option.any_some, like.omitted, like.isColumn]

end SelectQuery

namespace Resource

variable (name : String) (backend : Backend) (schema : SchemaName) (context : Option ContextName)
  (policy : NamingPolicy) (parent : Option String)

/-- Resources whose declarations differ in the looks of fields only select the same columns, exactly
if the same many-to-one columns have fixed options. -/
theorem columnNames_eq_iff {first second : ResourceDeclaration}
    (alike : first.withoutLooks = second.withoutLooks) (table : String) :
    (SelectQuery.ofResource (discover name backend schema context (some first) policy parent)
        table).columnNames =
      (SelectQuery.ofResource (discover name backend schema context (some second) policy parent)
        table).columnNames ↔
      ∀ field ∈ (discover name backend schema context (some first.withoutLooks) policy
          parent).orderedFields,
        field.omitted = false → field.isColumn = true → field.type = .manyToOne →
          first.fixesOptions field.key = second.fixesOptions field.key := by
  let plain := discover name backend schema context (some first.withoutLooks) policy parent
  have keyed (declaration : ResourceDeclaration) (key : String) (field : Field)
      (stored : (discover name backend schema context (some declaration) policy parent).field? key =
        some field) :
      field.key = key :=
    (flaggedBy_discover (some declaration) key field stored).key
  have selects (declaration : ResourceDeclaration)
      (same : declaration.withoutLooks = first.withoutLooks) :
      (SelectQuery.ofResource
          (discover name backend schema context (some declaration) policy parent)
          table).columnNames = plain.order.filter fun key => (plain.field? key).any fun field =>
          !field.omitted &&
            (field.isColumn &&
              !(decide (field.type = .manyToOne) && declaration.fixesOptions key)) := by
    refine SelectQuery.columnNames_of_selectedLike table (keyed declaration) ?_ ?_
    · rw [order_discover_withoutLooks, same]
    · intro key
      have like := selectedLike_discover name backend schema context policy parent declaration key
      rwa [same] at like
  rw [selects first rfl, selects second alike.symm, filter_eq_filter_iff]
  constructor
  · intro same field shown kept stored manyToOne
    obtain ⟨key, listed, found⟩ := List.mem_filterMap.1 shown
    have own : field.key = key := keyed first.withoutLooks key field found
    have sameHere := same key listed
    rw [found, Option.any_some, Option.any_some] at sameHere
    simpa [kept, stored, manyToOne, own] using sameHere
  · intro same key listed
    cases found : plain.field? key with
    | none => rfl
    | some field =>
      have own : field.key = key := keyed first.withoutLooks key field found
      have sameHere := same field (List.mem_filterMap.2 ⟨key, listed, found⟩)
      rw [own] at sameHere
      rw [Option.any_some, Option.any_some]
      cases kept : field.omitted with
      | true => rfl
      | false =>
        cases stored : field.isColumn with
        | false => rfl
        | true =>
          by_cases manyToOne : field.type = .manyToOne
          · rw [sameHere kept stored manyToOne]
          · simp [manyToOne]

def articleBackend : Backend :=
  .simple { schemas := [
    { name := ⟨"Shop.Article"⟩
      fields := [
        { name := "name", nativeType := "string" },
        { name := "category_id", nativeType := "integer" }]
      associations := [
        { name := "category", kind := .manyToOne, destination := ⟨"Shop.Category"⟩ }] }] }

def articles (fields : List FieldDeclaration) : ResourceDeclaration :=
  { ResourceDeclaration.simple "article" "Shop.Article" none with fields }

def articleColumns (fields : List FieldDeclaration) : List String :=
  (SelectQuery.ofResource
    (discover "article" articleBackend ⟨"Shop.Article"⟩ none (some (articles fields)) {} none)
    "articles").columnNames

def plainFields : List FieldDeclaration :=
  [{ name := "category_id" }, { name := "name", placeholder := some "Name" }]

def fancyFields : List FieldDeclaration :=
  [{ name := "category_id", label := some "Category", htmlType := some .text, length := some 7,
     filterable := some false, optionLabel := some (.field "title"), multiple := some true },
   { name := "name", readonly := some true, hidden := some true,
     options := some [.plain "a", .labeled "b" "B"] }]

theorem columnNames_articles :
    (articles plainFields).withoutLooks = (articles fancyFields).withoutLooks ∧
      articleColumns plainFields = articleColumns fancyFields := by
  have alike : (articles plainFields).withoutLooks = (articles fancyFields).withoutLooks := rfl
  exact ⟨alike,
    (columnNames_eq_iff "article" articleBackend ⟨"Shop.Article"⟩ none {} none alike "articles").2
    (by decide +kernel)⟩

def fixedFields : List FieldDeclaration :=
  [{ name := "category_id", options := some [.labeled "1" "Books"] }, { name := "name" }]

/-- With fixed options the category is selected no more. -/
theorem columnNames_fixedCategory :
    (articles plainFields).withoutLooks = (articles fixedFields).withoutLooks ∧
      articleColumns plainFields = ["category_id", "name"] ∧
      articleColumns fixedFields = ["name"] :=
  ⟨rfl, by decide +kernel, by decide +kernel⟩

end Resource

end Backoffice
