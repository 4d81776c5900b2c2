import Backoffice.Proofs.Table
import Backoffice.Resource.Basic

/-!
What the declaration of a resource changes in its fields: discovery under a declaration
finds the fields that it finds without one, each customized by its own declaration, and the
fields that are only declared.

The field of an attribute may be customized more than once on the way, since relationships take it
over one after the other. A takeover sets part of the field anew and keeps the rest, and customizing
is idempotent on what is kept, so the last time is the only one that counts.
-/

namespace Backoffice

/-! ### One field -/

/-- The data of a field, where an association offers its entities as the declaration says. -/
def FieldData.offering (data : FieldData) (declaration : FieldDeclaration) : FieldData :=
  match data with
  | .association data =>
    .association
      { data with
        optionLabel := declaration.optionLabel
        queryOpts := declaration.queryOpts.getD {} }
  | data => data

namespace Field

def offering (field : Field) (declaration : FieldDeclaration) : Field :=
  { field with data := field.data.offering declaration }

def declaredAs (field : Field) : Option FieldDeclaration → Field
  | some declaration => (field.customize declaration).offering declaration
  | none => field

theorem offering_customizedData {data : FieldData} {declaration : FieldDeclaration}
    (plain : data.association? = none) :
    (customizedData data declaration).offering declaration = customizedData data declaration := by
  unfold customizedData
  cases declaration.options with
  | some options => rfl
  | none =>
    cases data with
    | association data => cases plain
    | _ => cases declaration.multiple <;> rfl

theorem association?_data_ofAttribute (attr : Attribute) (policy : NamingPolicy) :
    (ofAttribute attr none policy).data.association? = none := by
  unfold ofAttribute ofPlainAttribute
  cases restriction attr with
  | some values => rfl
  | none => rfl

theorem ofAttribute_eq_declaredAs (attr : Attribute) (declaration : Option FieldDeclaration)
    (policy : NamingPolicy) :
    ofAttribute attr declaration policy =
      (ofAttribute attr none policy).declaredAs declaration := by
  cases declaration with
  | none => rfl
  | some declaration =>
    simp only [declaredAs, offering, customize,
      offering_customizedData (association?_data_ofAttribute attr policy)]
    rfl

end Field

namespace Relationship

variable (relationship : Relationship) (owner : String) (schema : SchemaName) (key : String)
  (existing : Option Field) (declaration : FieldDeclaration) (policy : NamingPolicy)

/-- What the field leads to differs by what the declaration says about the entities it offers. -/
theorem customizedData_fieldData :
    Field.customizedData (relationship.fieldData owner schema (some declaration)) declaration =
      (Field.customizedData (relationship.fieldData owner schema none) declaration).offering
        declaration := by
  unfold Field.customizedData fieldData
  cases declaration.options with
  | some options => rfl
  | none => cases declaration.multiple <;> cases relationship.kind <;> rfl

/-- What a relationship keeps of a field that is customized, it may as well keep
of the field as it was. -/
theorem customize_plainField_declaredAs (data : FieldData) :
    Field.customize
        { relationship.plainField key (existing.map (·.declaredAs (some declaration))) policy with
          data }
        declaration =
      Field.customize { relationship.plainField key existing policy with data } declaration := by
  cases existing with
  | none => rfl
  | some field =>
    simp only [plainField, Option.map_some, Field.declaredAs, Field.offering, Field.customize,
      ← Option.getD_or, ← Option.or_assoc, Option.or_self]

theorem field_eq_declaredAs (declaration : Option FieldDeclaration) :
    relationship.field owner schema key (existing.map (·.declaredAs declaration)) declaration
        policy =
      (relationship.field owner schema key existing none policy).declaredAs declaration := by
  cases declaration with
  | none => simp [Field.declaredAs]
  | some declaration =>
    -- First the field that is taken over, then what the new one leads to.
    calc
      relationship.field owner schema key (existing.map (·.declaredAs (some declaration)))
          (some declaration) policy
        = Field.customize
            { relationship.plainField key existing policy with
              data := relationship.fieldData owner schema (some declaration) } declaration :=
          relationship.customize_plainField_declaredAs key existing declaration policy _
      _ = (Field.customize
            { relationship.plainField key existing policy with
              data := relationship.fieldData owner schema none }
            declaration).offering declaration := by
          simp only [Field.offering, Field.customize, customizedData_fieldData]

end Relationship

/-! ### All fields of a resource -/

namespace Discovery

/-- Whether fields that were found under a declaration are those found
without it, each as declared. -/
def Customizes (setting : Setting) (plain found : Discovery) : Prop :=
  ∀ key, found.fields.get? key = (plain.fields.get? key).map (·.declaredAs (setting.field? key))

def Setting.undeclared (setting : Setting) : Setting :=
  { setting with declaration := none }

variable {setting : Setting} {plain found : Discovery}

theorem Customizes.contains (customizes : Customizes setting plain found) (key : String) :
    found.fields.contains key = plain.fields.contains key := by
  rw [Table.contains, Table.contains, customizes key, Option.isSome_map]

theorem Customizes.addAttribute (customizes : Customizes setting plain found) (attr : Attribute) :
    Customizes setting (addAttribute setting.undeclared plain attr)
      (Discovery.addAttribute setting found attr) := by
  intro key
  simp only [Discovery.addAttribute, Table.get?_insert]
  by_cases same : attr.name = key
  · subst same
    rw [if_pos rfl, if_pos rfl, Field.ofAttribute_eq_declaredAs]
    rfl
  · rw [if_neg same, if_neg same]
    exact customizes key

theorem Customizes.addRelationship (customizes : Customizes setting plain found)
    (relationship : Relationship) :
    Customizes setting (addRelationship setting.undeclared plain relationship)
      (Discovery.addRelationship setting found relationship) := by
  have sameKey : relationship.fieldKey found.fields = relationship.fieldKey plain.fields := by
    rw [Relationship.fieldKey, Relationship.fieldKey, customizes.contains]
  intro key
  simp only [Discovery.addRelationship, Table.get?_insert, sameKey]
  by_cases same : relationship.fieldKey plain.fields = key
  · subst same
    rw [if_pos rfl, if_pos rfl, customizes, Relationship.field_eq_declaredAs]
    rfl
  · rw [if_neg same, if_neg same]
    exact customizes key

theorem customizes_run (setting : Setting) (attributes : List Attribute)
    (relationships : List Relationship) :
    Customizes setting (run setting.undeclared attributes relationships)
      (run setting attributes relationships) := by
  apply List.foldl_rel
  · apply List.foldl_rel
    · exact fun _ => rfl
    · exact fun attr _ _ _ customizes => customizes.addAttribute attr
  · exact fun relationship _ _ _ customizes => customizes.addRelationship relationship

/-- A field that is only declared is the one of its first declaration. -/
theorem get?_foldl_addDeclared (policy : NamingPolicy) (declared : List FieldDeclaration)
    (fields : Table Field) (key : String) :
    (declared.foldl (addDeclared policy) fields).get? key =
      (fields.get? key).or
        ((declared.find? (·.name = key)).map (Field.ofDeclaration · policy)) := by
  induction declared generalizing fields with
  | nil => simp
  | cons declaration rest inductionHypothesis =>
    rw [List.foldl_cons, inductionHypothesis, addDeclared, List.find?_cons]
    by_cases same : declaration.name = key
    · subst same
      cases stored : fields.get? declaration.name with
      | none => simp [Table.contains, stored, Table.get?_insert]
      | some field => simp [Table.contains, stored]
    · simp only [same, decide_false]
      split
      · rfl
      · rw [Table.get?_insert, if_neg same]

end Discovery

namespace Resource

variable (name : String) (backend : Backend) (schema : SchemaName) (context : Option ContextName)
  (policy : NamingPolicy) (parent : Option String) (declaration : ResourceDeclaration)

theorem field?_discover_some (key : String) :
    (discover name backend schema context (some declaration) policy parent).field? key =
      (((discover name backend schema context none policy parent).field? key).map
        (·.declaredAs (declaration.field? key))).or
          ((declaration.field? key).map (Field.ofDeclaration · policy)) := by
  have customizes := Discovery.customizes_run ⟨name, schema, some declaration, policy⟩
    (backend.attributes schema) (backend.relationships schema)
  simp only [field?, discover, Option.map_some, Option.getD_some, Option.map_none, Option.getD_none,
    List.foldl_nil, Discovery.get?_foldl_addDeclared, customizes key]
  rfl

/-- Customizing commutes with discovery. A field that is found without the declaration is found
under it as well, customized if it is declared and as it was otherwise, and the only other fields
are those that are declared. -/
theorem customized_discover (distinct : (declaration.fields.map (·.name)).Nodup) (key : String) :
    let plain := discover name backend schema context none policy parent
    let declared := discover name backend schema context (some declaration) policy parent
    (∀ field, plain.field? key = some field →
      (∀ custom ∈ declaration.fields, custom.name = key →
        declared.field? key = some ((field.customize custom).offering custom)) ∧
      ((∀ custom ∈ declaration.fields, custom.name ≠ key) → declared.field? key = some field)) ∧
    (plain.field? key = none →
      (∀ custom ∈ declaration.fields, custom.name = key →
        declared.field? key = some (Field.ofDeclaration custom policy)) ∧
      ((∀ custom ∈ declaration.fields, custom.name ≠ key) → declared.field? key = none)) := by
  intro plain declared
  have fields := field?_discover_some name backend schema context policy parent declaration key
  have named : ∀ custom ∈ declaration.fields, custom.name = key →
      declaration.field? key = some custom :=
    fun custom member same => same ▸ find?_key_eq_some distinct member
  have unnamed : (∀ custom ∈ declaration.fields, custom.name ≠ key) →
      declaration.field? key = none := by
    intro others
    rw [ResourceDeclaration.field?, List.find?_eq_none]
    simpa using others
  constructor
  · intro field stored
    refine ⟨fun custom member same => ?_, fun others => ?_⟩
    · rw [fields, stored, named custom member same]
      rfl
    · rw [fields, stored, unnamed others]
      rfl
  · intro absent
    refine ⟨fun custom member same => ?_, fun others => ?_⟩
    · rw [fields, absent, named custom member same]
      rfl
    · rw [fields, absent, unnamed others]
      rfl

/-- Orders of a customer, whose key is taken over twice: by the customer, and by the relationship to
the other orders under that key. -/
def orderCatalog : SchemaCatalog where
  schemas := [
    { name := ⟨"Order"⟩
      fields := [
        { name := "customer_id", nativeType := "integer", allowNil := false },
        { name := "status", nativeType := "string", oneOf := some ["open", "paid"] }]
      associations := [
        { name := "customer", kind := .manyToOne, destination := ⟨"Customer"⟩ },
        { name := "customer_id", kind := .oneToMany, destination := ⟨"Order"⟩ }] }]

def customerField : FieldDeclaration :=
  { name := "customer_id", label := some "Client", length := some 7, required := some false
    optionLabel := some (.field "name") }

def noteField : FieldDeclaration :=
  { name := "note", type := some .string }

def orderDeclaration : ResourceDeclaration :=
  { ResourceDeclaration.simple "order" "Order" none with fields := [noteField, customerField] }

def orders (declaration : Option ResourceDeclaration) : Resource :=
  discover "order" (.simple orderCatalog) ⟨"Order"⟩ none declaration {} none

theorem customized_order :
    (orderDeclaration.fields.map (·.name)).Nodup ∧
      (∃ field, (orders none).field? "customer_id" = some field ∧
        (orders (some orderDeclaration)).field? "customer_id" =
          some ((field.customize customerField).offering customerField)) ∧
      (orders (some orderDeclaration)).field? "note" = some (Field.ofDeclaration noteField {}) := by
  have distinct : (orderDeclaration.fields.map (·.name)).Nodup := by decide
  have fields := customized_discover "order" (.simple orderCatalog) ⟨"Order"⟩ none {}
    none orderDeclaration distinct
  obtain ⟨customer, found⟩ : ∃ field, (orders none).field? "customer_id" = some field :=
    Option.isSome_iff_exists.1 (by decide +kernel)
  have undiscovered : (orders none).field? "note" = none :=
    Option.not_isSome_iff_eq_none.1 (by decide +kernel)
  refine ⟨distinct, ⟨customer, found, ?_⟩, ?_⟩
  · exact ((fields "customer_id").1 customer found).1 customerField (by simp [orderDeclaration]) rfl
  · exact ((fields "note").2 undiscovered).1 noteField (by simp [orderDeclaration]) rfl

end Resource

end Backoffice
