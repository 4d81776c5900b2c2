import Backoffice.Proofs.Table
import Backoffice.Resource.Basic

/-!
What discovery finds, and in which order.

Discovery keeps the fields in a table and their keys in a list beside it. Both come from one list of
names: those of the attributes, followed by the keys of the relationships. The table has a field for
each of these names, and the list shows the names in the order in which they come up first, so
whatever names clash the two do not drift apart. Every field has its place among the fields that are
shown, and its embed, if it has one, among the embeds of the resource.
-/

namespace Backoffice

/-- The key of the relationship beside fields of some names: one to one entity
takes over its foreign key. -/
def Relationship.keyBeside (relationship : Relationship) (names : List String) : String :=
  if relationship.kind = .manyToOne ∧ relationship.foreignKey ∈ names then relationship.foreignKey
  else relationship.name

namespace Discovery

def relationshipKeys (names : List String) : List Relationship → List String
  | [] => []
  | relationship :: rest =>
    relationship.keyBeside names :: relationshipKeys (names ++ [relationship.keyBeside names]) rest

/-- What holds at first and is kept by each attribute and by each relationship holds in the end. -/
theorem run_keeps {motive : Discovery → Prop} {setting : Setting} {attributes : List Attribute}
    {relationships : List Relationship} (start : motive {})
    (added : ∀ found, ∀ attr ∈ attributes, motive found → motive (addAttribute setting found attr))
    (related : ∀ found, ∀ relationship ∈ relationships,
      motive found → motive (addRelationship setting found relationship)) :
    motive (run setting attributes relationships) := by
  apply List.foldlRecOn (motive := motive)
  · apply List.foldlRecOn (motive := motive)
    · exact start
    · exact fun found kept attr listed => added found attr listed kept
  · exact fun found kept relationship listed => related found relationship listed kept

/-! ### Keys that are not there yet -/

section AppendNew

variable {order more rest : List String} {key : String}

theorem appendNew_append : appendNew order (more ++ rest) = appendNew (appendNew order more) rest :=
  List.foldl_append

theorem appendNew_singleton_of_mem (known : key ∈ order) : appendNew order [key] = order := by
  simp [appendNew, known]

theorem appendNew_singleton_of_notMem (unknown : key ∉ order) :
    appendNew order [key] = order ++ [key] := by
  simp [appendNew, unknown]

theorem mem_appendNew_iff : key ∈ appendNew order more ↔ key ∈ order ∨ key ∈ more := by
  induction more generalizing order with
  | nil => simp [appendNew]
  | cons first rest inductionHypothesis =>
    rw [appendNew, List.foldl_cons, ← appendNew, inductionHypothesis]
    split
    · next known =>
      have : first ∈ order := by simpa using known
      grind
    · grind

theorem nodup_appendNew (distinct : order.Nodup) : (appendNew order more).Nodup := by
  unfold appendNew
  apply List.foldlRecOn (motive := List.Nodup)
  · exact distinct
  · intro order distinct key _
    split
    · exact distinct
    · next fresh =>
      rw [List.contains_iff_mem] at fresh
      simpa using List.Nodup.concat fresh distinct

end AppendNew

/-! ### Both structures from one list of names -/

/-- Whether there is a field for each of some names, and the order of the fields is that
in which these come up. -/
structure Follows (found : Discovery) (names : List String) : Prop where
  contains_iff : ∀ key, found.fields.contains key = true ↔ key ∈ names
  appendNew_order : ∀ order, appendNew order found.order = appendNew order names

variable {found : Discovery} {names : List String}

theorem Follows.addAttribute (follows : found.Follows names) (setting : Setting)
    (attr : Attribute) :
    (addAttribute setting found attr).Follows (names ++ [attr.name]) := by
  constructor
  · intro key
    rw [Discovery.addAttribute, Table.contains_insert_iff, follows.contains_iff, List.mem_append,
      List.mem_singleton]
  · intro order
    rw [Discovery.addAttribute, appendNew_append, appendNew_append, follows.appendNew_order]

theorem Follows.fieldKey_eq (follows : found.Follows names) (relationship : Relationship) :
    relationship.fieldKey found.fields = relationship.keyBeside names := by
  simp only [Relationship.fieldKey, Relationship.keyBeside, follows.contains_iff]

/-- A relationship that takes a field over adds nothing new to either of the two. -/
theorem Follows.addRelationship (follows : found.Follows names) (setting : Setting)
    (relationship : Relationship) :
    (addRelationship setting found relationship).Follows
      (names ++ [relationship.keyBeside names]) := by
  rw [← follows.fieldKey_eq]
  constructor
  · intro key
    rw [Discovery.addRelationship, Table.contains_insert_iff, follows.contains_iff, List.mem_append,
      List.mem_singleton]
  · intro order
    simp only [Discovery.addRelationship]
    split
    · next existing =>
      have known := (follows.contains_iff _).1 existing
      rw [appendNew_append, appendNew_singleton_of_mem (mem_appendNew_iff.2 (.inr known)),
        follows.appendNew_order]
    · rw [appendNew_append, appendNew_append, follows.appendNew_order]

theorem follows_nil : ({} : Discovery).Follows [] :=
  ⟨by simp [Table.contains], fun _ => rfl⟩

theorem follows_foldl_addAttribute (setting : Setting) (attributes : List Attribute)
    (follows : found.Follows names) :
    (attributes.foldl (addAttribute setting) found).Follows (names ++ attributes.map (·.name)) := by
  induction attributes generalizing found names with
  | nil => simpa using follows
  | cons attr rest inductionHypothesis =>
    simpa using inductionHypothesis (follows.addAttribute setting attr)

theorem follows_foldl_addRelationship (setting : Setting) (relationships : List Relationship)
    (follows : found.Follows names) :
    (relationships.foldl (addRelationship setting) found).Follows
      (names ++ relationshipKeys names relationships) := by
  induction relationships generalizing found names with
  | nil => simpa [relationshipKeys] using follows
  | cons relationship rest inductionHypothesis =>
    simpa [relationshipKeys]
      using inductionHypothesis (follows.addRelationship setting relationship)

def foundKeys (attributes : List Attribute) (relationships : List Relationship) : List String :=
  attributes.map (·.name) ++ relationshipKeys (attributes.map (·.name)) relationships

theorem follows_run (setting : Setting) (attributes : List Attribute)
    (relationships : List Relationship) :
    (run setting attributes relationships).Follows (foundKeys attributes relationships) := by
  have fromAttributes := follows_foldl_addAttribute setting attributes follows_nil
  exact follows_foldl_addRelationship setting relationships fromAttributes

theorem contains_foldl_addDeclared_iff {policy : NamingPolicy} {declared : List FieldDeclaration}
    {fields : Table Field} {key : String} :
    (declared.foldl (addDeclared policy) fields).contains key = true ↔
      fields.contains key = true ∨ key ∈ declared.map (·.name) := by
  induction declared generalizing fields with
  | nil => simp
  | cons declaration rest inductionHypothesis =>
    rw [List.foldl_cons, inductionHypothesis, List.map_cons, List.mem_cons, ← or_assoc, addDeclared]
    split
    · next known =>
      have stored : key = declaration.name → fields.contains key = true := fun same => same ▸ known
      rw [or_iff_left_of_imp stored]
    · rw [Table.contains_insert_iff]

end Discovery

namespace Resource

section Discovered

variable (name : String) (backend : Backend) (schema : SchemaName) (context : Option ContextName)
  (declaration : Option ResourceDeclaration) (policy : NamingPolicy) (parent : Option String)

theorem order_discover : (discover name backend schema context declaration policy parent).order =
    Discovery.appendNew ((declaration.map (·.fields)).getD [] |>.map (·.name))
      (Discovery.foundKeys (backend.attributes schema) (backend.relationships schema)) :=
  (Discovery.follows_run { owner := name, schema, declaration, policy } _ _).appendNew_order _

theorem contains_fields_discover_iff {key : String} :
    (discover name backend schema context declaration policy parent).fields.contains key = true ↔
      key ∈ (discover name backend schema context declaration policy parent).order := by
  have follows := Discovery.follows_run { owner := name, schema, declaration, policy }
    (backend.attributes schema) (backend.relationships schema)
  rw [order_discover, Discovery.mem_appendNew_iff, ← follows.contains_iff, or_comm]
  exact Discovery.contains_foldl_addDeclared_iff

def Complete (resource : Resource) : Prop :=
  ∀ key field, resource.field? key = some field → key ∈ resource.order

theorem complete_discover :
    (discover name backend schema context declaration policy parent).Complete := by
  intro key field stored
  rw [← contains_fields_discover_iff, Table.contains, ← field?, stored]
  rfl

end Discovered

/-- Fields have one place each, if they are declared once each. -/
theorem nodup_order_discover {name : String} {backend : Backend} {schema : SchemaName}
    {context : Option ContextName} {declaration : Option ResourceDeclaration}
    {policy : NamingPolicy} {parent : Option String}
    (distinct : ((declaration.map (·.fields)).getD [] |>.map (·.name)).Nodup) :
    (discover name backend schema context declaration policy parent).order.Nodup :=
  Discovery.nodup_appendNew distinct

theorem complete_embedded (parent : Resource) (policy : NamingPolicy) (embed : EmbedData) :
    (parent.embedded policy embed).Complete :=
  complete_discover _ _ _ _ _ _ _

variable {resource : Resource} {embed : EmbedData}

theorem mem_embeds_of_complete (complete : resource.Complete) {key : String} {field : Field}
    (stored : resource.field? key = some field) (embeds : field.embed? = some embed) :
    embed ∈ resource.embeds :=
  List.mem_filterMap.2
    ⟨field, List.mem_filterMap.2 ⟨key, complete key field stored, stored⟩, embeds⟩

theorem exists_field_of_mem_orderedFields {field : Field} (shown : field ∈ resource.orderedFields) :
    ∃ key, resource.field? key = some field := by
  obtain ⟨key, _, stored⟩ := List.mem_filterMap.1 shown
  exact ⟨key, stored⟩

theorem exists_field_of_mem_embeds (member : embed ∈ resource.embeds) :
    ∃ key field, resource.field? key = some field ∧ field.embed? = some embed := by
  obtain ⟨field, shown, embeds⟩ := List.mem_filterMap.1 member
  obtain ⟨key, stored⟩ := exists_field_of_mem_orderedFields shown
  exact ⟨key, field, stored, embeds⟩

end Resource

end Backoffice
