import Backoffice.Proofs.Resource.Customization
import Backoffice.Proofs.Resource.Discovery
import Backoffice.Proofs.Text.Separator

/-!
The fields that carry the relationships of a schema.

Every relationship is stored under a key, its own name or its foreign key, and of the
relationships that come to one key only the last is left. So a relationship is carried by some
field exactly if one that is left leads where it leads, and all of them are where no two
relationships have a key in common.
-/

namespace Backoffice

/-! ### What carries a relationship -/

namespace Relationship

def ownerKey (relationship : Relationship) : String :=
  match relationship.kind with
  | .manyToOne => relationship.foreignKey
  | _ => relationship.sourceAttribute.getD "id"

def relatedKey (relationship : Relationship) (ownerSchema : SchemaName) : String :=
  relationship.destinationAttribute.getD <|
    match relationship.kind with
    | .manyToOne => "id"
    | _ => Text.snakeCase (Text.lastSegment ownerSchema.text) ++ "_id"

/-- The keys under which the field of the relationship may be stored. -/
def possibleKeys (relationship : Relationship) : List String :=
  if relationship.kind = .manyToOne then [relationship.foreignKey, relationship.name]
    else [relationship.name]

/-- Whether the fields of two relationships are never stored under one key. -/
def Apart (first second : Relationship) : Prop :=
  ∀ key ∈ first.possibleKeys, key ∉ second.possibleKeys

instance (first second : Relationship) : Decidable (first.Apart second) :=
  inferInstanceAs (Decidable (∀ key ∈ first.possibleKeys, key ∉ second.possibleKeys))

/-- Whether two relationships of an owner lead to the same: associations by the same keys,
embeds under the same name. -/
structure Alike (ownerSchema : SchemaName) (first second : Relationship) : Prop where
  kind : first.kind = second.kind
  destination : first.destination = second.destination
  keys : first.kind.isEmbed = false →
    first.ownerKey = second.ownerKey ∧ first.relatedKey ownerSchema = second.relatedKey ownerSchema
  name : first.kind.isEmbed = true → first.name = second.name

instance (ownerSchema : SchemaName) (first second : Relationship) :
    Decidable (Alike ownerSchema first second) :=
  decidable_of_iff
    (first.kind = second.kind ∧ first.destination = second.destination ∧
      (first.kind.isEmbed = false →
        first.ownerKey = second.ownerKey ∧
        first.relatedKey ownerSchema = second.relatedKey ownerSchema) ∧
      (first.kind.isEmbed = true → first.name = second.name))
    ⟨fun ⟨kind, destination, keys, name⟩ => ⟨kind, destination, keys, name⟩,
      fun ⟨kind, destination, keys, name⟩ => ⟨kind, destination, keys, name⟩⟩

theorem Alike.refl (ownerSchema : SchemaName) (relationship : Relationship) :
    Alike ownerSchema relationship relationship :=
  ⟨rfl, rfl, fun _ => ⟨rfl, rfl⟩, fun _ => rfl⟩

end Relationship

/-- Whether the data of a field are those of a relationship: an association with
its keys, or its embed. -/
def FieldData.IsOf (data : FieldData) (owner : String) (ownerSchema : SchemaName)
    (relationship : Relationship) : Prop :=
  match data with
  | .association data =>
    relationship.kind.isEmbed = false ∧ data.related = relationship.destination ∧
      data.ownerKey = relationship.ownerKey ∧ data.relatedKey = relationship.relatedKey ownerSchema
  | .embed data =>
    relationship.kind.isEmbed = true ∧ data.related = relationship.destination ∧
      data.resource = Text.embedName owner relationship.name
  | _ => False

instance (data : FieldData) (owner : String) (ownerSchema : SchemaName)
    (relationship : Relationship) :
    Decidable (data.IsOf owner ownerSchema relationship) := by
  unfold FieldData.IsOf
  split <;> infer_instance

/-- Whether a field carries a relationship of its owner: it has the type of its kind,
and leads where it leads. -/
def Field.Carries (field : Field) (owner : String) (ownerSchema : SchemaName)
    (relationship : Relationship) : Prop :=
  field.type = relationship.kind.fieldType ∧ field.data.IsOf owner ownerSchema relationship

instance (field : Field) (owner : String) (ownerSchema : SchemaName) (relationship : Relationship) :
    Decidable (field.Carries owner ownerSchema relationship) :=
  inferInstanceAs (Decidable (_ ∧ _))

namespace Relationship

theorem fieldType_injective : Function.Injective RelationshipKind.fieldType := by
  intro first second same
  cases first <;> cases second <;> first | rfl | cases same

/-- Relationships of one kind have the same data exactly if they have the same
destination, and keys or a name. -/
theorem isOf_fieldData_iff (relationship other : Relationship) (owner : String)
    (ownerSchema : SchemaName) :
    relationship.kind = other.kind ∧
      (relationship.fieldData owner ownerSchema none).IsOf owner ownerSchema other ↔
      relationship.Alike ownerSchema other := by
  constructor
  · rintro ⟨sameKind, isOf⟩
    cases kind : relationship.kind with
    | manyToOne | oneToMany =>
      simp only [fieldData, kind, FieldData.IsOf] at isOf
      obtain ⟨_, destination, owning, related⟩ := isOf
      refine ⟨sameKind, destination, fun _ => ⟨?_, ?_⟩, ?_⟩
      · simpa only [ownerKey, kind] using owning
      · simpa only [relatedKey, kind] using related
      · rw [kind]
        rintro ⟨⟩
    | embedOne | embedMany =>
      simp only [fieldData, kind, FieldData.IsOf] at isOf
      obtain ⟨_, destination, named⟩ := isOf
      refine ⟨sameKind, destination, ?_, fun _ => Text.embedName_cancel_left named⟩
      rw [kind]
      rintro ⟨⟩
  · rintro ⟨sameKind, destination, keys, name⟩
    refine ⟨sameKind, ?_⟩
    cases kind : relationship.kind with
    | manyToOne | oneToMany =>
      obtain ⟨owning, related⟩ := keys (by rw [kind]; rfl)
      simp only [fieldData, kind, FieldData.IsOf]
      refine ⟨by rw [← sameKind, kind]; rfl, destination, ?_, ?_⟩
      · simpa only [ownerKey, kind] using owning
      · simpa only [relatedKey, kind] using related
    | embedOne | embedMany =>
      simp only [fieldData, kind, FieldData.IsOf]
      refine ⟨by rw [← sameKind, kind]; rfl, destination, ?_⟩
      rw [name (by rw [kind]; rfl)]

/-- The field that is made for a relationship carries exactly the relationships that are like it. -/
theorem carries_field_iff (relationship other : Relationship) (owner : String)
    (ownerSchema : SchemaName) (key : String) (existing : Option Field) (policy : NamingPolicy) :
    (relationship.field owner ownerSchema key existing none policy).Carries owner
      ownerSchema other ↔
      relationship.Alike ownerSchema other := by
  have type : (relationship.field owner ownerSchema key existing none policy).type =
      relationship.kind.fieldType := by
    cases existing <;> rfl
  rw [Field.Carries, type, fieldType_injective.eq_iff]
  exact relationship.isOf_fieldData_iff other owner ownerSchema

end Relationship

/-! ### What is left of relationships -/

theorem Relationship.keyBeside_mem_possibleKeys (relationship : Relationship)
    (names : List String) :
    relationship.keyBeside names ∈ relationship.possibleKeys := by
  by_cases toOne : relationship.kind = .manyToOne
  · rw [possibleKeys, if_pos toOne, keyBeside]
    split <;> simp
  · rw [possibleKeys, if_neg toOne, keyBeside, if_neg fun taking => toOne taking.1]
    exact List.mem_singleton_self _

namespace Discovery

/-- The relationships whose fields no later one takes over, each with its key, where they are
found after some names. -/
def lasting (names : List String) : List Relationship → List (String × Relationship)
  | [] => []
  | relationship :: rest =>
    let key := relationship.keyBeside names
    let later := lasting (names ++ [key]) rest
    if key ∈ relationshipKeys (names ++ [key]) rest then later else (key, relationship) :: later

variable {names : List String} {relationships : List Relationship} {key : String}

theorem exists_lasting_of_mem_relationshipKeys
    (member : key ∈ relationshipKeys names relationships) :
    ∃ relationship, (key, relationship) ∈ lasting names relationships := by
  induction relationships generalizing names with
  | nil => cases member
  | cons relationship rest inductionHypothesis =>
    rw [lasting]
    -- A later relationship that comes to the key takes it over, so this one counts
    -- only if there is none.
    by_cases later : key ∈ relationshipKeys (names ++ [relationship.keyBeside names]) rest
    · obtain ⟨last, isLast⟩ := inductionHypothesis later
      refine ⟨last, ?_⟩
      split
      · exact isLast
      · exact List.mem_cons_of_mem _ isLast
    · have own : key = relationship.keyBeside names := (List.mem_cons.1 member).resolve_right later
      subst own
      rw [if_neg later]
      exact ⟨relationship, List.mem_cons_self⟩

theorem map_lasting_of_nodup (distinct : (relationshipKeys names relationships).Nodup) :
    (lasting names relationships).map (·.2) = relationships := by
  induction relationships generalizing names with
  | nil => rfl
  | cons relationship rest inductionHypothesis =>
    rw [relationshipKeys, List.nodup_cons] at distinct
    rw [lasting, if_neg distinct.1, List.map_cons, inductionHypothesis distinct.2]

theorem exists_possibleKeys_of_mem_relationshipKeys
    (member : key ∈ relationshipKeys names relationships) :
    ∃ relationship ∈ relationships, key ∈ relationship.possibleKeys := by
  induction relationships generalizing names with
  | nil => cases member
  | cons relationship rest inductionHypothesis =>
    rcases List.mem_cons.1 member with own | later
    · exact ⟨relationship, List.mem_cons_self, own ▸ relationship.keyBeside_mem_possibleKeys names⟩
    · obtain ⟨other, inRest, possible⟩ := inductionHypothesis later
      exact ⟨other, List.mem_cons_of_mem _ inRest, possible⟩

theorem nodup_relationshipKeys (apart : relationships.Pairwise Relationship.Apart) :
    (relationshipKeys names relationships).Nodup := by
  induction relationships generalizing names with
  | nil => exact List.nodup_nil
  | cons relationship rest inductionHypothesis =>
    obtain ⟨fromOthers, others⟩ := List.pairwise_cons.1 apart
    rw [relationshipKeys, List.nodup_cons]
    refine ⟨?_, inductionHypothesis others⟩
    intro later
    obtain ⟨other, inRest, possible⟩ := exists_possibleKeys_of_mem_relationshipKeys later
    exact fromOthers other inRest _ (relationship.keyBeside_mem_possibleKeys names) possible

/-! ### The fields that are left -/

variable {found : Discovery} (setting : Setting)

theorem get?_foldl_addRelationship_of_notMem (follows : found.Follows names)
    (absent : key ∉ relationshipKeys names relationships) :
    (relationships.foldl (addRelationship setting) found).fields.get? key =
      found.fields.get? key := by
  induction relationships generalizing found names with
  | nil => rfl
  | cons relationship rest inductionHypothesis =>
    rw [relationshipKeys, List.mem_cons, not_or] at absent
    rw [List.foldl_cons,
      inductionHypothesis (follows.addRelationship setting relationship) absent.2]
    simp only [addRelationship, Table.get?_insert, follows.fieldKey_eq, if_neg (Ne.symm absent.1)]

/-- The field of a relationship stays, if no later one comes to its key. -/
theorem exists_field_of_mem_lasting (follows : found.Follows names) {relationship : Relationship}
    (isLast : (key, relationship) ∈ lasting names relationships) :
    ∃ existing, (relationships.foldl (addRelationship setting) found).fields.get? key =
      some (relationship.field setting.owner setting.schema key existing (setting.field? key)
        setting.policy) := by
  induction relationships generalizing found names with
  | nil => cases isLast
  | cons first rest inductionHypothesis =>
    have next := follows.addRelationship setting first
    rw [List.foldl_cons]
    rw [lasting] at isLast
    split at isLast
    · exact inductionHypothesis next isLast
    · next absent =>
      rcases List.mem_cons.1 isLast with same | later
      · cases same
        refine ⟨found.fields.get? (relationship.keyBeside names), ?_⟩
        rw [get?_foldl_addRelationship_of_notMem setting next absent, addRelationship,
          follows.fieldKey_eq, Table.get?_insert, if_pos rfl]
      · exact inductionHypothesis next later

end Discovery

theorem Field.not_carries_ofAttribute (attr : Attribute) (policy : NamingPolicy) (owner : String)
    (ownerSchema : SchemaName) (relationship : Relationship) :
    ¬ (ofAttribute attr none policy).Carries owner ownerSchema relationship := by
  rintro ⟨_, isOf⟩
  unfold ofAttribute ofPlainAttribute at isOf
  cases restricted : restriction attr with
  | none =>
    rw [restricted] at isOf
    exact isOf
  | some values =>
    rw [restricted] at isOf
    exact isOf

namespace Discovery

theorem exists_attribute_of_foldl_addAttribute {owner key : String} {schema : SchemaName}
    {policy : NamingPolicy} {attributes : List Attribute} {field : Field}
    (stored : (attributes.foldl (addAttribute ⟨owner, schema, none, policy⟩) {}).fields.get? key =
      some field) :
    ∃ attr, field = .ofAttribute attr none policy := by
  have made : ∀ key field,
      (run ⟨owner, schema, none, policy⟩ attributes []).fields.get? key = some field →
      ∃ attr, field = .ofAttribute attr none policy := by
    apply run_keeps (motive := fun found => ∀ key field, found.fields.get? key = some field →
      ∃ attr, field = .ofAttribute attr none policy)
    · rintro _ _ ⟨⟩
    · intro found attr _ made key field stored
      rw [addAttribute, Table.get?_insert] at stored
      split at stored
      · cases stored
        exact ⟨attr, rfl⟩
      · exact made key field stored
    · rintro _ _ ⟨⟩
  exact made key field stored

/-- A relationship is carried by some field exactly if it is like one that is left. -/
theorem exists_carries_run_iff (owner : String) (schema : SchemaName) (policy : NamingPolicy)
    (attributes : List Attribute) (relationships : List Relationship)
    (relationship : Relationship) :
    (∃ key field, (run ⟨owner, schema, none, policy⟩ attributes relationships).fields.get? key =
      some field ∧
        field.Carries owner schema relationship) ↔
      ∃ entry ∈ lasting (attributes.map (·.name)) relationships,
        entry.2.Alike schema relationship := by
  have follows := follows_foldl_addAttribute ⟨owner, schema, none, policy⟩ attributes follows_nil
  rw [List.nil_append] at follows
  constructor
  · rintro ⟨key, field, stored, carries⟩
    by_cases related : key ∈ relationshipKeys (attributes.map (·.name)) relationships
    · obtain ⟨last, isLast⟩ := exists_lasting_of_mem_relationshipKeys related
      obtain ⟨existing, made⟩ :=
        exists_field_of_mem_lasting ⟨owner, schema, none, policy⟩ follows isLast
      refine ⟨(key, last), isLast, ?_⟩
      cases stored.symm.trans made
      exact (last.carries_field_iff relationship owner schema key existing policy).1 carries
    · rw [run, get?_foldl_addRelationship_of_notMem _ follows related] at stored
      obtain ⟨attr, same⟩ := exists_attribute_of_foldl_addAttribute stored
      exact absurd carries
        (same ▸ Field.not_carries_ofAttribute attr policy owner schema relationship)
  · rintro ⟨⟨key, last⟩, isLast, alike⟩
    obtain ⟨existing, made⟩ :=
      exists_field_of_mem_lasting ⟨owner, schema, none, policy⟩ follows isLast
    exact ⟨key, _, made,
      (last.carries_field_iff relationship owner schema key existing policy).2 alike⟩

end Discovery

namespace Resource

theorem field?_discover_of_fields_eq_nil (name : String) (backend : Backend) (schema : SchemaName)
    (context : Option ContextName) (declaration : Option ResourceDeclaration)
    (policy : NamingPolicy) (parent : Option String)
    (plain : (declaration.map (·.fields)).getD [] = []) (key : String) :
    (discover name backend schema context declaration policy parent).field? key =
      (discover name backend schema context none policy parent).field? key := by
  cases declaration with
  | none => rfl
  | some declaration =>
    have undeclared : declaration.field? key = none := by
      rw [ResourceDeclaration.field?, show declaration.fields = [] from plain]
      rfl
    rw [field?_discover_some, undeclared, Option.map_none, Option.or_none]
    exact Option.map_id'

/-- A relationship of the schema is carried by some field of a resource whose fields are not
declared exactly if it is like one whose field no later relationship takes over. Where no two
relationships can come to one key, each of them is carried. -/
theorem carries_iff_alike_lasting (name : String) (backend : Backend) (schema : SchemaName)
    (context : Option ContextName) (declaration : Option ResourceDeclaration)
    (policy : NamingPolicy) (parent : Option String)
    (plain : (declaration.map (·.fields)).getD [] = []) :
    let resource := discover name backend schema context declaration policy parent
    let relationships := backend.relationships schema
    let lasting := Discovery.lasting ((backend.attributes schema).map (·.name)) relationships
    (∀ relationship,
      (∃ key field, resource.field? key = some field ∧ field.Carries name schema relationship) ↔
        ∃ entry ∈ lasting, entry.2.Alike schema relationship) ∧
      (relationships.Pairwise Relationship.Apart → ∀ relationship ∈ relationships,
        ∃ key field, resource.field? key = some field ∧
        field.Carries name schema relationship) := by
  intro resource relationships lasting
  have carried (relationship : Relationship) :
      (∃ key field, resource.field? key = some field ∧ field.Carries name schema relationship) ↔
        ∃ entry ∈ lasting, entry.2.Alike schema relationship := by
    simp only [resource,
      field?_discover_of_fields_eq_nil name backend schema context declaration policy parent plain]
    exact Discovery.exists_carries_run_iff name schema policy (backend.attributes schema)
      relationships relationship
  refine ⟨carried, fun apart relationship member => ?_⟩
  have all : lasting.map (·.2) = relationships :=
    Discovery.map_lasting_of_nodup (Discovery.nodup_relationshipKeys apart)
  obtain ⟨entry, isLast, own⟩ := List.mem_map.1 (all ▸ member)
  exact (carried relationship).2 ⟨entry, isLast, own ▸ .refl schema entry.2⟩

/-- Comments on posts and photos, which share a foreign key, and the posts. -/
def commentCatalog : SchemaCatalog where
  schemas := [
    { name := ⟨"Comment"⟩
      fields :=
        [{ name := "subject_id", nativeType := "integer" },
          { name := "author_id", nativeType := "integer" }]
      associations := [
        { name := "post", kind := .manyToOne, destination := ⟨"Post"⟩,
          sourceAttribute := some "subject_id" },
        { name := "photo", kind := .manyToOne, destination := ⟨"Photo"⟩,
          sourceAttribute := some "subject_id" },
        { name := "author", kind := .manyToOne, destination := ⟨"Person"⟩ },
        { name := "replies", kind := .oneToMany, destination := ⟨"Comment"⟩ }] },
    { name := ⟨"Post"⟩
      fields := [{ name := "author_id", nativeType := "integer" }]
      associations := [
        { name := "author", kind := .manyToOne, destination := ⟨"Person"⟩ },
        { name := "comments", kind := .oneToMany, destination := ⟨"Comment"⟩ }] }]

def commentDeclaration : ResourceDeclaration :=
  { ResourceDeclaration.simple "comment" "Comment" none with opts := [("paginated", .bool true)] }

/-- The key of the subject is that of the photo, which is declared last, so of the relationships of
comments the post is carried by no field. Those of posts all are. -/
theorem carries_comment :
    (Option.map (·.fields) (some commentDeclaration)).getD [] = [] ∧
      (∀ relationship ∈ (Backend.simple commentCatalog).relationships ⟨"Comment"⟩,
        (∃ key field,
          (discover "comment" (.simple commentCatalog) ⟨"Comment"⟩ none (some commentDeclaration) {}
            none).field? key =
              some field ∧
            field.Carries "comment" ⟨"Comment"⟩ relationship) ↔ relationship.name ≠ "post") ∧
      ∀ relationship ∈ (Backend.simple commentCatalog).relationships ⟨"Post"⟩, ∃ key field,
        (discover "post" (.simple commentCatalog) ⟨"Post"⟩ none none {} none).field? key =
          some field ∧
          field.Carries "post" ⟨"Post"⟩ relationship := by
  have comments := (carries_iff_alike_lasting "comment" (.simple commentCatalog) ⟨"Comment"⟩ none
    (some commentDeclaration) {} none rfl).1
  have posts :=
    (carries_iff_alike_lasting "post" (.simple commentCatalog) ⟨"Post"⟩ none none {} none rfl).2
  refine ⟨rfl, fun relationship member => (comments relationship).trans ?_,
    posts (by decide +kernel)⟩
  revert relationship
  decide +kernel

/-- Items whose place has a key of two parts, embedded under the name of a foreign key. -/
def itemCatalog : SchemaCatalog where
  schemas := [
    { name := ⟨"Item"⟩
      fields := [{ name := "title", nativeType := "string" }]
      associations := [
        { name := "location_id", kind := .embedOne, destination := ⟨"LocationKey"⟩ },
        { name := "location", kind := .manyToOne, destination := ⟨"Location"⟩ }] },
    { name := ⟨"LocationKey"⟩, fields := [{ name := "site", nativeType := "string" }] }]

/-- The location takes the field of the embed over as if it were that of an attribute,
and the embed is lost. -/
theorem locationKey_lost :
    (((Backend.simple itemCatalog).relationships ⟨"Item"⟩).map (·.name)).Nodup ∧
      ∃ relationship ∈ (Backend.simple itemCatalog).relationships ⟨"Item"⟩, ¬ ∃ key field,
        (discover "item" (.simple itemCatalog) ⟨"Item"⟩ none none {} none).field? key = some field ∧
          field.Carries "item" ⟨"Item"⟩ relationship := by
  refine ⟨by decide, _, List.mem_cons_self, ?_⟩
  rintro ⟨key, field, stored, carries⟩
  have others : ∀ entry ∈ (discover "item" (.simple itemCatalog) ⟨"Item"⟩ none none {} none).fields,
      ¬ entry.2.Carries "item" ⟨"Item"⟩
      { name := "location_id", kind := .embedOne, destination := ⟨"LocationKey"⟩ } := by
    decide +kernel
  exact others _ (Table.mem_of_get?_eq_some stored) carries

end Resource

end Backoffice
