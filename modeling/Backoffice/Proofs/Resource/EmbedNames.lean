import Backoffice.Proofs.Resource.Customization
import Backoffice.Proofs.Resource.Descent
import Backoffice.Proofs.Resource.Discovery
import Backoffice.Proofs.Table
import Backoffice.Proofs.Text.Separator
import Mathlib.Data.List.Nodup
import Mathlib.Logic.Relation

/-!
The names of embedded resources, and when no two of them are the same.

The name of an embedded resource is that of its parent, the separator and a key. Where it can be
told which separator of a name is the last one, no name has two parents, so names are in as many
places below each other as the resources that have them.
-/

namespace Backoffice

/-! ### The embeds of one resource -/

namespace Field

theorem embed?_ofAttribute (attr : Attribute) (policy : NamingPolicy) :
    (ofAttribute attr none policy).embed? = none := by
  unfold ofAttribute ofPlainAttribute
  cases restriction attr with
  | none => rfl
  | some values => rfl

theorem embed?_of_declaredAs {field : Field} {declaration : Option FieldDeclaration}
    {embed : EmbedData} (embeds : (field.declaredAs declaration).embed? = some embed) :
    field.embed? = some embed := by
  cases declaration with
  | none => exact embeds
  | some declaration =>
    simp only [embed?, declaredAs, offering, customize, customizedData] at embeds ⊢
    generalize declaration.options = options at embeds
    generalize declaration.multiple = multiple at embeds
    generalize field.data = data at embeds ⊢
    cases options with
    | some options => cases embeds
    | none =>
      cases data with
      | embed found => cases multiple <;> exact embeds
      | _ => cases multiple <;> cases embeds

theorem embed?_ofDeclaration (declaration : FieldDeclaration) (policy : NamingPolicy) :
    (ofDeclaration declaration policy).embed? = none := by
  simp only [embed?, ofDeclaration, base, customize, customizedData]
  generalize declaration.options = options
  generalize declaration.multiple = multiple
  cases options with
  | some options => rfl
  | none => cases multiple <;> rfl

end Field

namespace Relationship

variable {relationship : Relationship} {owner : String} {embed : EmbedData}

def embed? (relationship : Relationship) (owner : String) : Option EmbedData :=
  match relationship.kind with
  | .embedOne | .embedMany =>
    some
      { owner, resource := Text.embedName owner relationship.name,
        related := relationship.destination }
  | .manyToOne | .oneToMany => none

/-- What the field of a relationship embeds does not depend on the field that it takes over. -/
theorem embed?_field (relationship : Relationship) (owner : String) (schema : SchemaName)
    (key : String) (existing : Option Field) (policy : NamingPolicy) :
    (relationship.field owner schema key existing none policy).embed? =
      relationship.embed? owner := by
  change (relationship.fieldData owner schema none).embed? = _
  rw [fieldData, embed?]
  cases relationship.kind <;> rfl

theorem embed?_eq_some_iff : relationship.embed? owner = some embed ↔
    relationship.kind ∈ [.embedOne, .embedMany] ∧
      ⟨owner, Text.embedName owner relationship.name, relationship.destination⟩ = embed := by
  rw [embed?]
  cases relationship.kind <;> simp

theorem fieldKey_of_embed? (embeds : relationship.embed? owner = some embed)
    (fields : Table Field) :
    relationship.fieldKey fields = relationship.name := by
  have kind := (embed?_eq_some_iff.1 embeds).1
  rw [fieldKey, if_neg]
  rintro ⟨toOne, _⟩
  rw [toOne] at kind
  simp at kind

end Relationship

namespace Discovery

def EmbedsFrom (owner : String) (relationships : List Relationship) (found : Discovery) : Prop :=
  ∀ key field embed, found.fields.get? key = some field → field.embed? = some embed →
    ∃ relationship ∈ relationships, relationship.name = key ∧ relationship.embed? owner = some embed

variable {owner : String} {schema : SchemaName} {policy : NamingPolicy} {found : Discovery}
  {relationships : List Relationship}

theorem EmbedsFrom.addAttribute (traced : found.EmbedsFrom owner relationships) (attr : Attribute) :
    (addAttribute ⟨owner, schema, none, policy⟩ found attr).EmbedsFrom owner relationships := by
  intro key field embed stored embeds
  rw [Discovery.addAttribute, Table.get?_insert] at stored
  split at stored
  · cases stored
    change (Field.ofAttribute attr none policy).embed? = _ at embeds
    rw [Field.embed?_ofAttribute] at embeds
    cases embeds
  · exact traced key field embed stored embeds

theorem EmbedsFrom.addRelationship (traced : found.EmbedsFrom owner relationships)
    {relationship : Relationship} (listed : relationship ∈ relationships) :
    (addRelationship ⟨owner, schema, none, policy⟩ found relationship).EmbedsFrom owner
      relationships := by
  intro key field embed stored embeds
  simp only [Discovery.addRelationship, Table.get?_insert] at stored
  split at stored
  · next same =>
    cases stored
    have own : relationship.embed? owner = some embed := by
      rw [← embeds]
      exact (relationship.embed?_field owner schema _ _ policy).symm
    exact ⟨relationship, listed, (Relationship.fieldKey_of_embed? own found.fields).symm.trans same,
      own⟩
  · exact traced key field embed stored embeds

theorem embedsFrom_run (attributes : List Attribute) (relationships : List Relationship) :
    (run ⟨owner, schema, none, policy⟩ attributes relationships).EmbedsFrom owner
      relationships := by
  apply run_keeps (motive := EmbedsFrom owner relationships)
  · intro key field embed stored
    cases stored
  · exact fun _ attr _ traced => traced.addAttribute attr
  · exact fun _ _ listed traced => traced.addRelationship listed

end Discovery

namespace Resource

def NamesEmbeds (resource : Resource) : Prop :=
  ∀ key field embed, resource.field? key = some field → field.embed? = some embed →
    embed.resource = Text.embedName resource.name key

def EmbedsFromSchema (resource : Resource) : Prop :=
  ∀ key field embed, resource.field? key = some field → field.embed? = some embed →
    ∃ relationship ∈ resource.backend.relationships resource.schema,
      relationship.name = key ∧ relationship.embed? resource.name = some embed

section Discovered

variable {name : String} {backend : Backend} {schema : SchemaName} {context : Option ContextName}
  {policy : NamingPolicy} {parent : Option String}

theorem embedsFromSchema_discover (declaration : Option ResourceDeclaration) :
    (discover name backend schema context declaration policy parent).EmbedsFromSchema := by
  have undeclared : (discover name backend schema context none policy parent).EmbedsFromSchema :=
    Discovery.embedsFrom_run _ _
  cases declaration with
  | none => exact undeclared
  | some declaration =>
    intro key field embed stored embeds
    rw [field?_discover_some, Option.or_eq_some_iff, Option.map_eq_some_iff, Option.map_eq_some_iff]
      at stored
    rcases stored with ⟨plain, found, same⟩ | ⟨_, custom, _, same⟩
    · subst same
      exact undeclared key plain embed found (Field.embed?_of_declaredAs embeds)
    · subst same
      rw [Field.embed?_ofDeclaration] at embeds
      cases embeds

theorem namesEmbeds_discover (declaration : Option ResourceDeclaration) :
    (discover name backend schema context declaration policy parent).NamesEmbeds := by
  intro key field embed stored embeds
  obtain ⟨relationship, _, named, own⟩ :=
    embedsFromSchema_discover declaration key field embed stored embeds
  obtain ⟨_, same⟩ := Relationship.embed?_eq_some_iff.1 own
  rw [← same, named]

end Discovered

variable {resource : Resource}

theorem exists_key_of_mem_embeds (named : resource.NamesEmbeds) {embed : EmbedData}
    (member : embed ∈ resource.embeds) : ∃ key field, resource.field? key = some field ∧
      field.embed? = some embed ∧ embed.resource = Text.embedName resource.name key := by
  obtain ⟨key, field, stored, embeds⟩ := exists_field_of_mem_embeds member
  exact ⟨key, field, stored, embeds, named key field embed stored embeds⟩

/-- No two embeds of a resource have the same name. -/
theorem nodup_embeds (names : resource.NamesEmbeds) (order : resource.order.Nodup) :
    (resource.embeds.map (·.resource)).Nodup := by
  rw [embeds, orderedFields, List.filterMap_filterMap, List.map_filterMap]
  refine order.filterMap ?_
  intro key other name ofKey ofOther
  obtain ⟨embed, found, named⟩ := Option.map_eq_some_iff.1 ofKey
  obtain ⟨embedOther, foundOther, namedOther⟩ := Option.map_eq_some_iff.1 ofOther
  obtain ⟨field, stored, embeds⟩ := Option.bind_eq_some_iff.1 found
  obtain ⟨fieldOther, storedOther, embedsOther⟩ := Option.bind_eq_some_iff.1 foundOther
  apply Text.embedName_cancel_left
  rw [← names key field embed stored embeds,
    ← names other fieldOther embedOther storedOther embedsOther, named, namedOther]

/-! ### Names below each other -/

/-- Whether a name is that of an embed in a resource of another name, and
can be taken apart again. -/
def NamedIn (parent name : String) : Prop :=
  ¬ Text.EndsInUnderscore parent ∧ ∃ key, Text.hasSeparator key = false ∧
    Text.embedName parent key = name

def NamedUnder : String → String → Prop :=
  Relation.ReflTransGen NamedIn

variable {name parent other : String}

theorem NamedIn.unique (first : NamedIn parent name) (second : NamedIn other name) :
    parent = other := by
  obtain ⟨lastParent, key, plainKey, same⟩ := first
  obtain ⟨lastOther, field, plainField, sameOther⟩ := second
  exact (Text.eq_of_embedName_eq lastParent lastOther plainKey plainField
    (same.trans sameOther.symm)).1

theorem NamedIn.length_lt (named : NamedIn parent name) :
    parent.toList.length < name.toList.length := by
  obtain ⟨_, key, _, same⟩ := named
  exact same ▸ Text.length_lt_length_embedName

theorem NamedUnder.length_le (under : NamedUnder parent name) :
    parent.toList.length ≤ name.toList.length := by
  induction under with
  | refl => exact Nat.le_refl _
  | tail _ named inductionHypothesis =>
    have := named.length_lt
    omega

theorem NamedUnder.total (first : NamedUnder parent name) (second : NamedUnder other name) :
    NamedUnder parent other ∨ NamedUnder other parent := by
  have unique : Relator.RightUnique (Function.swap NamedIn) := fun _ _ _ => NamedIn.unique
  rcases Relation.ReflTransGen.total_of_right_unique unique (Relation.reflTransGen_swap.2 first)
    (Relation.reflTransGen_swap.2 second) with upwards | upwards
  · exact .inr (Relation.reflTransGen_swap.1 upwards)
  · exact .inl (Relation.reflTransGen_swap.1 upwards)

theorem NamedUnder.eq_of_namedIn {owner : String} (inOwner : NamedIn owner parent)
    (otherInOwner : NamedIn owner other) (first : NamedUnder parent name)
    (second : NamedUnder other name) :
    parent = other := by
  -- What is above one of two names in an owner is above the owner, and so not the other one.
  have top {upper lower : String} (upperIn : NamedIn owner upper) (lowerIn : NamedIn owner lower)
      (under : NamedUnder upper lower) : upper = lower := by
    cases under with
    | refl => rfl
    | tail above named =>
      rw [named.unique lowerIn] at above
      have := upperIn.length_lt
      have := NamedUnder.length_le above
      omega
  rcases first.total second with under | under
  · exact top inOwner otherInOwner under
  · exact (top otherInOwner inOwner under).symm

theorem NamedUnder.eq_of_plain (plain : Text.hasSeparator parent = false)
    (plainOther : Text.hasSeparator other = false) (first : NamedUnder parent name)
    (second : NamedUnder other name) : parent = other := by
  have top {upper lower : String} (plain : Text.hasSeparator lower = false)
      (under : NamedUnder upper lower) : upper = lower := by
    cases under with
    | refl => rfl
    | tail _ named =>
      obtain ⟨_, key, _, same⟩ := named
      rw [← same, Text.hasSeparator_embedName] at plain
      cases plain
  rcases first.total second with under | under
  · exact top plainOther under
  · exact (top plain under).symm

/-! ### Descents -/

/-- Whether the separator can be found again in the names of the embeds. -/
def Separates (resource : Resource) : Prop :=
  ∀ key field, resource.field? key = some field → field.embed?.isSome →
    ¬ Text.EndsInUnderscore resource.name ∧ Text.hasSeparator key = false

variable {policy : NamingPolicy} {root parent child : Resource} {chain : List SchemaName}
  {embed : EmbedData} {pending rest : List EmbedData} {below siblings : List Resource}

theorem separates_of_forall_fields (fields : ∀ entry ∈ resource.fields, entry.2.embed?.isSome →
    ¬ Text.EndsInUnderscore resource.name ∧ Text.hasSeparator entry.1 = false) :
    resource.Separates :=
  fun key field stored embeds => fields (key, field) (Table.mem_of_get?_eq_some stored) embeds

theorem Separates.namedIn (separates : resource.Separates) (names : resource.NamesEmbeds) :
    ∀ embed ∈ resource.embeds, NamedIn resource.name embed.resource := by
  intro embed member
  obtain ⟨key, field, stored, embeds, named⟩ := exists_key_of_mem_embeds names member
  obtain ⟨last, plain⟩ := separates key field stored (embeds ▸ rfl)
  exact ⟨last, key, plain, named.symm⟩

/-- Resources with different names, each of them below the name of one of some embeds. -/
structure Apart (pending : List EmbedData) (resources : List Resource) : Prop where
  nodup : (resources.map (·.name)).Nodup
  under : ∀ resource ∈ resources, ∃ embed ∈ pending, NamedUnder embed.resource resource.name

theorem Apart.nil : Apart pending [] := ⟨List.nodup_nil, nofun⟩

/-- A resource is apart from what is below its embeds. -/
theorem Apart.whole (inRoot : ∀ embed ∈ root.embeds, NamedIn root.name embed.resource)
    (apart : Apart root.embeds below) :
    ((root :: below).map (·.name)).Nodup ∧ ∀ resource ∈ root :: below,
      NamedUnder root.name resource.name := by
  constructor
  · rw [List.map_cons, List.nodup_cons]
    refine ⟨?_, apart.nodup⟩
    intro member
    obtain ⟨resource, found, same⟩ := List.mem_map.1 member
    obtain ⟨embed, own, under⟩ := apart.under resource found
    have := (inRoot embed own).length_lt
    have := under.length_le
    rw [same] at this
    omega
  · rw [List.forall_mem_cons]
    refine ⟨.refl, ?_⟩
    intro resource found
    obtain ⟨embed, own, under⟩ := apart.under resource found
    exact .head (inRoot embed own) under

theorem Apart.cons (named : child.name = embed.resource)
    (inChild : ∀ inner ∈ child.embeds, NamedIn child.name inner.resource)
    (inParent : ∀ other ∈ embed :: rest, NamedIn parent.name other.resource)
    (distinct : ((embed :: rest).map (·.resource)).Nodup) (deeper : Apart child.embeds below)
    (others : Apart rest siblings) : Apart (embed :: rest) (child :: (below ++ siblings)) := by
  obtain ⟨nodup, underChild⟩ := deeper.whole inChild
  rw [named] at underChild
  constructor
  · rw [← List.cons_append, List.map_append, List.nodup_append]
    refine ⟨nodup, others.nodup, ?_⟩
    intro name inFirst other inOthers same
    obtain ⟨resource, member, isName⟩ := List.mem_map.1 inFirst
    obtain ⟨sibling, memberOther, isOther⟩ := List.mem_map.1 inOthers
    obtain ⟨next, later, under⟩ := others.under sibling memberOther
    rw [isOther, ← same, ← isName] at under
    have equal : embed.resource = next.resource :=
      NamedUnder.eq_of_namedIn (inParent embed List.mem_cons_self)
        (inParent next (List.mem_cons_of_mem _ later)) (underChild resource member) under
    rw [List.map_cons, List.nodup_cons] at distinct
    exact distinct.1 (equal ▸ List.mem_map_of_mem later)
  · rw [← List.cons_append, List.forall_mem_append]
    constructor
    · exact fun resource member => ⟨embed, List.mem_cons_self, underChild resource member⟩
    · intro sibling member
      obtain ⟨next, later, under⟩ := others.under sibling member
      exact ⟨next, List.mem_cons_of_mem _ later, under⟩

theorem apart_of_synthesize_eq_ok (resources : List Resource)
    (succeeded : synthesize policy parent chain pending = .ok resources)
    (names : parent.NamesEmbeds) (parentSeparates : parent.Separates)
    (separates : ∀ resource ∈ resources, resource.Separates)
    (own : ∀ embed ∈ pending, embed ∈ parent.embeds) (distinct : (pending.map (·.resource)).Nodup) :
    Apart pending resources := by
  induction parent, chain, pending using synthesize.induct policy generalizing resources with
  | case1 parent chain =>
    rw [synthesize_nil] at succeeded
    cases succeeded
    exact .nil
  | case2 parent chain embed rest repeated =>
    exact absurd repeated (synthesize_cons_eq_ok_iff.1 succeeded).1
  | case3 parent chain embed rest fresh child hypothesisBelow hypothesisOthers =>
    obtain ⟨_, below, siblings, succeededBelow, succeededOthers, same⟩ :=
      synthesize_cons_eq_ok_iff.1 succeeded
    subst same
    rw [List.forall_mem_cons, List.forall_mem_append] at separates
    obtain ⟨childSeparates, belowSeparate, siblingsSeparate⟩ := separates
    have childNames : child.NamesEmbeds := namesEmbeds_discover none
    have childDistinct : (child.embeds.map (·.resource)).Nodup :=
      nodup_embeds childNames (nodup_order_discover List.nodup_nil)
    have inParent : ∀ other ∈ embed :: rest, NamedIn parent.name other.resource :=
      fun other member => parentSeparates.namedIn names other (own other member)
    refine .cons rfl (childSeparates.namedIn childNames) inParent distinct ?_ ?_
    · exact hypothesisBelow below succeededBelow childNames childSeparates belowSeparate
        (fun _ member => member) childDistinct
    · exact hypothesisOthers siblings succeededOthers names parentSeparates siblingsSeparate
        (fun other member => own other (List.mem_cons_of_mem _ member))
          (List.nodup_cons.1 distinct).2

/-- A resource and all resources that are found in it have names of their own,
which are below its name. -/
theorem nodup_names_of_synthesizeEmbeds_eq_ok {embedded : List Resource}
    (succeeded : root.synthesizeEmbeds policy = .ok embedded) (names : root.NamesEmbeds)
    (order : root.order.Nodup) (separates : ∀ resource ∈ root :: embedded, resource.Separates) :
    ((root :: embedded).map (·.name)).Nodup ∧
      ∀ resource ∈ root :: embedded, NamedUnder root.name resource.name := by
  rw [List.forall_mem_cons] at separates
  have apart : Apart root.embeds embedded := apart_of_synthesize_eq_ok embedded succeeded names
    separates.1 separates.2 (fun _ member => member) (nodup_embeds names order)
  exact apart.whole (separates.1.namedIn names)

end Resource

end Backoffice
