import Backoffice.Proofs.Resource.Customization
import Backoffice.Proofs.Resource.Operations
import Backoffice.Proofs.Resource.Provenance

/-!
The flags of fields: a field is disabled, hidden or omitted as its declaration says, and if that
says nothing, as the naming policy says for its key.

A field is made in four ways, and a relationship may take one over from another. Each way
starts from the flags of the policy for the key under which the field is stored, and
customizing is all that changes them.
-/

namespace Backoffice

/-- Whether the flags of the field of a key are those of its declaration, or
else those of the policy. -/
structure Field.FlaggedBy (policy : NamingPolicy) (declaration : Option FieldDeclaration)
    (key : String) (field : Field) : Prop where
  disabled : field.disabled = (declaration.bind (·.disabled)).getD (policy.isDisabled key)
  hidden : field.hidden = (declaration.bind (·.hidden)).getD (policy.isHidden key)
  omitted : field.omitted = (declaration.bind (·.omitted)).getD (policy.isOmitted key)
  key : field.key = key

variable {policy : NamingPolicy}

/-! ### One field -/

namespace Field

variable {declaration : Option FieldDeclaration} {key : String} {field : Field}

theorem FlaggedBy.declaredAs (flagged : field.FlaggedBy policy none key)
    (declaration : Option FieldDeclaration) :
    (field.declaredAs declaration).FlaggedBy policy declaration key := by
  cases declaration with
  | none => exact flagged
  | some declaration =>
    constructor
    · exact congrArg declaration.disabled.getD flagged.disabled
    · exact congrArg declaration.hidden.getD flagged.hidden
    · exact congrArg declaration.omitted.getD flagged.omitted
    · exact flagged.key

theorem FlaggedBy.linkField (flagged : field.FlaggedBy policy declaration key)
    (registry : Registry) :
    (registry.linkField field).FlaggedBy policy declaration key := by
  rw [Registry.linkField]
  split
  · exact ⟨flagged.disabled, flagged.hidden, flagged.omitted, flagged.key⟩
  · exact flagged

theorem flaggedBy_ofDeclaration (declaration : FieldDeclaration) :
    (ofDeclaration declaration policy).FlaggedBy policy (some declaration) declaration.name :=
  ⟨rfl, rfl, rfl, rfl⟩

theorem flaggedBy_ofAttribute (attr : Attribute) :
    (ofAttribute attr none policy).FlaggedBy policy none attr.name := by
  unfold ofAttribute ofPlainAttribute
  cases restriction attr with
  | none => exact ⟨rfl, rfl, rfl, rfl⟩
  | some values => exact ⟨rfl, rfl, rfl, rfl⟩

end Field

theorem Relationship.flaggedBy_field (relationship : Relationship) (owner : String)
    (schema : SchemaName) {key : String} {existing : Option Field}
    (taken : ∀ field, existing = some field → field.FlaggedBy policy none key) :
    (relationship.field owner schema key existing none policy).FlaggedBy policy none key := by
  cases existing with
  | none => exact ⟨rfl, rfl, rfl, rfl⟩
  | some field =>
    obtain ⟨disabled, hidden, omitted, own⟩ := taken field rfl
    exact ⟨disabled, hidden, omitted, own⟩

/-! ### All fields of a resource -/

def Discovery.FlaggedBy (policy : NamingPolicy) (found : Discovery) : Prop :=
  ∀ key field, found.fields.get? key = some field → field.FlaggedBy policy none key

def Resource.FlaggedBy (policy : NamingPolicy) (declaration : Option ResourceDeclaration)
    (resource : Resource) : Prop :=
  ∀ key field, resource.field? key = some field →
    field.FlaggedBy policy (declaration.bind (·.field? key)) key

namespace Discovery

variable {found : Discovery} {owner : String} {schema : SchemaName}

theorem FlaggedBy.addAttribute (flagged : found.FlaggedBy policy) (attr : Attribute) :
    (addAttribute ⟨owner, schema, none, policy⟩ found attr).FlaggedBy policy := by
  intro key field stored
  rw [Discovery.addAttribute, Table.get?_insert] at stored
  split at stored
  · next same =>
    cases stored
    exact same ▸ Field.flaggedBy_ofAttribute attr
  · exact flagged key field stored

theorem FlaggedBy.addRelationship (flagged : found.FlaggedBy policy) (relationship : Relationship) :
    (addRelationship ⟨owner, schema, none, policy⟩ found relationship).FlaggedBy policy := by
  intro key field stored
  simp only [Discovery.addRelationship, Table.get?_insert] at stored
  split at stored
  · next same =>
    cases stored
    rw [same]
    exact relationship.flaggedBy_field owner schema fun field taken => flagged key field taken
  · exact flagged key field stored

theorem flaggedBy_run (attributes : List Attribute) (relationships : List Relationship) :
    (run ⟨owner, schema, none, policy⟩ attributes relationships).FlaggedBy policy := by
  apply run_keeps (motive := Discovery.FlaggedBy policy)
  · intro key field stored
    cases stored
  · exact fun _ attr _ flagged => flagged.addAttribute attr
  · exact fun _ relationship _ flagged => flagged.addRelationship relationship

end Discovery

namespace Resource

variable {name : String} {backend : Backend} {schema : SchemaName} {context : Option ContextName}
  {parent : Option String}

theorem flaggedBy_discover (declaration : Option ResourceDeclaration) :
    (discover name backend schema context declaration policy parent).FlaggedBy
      policy declaration := by
  have undeclared :
      (discover name backend schema context none policy parent).FlaggedBy policy none :=
    Discovery.flaggedBy_run _ _
  cases declaration with
  | none => exact undeclared
  | some declaration =>
    intro key field stored
    rw [field?_discover_some, Option.or_eq_some_iff, Option.map_eq_some_iff] at stored
    rcases stored with ⟨plain, found, same⟩ | ⟨_, onlyDeclared⟩
    · subst same
      exact (undeclared key plain found).declaredAs _
    · obtain ⟨custom, found, same⟩ := Option.map_eq_some_iff.1 onlyDeclared
      subst same
      have named : custom.name = key := by simpa using List.find?_some found
      rw [Option.bind_some, found]
      exact named ▸ Field.flaggedBy_ofDeclaration custom

end Resource

/-- Every field of a registered resource has the flags of its declaration, or else those of the
policy. What is embedded has no declaration. -/
theorem Registry.flaggedBy_of_build_eq_ok {declarations : List ResourceDeclaration}
    {backends : Backends} {registry : Registry}
    (succeeded : build declarations backends policy = .ok registry) {resource : Resource}
    (member : resource ∈ registry.resources) :
    resource.FlaggedBy policy (declarations.find? (·.name = resource.name)) := by
  obtain ⟨registered, original, discovered, bare⟩ :=
    exists_discovered_of_build_eq_ok succeeded member
  have flagged : original.FlaggedBy policy (declarations.find? (·.name = resource.name)) := by
    cases discovered with
    | @declared declaration backend schema context isDeclared =>
      have named : resource.name = declaration.name := congrArg (·.name) bare
      rw [named, find?_key_eq_some (nodup_declared_of_build_eq_ok succeeded) isDeclared]
      exact Resource.flaggedBy_discover _
    | @embedded parent embed _ _ =>
      -- No declaration has the name of an embedded resource, so none of its flags are declared.
      have embedded : resource.isEmbedded = true := congrArg (·.isEmbedded) bare
      have undeclared : declarations.find? (·.name = resource.name) = none := by
        rw [List.find?_eq_none]
        intro declaration isDeclared same
        exact name_ne_of_isEmbedded succeeded member embedded declaration isDeclared
          (of_decide_eq_true same).symm
      rw [undeclared]
      exact Resource.flaggedBy_discover none
  intro key field stored
  have linked : resource.field? key = (registered.linkResource original).field? key :=
    congrArg (·.field? key) bare
  rw [linked, field?_linkResource, Option.map_eq_some_iff] at stored
  obtain ⟨plain, found, link⟩ := stored
  subst link
  exact (flagged key plain found).linkField registered

end Backoffice
