import Backoffice.Catalog.Backend
import Backoffice.Field.Derivation

/-!
Fields made from relationships.

A relationship to one entity takes over the attribute that holds its foreign key, where the schema
has one; every other relationship has a field under its own name.
-/

namespace Backoffice

namespace RelationshipKind

def fieldType : RelationshipKind → FieldType
  | manyToOne => .manyToOne
  | oneToMany => .oneToMany
  | embedOne => .embedOne
  | embedMany => .embedMany

end RelationshipKind

namespace Relationship

/-- The key on the owning side of a relationship to one entity: by default its name with `_id`. -/
def foreignKey (relationship : Relationship) : String :=
  relationship.sourceAttribute.getD (relationship.name ++ "_id")

/-- The key of the field of the relationship, beside the fields there are. -/
def fieldKey (relationship : Relationship) (fields : Table Field) : String :=
  if relationship.kind = .manyToOne ∧ fields.contains relationship.foreignKey then
    relationship.foreignKey
  else relationship.name

/-- What the field of the relationship leads to, for an owner of a name and a schema. -/
def fieldData (relationship : Relationship) (owner : String) (ownerSchema : SchemaName)
    (declaration : Option FieldDeclaration) : FieldData :=
  let optionLabel := declaration.bind (·.optionLabel)
  let queryOpts := (declaration.bind (·.queryOpts)).getD {}
  match relationship.kind with
  | .manyToOne =>
    .association
      { ownerKey := relationship.foreignKey
        related := relationship.destination
        relatedKey := relationship.destinationAttribute.getD "id"
        optionLabel
        queryOpts }
  | .oneToMany =>
    .association
      { ownerKey := relationship.sourceAttribute.getD "id"
        related := relationship.destination
        relatedKey := relationship.destinationAttribute.getD
          (Text.snakeCase (Text.lastSegment ownerSchema.text) ++ "_id")
        optionLabel
        queryOpts }
  | .embedOne | .embedMany =>
    .embed
      { owner
        resource := Text.embedName owner relationship.name
        related := relationship.destination }

/-- The field of the relationship before it is customized: the field it takes over, if any, with
another type and without constraints on numbers, or a new one. -/
def plainField (relationship : Relationship) (key : String) (existing : Option Field)
    (policy : NamingPolicy) : Field :=
  let type := relationship.kind.fieldType
  let field := match existing with
    | some field =>
      { field with
        type
        htmlType := type.htmlType
        length := type.defaultLength
        precision := 0
        scale := 0 }
    | none => .base key type type.htmlType type.defaultLength policy
  { field with filterable := relationship.kind = .manyToOne }

def field (relationship : Relationship) (owner : String) (ownerSchema : SchemaName) (key : String)
    (existing : Option Field) (declaration : Option FieldDeclaration) (policy : NamingPolicy) :
    Field :=
  Field.customizedBy
    { relationship.plainField key existing policy with
      data := relationship.fieldData owner ownerSchema declaration }
    declaration

end Relationship

end Backoffice
