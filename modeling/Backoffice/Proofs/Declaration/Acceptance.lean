import Backoffice.Proofs.Declaration.Validation
import Backoffice.Proofs.Operation.Overrides
import Mathlib.Data.List.Perm.Basic

/-!
Which applications the checks accept: those of which a list of conditions holds, each of them about
all resources or all layouts at once. None of them speaks of an order, so the checks accept an
application with its resources or its layouts in another order just as well.
-/

namespace Backoffice

theorem ResourceDeclaration.usable_iff {declaration : ResourceDeclaration} {backends : Backends} :
    declaration.Usable backends ↔
      declaration.name ≠ "" ∧ ¬ Text.Separated declaration.name ∧ declaration.Backed backends ∧
        (declaration.fields.map (·.name)).Nodup ∧
        ∀ entry ∈ declaration.operations, ∃ op : LogicalOp,
          Text.snakeCase entry.1 ∈ op.overrideKeys := by
  simp only [← LogicalOp.isSome_ofOverrideKey?_iff, ← validateBackend_eq_ok_iff,
    ← Text.hasSeparator_iff, Bool.not_eq_true]
  constructor
  · rintro ⟨named, plain, backed, fields, operations⟩
    exact ⟨named, plain, backed, fields, operations⟩
  · rintro ⟨named, plain, backed, fields, operations⟩
    exact ⟨named, plain, backed, fields, operations⟩

namespace AppDeclaration

/-- An application that can be built on. -/
structure Acceptable (declaration : AppDeclaration) (backends : Backends) : Prop where
  named : ∀ resource ∈ declaration.resources, resource.name ≠ ""
  /-- No resource has a name that one of an embed could have. -/
  plain : ∀ resource ∈ declaration.resources, ¬ Text.Separated resource.name
  distinct : (declaration.resources.map (·.name)).Nodup
  backed : ∀ resource ∈ declaration.resources, resource.Backed backends
  fields : ∀ resource ∈ declaration.resources, (resource.fields.map (·.name)).Nodup
  /-- Every override key is, in snake case, one of some operation. -/
  operations : ∀ resource ∈ declaration.resources, ∀ entry ∈ resource.operations,
    ∃ op : LogicalOp, Text.snakeCase entry.1 ∈ op.overrideKeys
  /-- Every layout is for a declared resource, or for what is embedded in one. -/
  layouts : ∀ layout ∈ declaration.layouts, ∃ resource ∈ declaration.resources,
    Text.IsRoot resource.name layout.resource
  layoutsDistinct : (declaration.layouts.map (·.resource)).Nodup

variable {declaration other : AppDeclaration} {backends : Backends}

theorem exists_isRoot_iff {name : String} :
    Text.embedRoot name ∈ declaration.resourceNames ↔
      ∃ resource ∈ declaration.resources, Text.IsRoot resource.name name := by
  simp only [resourceNames, List.mem_map, ← Text.embedRoot_eq_iff, eq_comm]

theorem acceptable_iff :
    declaration.validate backends = .ok () ↔ declaration.Acceptable backends := by
  rw [validate, Outcome.check_bind_eq_ok_iff, ResourceDeclaration.validateAll_eq_ok_iff,
    LayoutDeclaration.validateAll_eq_ok_iff]
  simp only [ResourceDeclaration.usable_iff, exists_isRoot_iff]
  constructor
  · rintro ⟨⟨usable, distinct, _⟩, layouts, layoutsDistinct, _⟩
    exact {
      named := fun resource member => (usable resource member).1
      plain := fun resource member => (usable resource member).2.1
      distinct
      backed := fun resource member => (usable resource member).2.2.1
      fields := fun resource member => (usable resource member).2.2.2.1
      operations := fun resource member => (usable resource member).2.2.2.2
      layouts
      layoutsDistinct }
  · intro acceptable
    refine ⟨⟨?_, acceptable.distinct, by simp⟩, acceptable.layouts,
      acceptable.layoutsDistinct, by simp⟩
    intro resource member
    exact ⟨acceptable.named resource member, acceptable.plain resource member,
      acceptable.backed resource member, acceptable.fields resource member,
      acceptable.operations resource member⟩

/-- No condition depends on the order of the resources or on that of the layouts. -/
theorem Acceptable.of_perm (resources : declaration.resources.Perm other.resources)
    (layouts : declaration.layouts.Perm other.layouts)
    (acceptable : declaration.Acceptable backends) :
    other.Acceptable backends where
  named := fun resource member => acceptable.named resource (resources.mem_iff.2 member)
  plain := fun resource member => acceptable.plain resource (resources.mem_iff.2 member)
  distinct := (resources.map _).nodup_iff.1 acceptable.distinct
  backed := fun resource member => acceptable.backed resource (resources.mem_iff.2 member)
  fields := fun resource member => acceptable.fields resource (resources.mem_iff.2 member)
  operations := fun resource member => acceptable.operations resource (resources.mem_iff.2 member)
  layouts := by
    intro layout member
    obtain ⟨resource, declared, isRoot⟩ := acceptable.layouts layout (layouts.mem_iff.2 member)
    exact ⟨resource, resources.mem_iff.1 declared, isRoot⟩
  layoutsDistinct := (layouts.map _).nodup_iff.1 acceptable.layoutsDistinct

/-- The checks accept exactly the acceptable applications, whatever the order of their
resources and layouts. -/
theorem validate_eq_ok_iff_acceptable (declaration : AppDeclaration) (backends : Backends) :
    (declaration.validate backends = .ok () ↔ declaration.Acceptable backends) ∧
      ∀ other : AppDeclaration, declaration.resources.Perm other.resources →
        declaration.layouts.Perm other.layouts →
          (declaration.validate backends = .ok () ↔ other.validate backends = .ok ()) := by
  refine ⟨acceptable_iff, ?_⟩
  intro other resources layouts
  rw [acceptable_iff, acceptable_iff]
  exact ⟨.of_perm resources layouts, .of_perm resources.symm layouts.symm⟩

def shelfBackends : Backends where
  simple := some { schemas := [{ name := ⟨"Book"⟩, fields := [] }] }
  declarative := some { resources := [{ name := ⟨"Loan"⟩, attributes := [] }] }

def shelf : AppDeclaration where
  resources := [
    { ResourceDeclaration.simple "book" "Book" none with
      operations := [("listFunction", some "all_books")] },
    .declarative "loan" "Loan" none]
  layouts := [{ resource := "loan" }, { resource := "book__meta" }]

theorem acceptable_shelf : shelf.Acceptable shelfBackends ∧
    { shelf with resources := shelf.resources.reverse, layouts := shelf.layouts.reverse }.validate
      shelfBackends =
      .ok () := by
  have valid : shelf.validate shelfBackends = .ok () := by decide +kernel
  obtain ⟨accepted, reordered⟩ := validate_eq_ok_iff_acceptable shelf shelfBackends
  refine ⟨accepted.1 valid, (reordered _ ?_ ?_).1 valid⟩
  · exact (List.reverse_perm _).symm
  · exact (List.reverse_perm _).symm

end AppDeclaration

end Backoffice
