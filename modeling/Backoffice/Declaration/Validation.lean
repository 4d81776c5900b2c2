import Backoffice.Catalog.Backend
import Backoffice.Declaration.Application

/-!
Checks on a declaration before anything is made from it: names are usable and not repeated, and what
is referred to exists.
-/

namespace Backoffice

/-- The first name that repeats an earlier one. -/
def repeated? (earlier : List String) : List String → Option String
  | [] => none
  | name :: rest =>
    if earlier.contains name then some name else repeated? (name :: earlier) rest

theorem repeated?_eq_none_iff (earlier names : List String) :
    repeated? earlier names = none ↔ names.Nodup ∧ ∀ name ∈ names, name ∉ earlier := by
  induction names generalizing earlier with
  | nil => simp [repeated?]
  | cons name rest inductionHypothesis =>
    simp only [repeated?, List.contains_iff_mem, List.nodup_cons, List.mem_cons]
    split
    · next found => simp [found]
    · next fresh =>
      rw [inductionHypothesis]
      constructor
      · rintro ⟨distinct, absent⟩
        refine ⟨⟨fun member => absent name member (by simp), distinct⟩, ?_⟩
        rintro other (same | member)
        · exact same ▸ fresh
        · exact fun there => absent other member (by simp [there])
      · rintro ⟨⟨notAfter, distinct⟩, absent⟩
        refine ⟨distinct, fun other member there => ?_⟩
        rcases List.mem_cons.1 there with same | before
        · exact notAfter (same ▸ member)
        · exact absent other (.inr member) before

namespace ResourceDeclaration

/-- A name must not be empty, not look like that of an embedded resource, and not be taken. -/
def validateName (earlier : List String) (name : String) : Except Error Unit :=
  if name = "" then .error (.validation .emptyResourceName)
  else if Text.hasSeparator name then .error (.validation (.reservedSeparator name))
  else if earlier.contains name then .error (.duplicateResource name)
  else .ok ()

def validateBackend (backends : Backends) (declaration : ResourceDeclaration) :
    Except Error Unit := do
  let (kind, schema, _) ← declaration.backend
  match backends.get? kind with
  | none => .error (.unsupportedBackend declaration.name kind)
  | some backend =>
    if backend.hasSchema schema then .ok ()
    else .error (.missingReference .schema schema.text)

def validateFields (declaration : ResourceDeclaration) : Except Error Unit :=
  match repeated? [] (declaration.fields.map (·.name)) with
  | some field => .error (.validation (.repeatedField declaration.name field))
  | none => .ok ()

def validateOperations (declaration : ResourceDeclaration) : Except Error Unit :=
  match declaration.operations.find? fun entry => (LogicalOp.ofOverrideKey? entry.1).isNone with
  | some (key, _) => .error (.validation (.unknownOperationKey declaration.name key))
  | none => .ok ()

def validate (backends : Backends) (earlier : List String) (declaration : ResourceDeclaration) :
    Except Error Unit := do
  validateName earlier declaration.name
  declaration.validateBackend backends
  declaration.validateFields
  declaration.validateOperations

def validateAll (backends : Backends) (earlier : List String) :
    List ResourceDeclaration → Except Error Unit
  | [] => .ok ()
  | declaration :: rest => do
    declaration.validate backends earlier
    validateAll backends (earlier ++ [declaration.name]) rest

end ResourceDeclaration

namespace LayoutDeclaration

/-- The checks on some layouts in their order: each is for a declared resource, or for what is
embedded in one, and no other is for the same. -/
def validateAll (names earlier : List String) : List LayoutDeclaration → Except Error Unit
  | [] => .ok ()
  | layout :: rest =>
    if !names.contains (Text.embedRoot layout.resource) then
      .error (.missingReference .resource layout.resource)
    else if earlier.contains layout.resource then
      .error (.validation (.repeatedLayout layout.resource))
    else validateAll names (earlier ++ [layout.resource]) rest

end LayoutDeclaration

namespace AppDeclaration

def resourceNames (declaration : AppDeclaration) : List String :=
  declaration.resources.map (·.name)

/-- The checks on an application: first on its resources, then on its layouts. -/
def validate (declaration : AppDeclaration) (backends : Backends) : Except Error Unit := do
  ResourceDeclaration.validateAll backends [] declaration.resources
  LayoutDeclaration.validateAll declaration.resourceNames [] declaration.layouts

end AppDeclaration

end Backoffice
