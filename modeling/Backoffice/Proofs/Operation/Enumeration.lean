import Backoffice.Operation.Resolution
import Backoffice.Proofs.Operation.Overrides

/-!
Overrides in any order of their entries.

Only the name of an operation may depend on the order, where several keys have one spelling. Then
the first of their entries decides, and each of them is the first in some order.
-/

namespace Backoffice

namespace OperationOverrides

def spelled (overrides : OperationOverrides) (spelling : String) : Table (Option String) :=
  overrides.names.filter fun entry => Text.snakeCase entry.1 = spelling

def spelling? (overrides : OperationOverrides) (op : LogicalOp) : Option String :=
  op.overrideKeys.find? fun wanted => !(overrides.spelled wanted).isEmpty

/-- The entries of that spelling. Any of them may decide the name of the operation. -/
def deciding (overrides : OperationOverrides) (op : LogicalOp) : Table (Option String) :=
  ((overrides.spelling? op).map overrides.spelled).getD []

/-- Whether the entries that may decide the name of an operation agree on it. -/
def Determined (overrides : OperationOverrides) (op : LogicalOp) : Prop :=
  ∀ entry ∈ overrides.deciding op, ∀ other ∈ overrides.deciding op, entry.2 = other.2

variable {overrides first second : OperationOverrides} {op : LogicalOp}

theorem nameFor_eq (overrides : OperationOverrides) (op : LogicalOp) :
    overrides.nameFor op = (overrides.deciding op).head?.map (·.2) := by
  rw [nameFor, deciding, spelling?]
  generalize op.overrideKeys = keys
  induction keys with
  | nil => rfl
  | cons wanted rest inductionHypothesis =>
    rw [List.findSome?_cons, List.find?_cons, ← List.head?_filter, ← spelled]
    cases entries : overrides.spelled wanted with
    | nil => exact inductionHypothesis
    | cons entry others => simp [entries]

/-! ### Another order -/

section Reordered

variable (reordered : first.names.Perm second.names)

include reordered

theorem spelled_perm (spelling : String) :
    (first.spelled spelling).Perm (second.spelled spelling) :=
  reordered.filter _

theorem spelling?_eq_of_perm (op : LogicalOp) : first.spelling? op = second.spelling? op := by
  rw [spelling?, spelling?]
  congr 1
  funext wanted
  rw [Bool.not_inj_iff, Bool.eq_iff_iff, List.isEmpty_iff, List.isEmpty_iff]
  have perm := spelled_perm reordered wanted
  exact ⟨fun empty => (empty ▸ perm).nil_eq.symm, fun empty => (empty ▸ perm).eq_nil⟩

theorem deciding_perm (op : LogicalOp) : (first.deciding op).Perm (second.deciding op) := by
  rw [deciding, deciding, spelling?_eq_of_perm reordered]
  cases second.spelling? op with
  | none => exact .nil
  | some wanted => exact spelled_perm reordered wanted

theorem nameFor_eq_of_perm (determined : first.Determined op) :
    first.nameFor op = second.nameFor op := by
  have perm := deciding_perm reordered op
  rw [nameFor_eq, nameFor_eq]
  cases decidingFirst : first.deciding op with
  | nil =>
    rw [decidingFirst] at perm
    rw [perm.nil_eq.symm]
  | cons entry rest =>
    cases decidingSecond : second.deciding op with
    | nil =>
      rw [decidingFirst, decidingSecond] at perm
      cases perm.eq_nil
    | cons other others =>
      have inFirst : entry ∈ first.deciding op := decidingFirst ▸ List.mem_cons_self
      have inSecond : other ∈ first.deciding op :=
        perm.mem_iff.2 (decidingSecond ▸ List.mem_cons_self)
      rw [List.head?_cons, List.head?_cons, Option.map_some, Option.map_some,
        determined entry inFirst other inSecond]

theorem isOverridden_eq_of_perm (sameNew : first.newEntity = second.newEntity) (op : LogicalOp) :
    first.isOverridden op = second.isOverridden op := by
  rw [Bool.eq_iff_iff, isOverridden_iff, isOverridden_iff, sameNew]
  simp only [reordered.mem_iff]

theorem requiredOps_eq_of_perm (sameNew : first.newEntity = second.newEntity)
    (routes : List RouteAction) (paginated : Bool) :
    first.requiredOps routes paginated = second.requiredOps routes paginated := by
  rw [requiredOps, requiredOps]
  simp only [isOverridden_eq_of_perm reordered sameNew]

end Reordered

theorem exists_perm_nameFor_eq {entry : String × Option String}
    (decides : entry ∈ overrides.deciding op) :
    ∃ listed, listed.Perm overrides.names ∧
      nameFor { overrides with names := listed } op = some entry.2 := by
  cases wanted : overrides.spelling? op with
  | none =>
    rw [deciding, wanted] at decides
    cases decides
  | some spelling =>
    rw [deciding, wanted] at decides
    obtain ⟨member, isSpelled⟩ := List.mem_filter.1 decides
    have perm : (entry :: overrides.names.erase entry).Perm overrides.names :=
      (List.perm_cons_erase member).symm
    refine ⟨entry :: overrides.names.erase entry, perm, ?_⟩
    rw [nameFor_eq, deciding, spelling?_eq_of_perm perm, wanted, Option.map_some,
      Option.getD_some, spelled, List.filter_cons, if_pos isSpelled]
    rfl

/-- The name of an operation is the same in every order exactly if the deciding entries agree. -/
theorem determined_iff : overrides.Determined op ↔
    ∀ listed, listed.Perm overrides.names →
      nameFor { overrides with names := listed } op = overrides.nameFor op := by
  constructor
  · intro determined listed perm
    exact (nameFor_eq_of_perm perm.symm determined).symm
  · intro same entry decides other decidesToo
    obtain ⟨listed, perm, named⟩ := exists_perm_nameFor_eq decides
    obtain ⟨listedToo, permToo, namedToo⟩ := exists_perm_nameFor_eq decidesToo
    rw [same listed perm] at named
    rw [same listedToo permToo, named] at namedToo
    exact Option.some.inj namedToo

end OperationOverrides

/-! ### Resolving -/

namespace OperationScope

variable {first second : OperationOverrides}

/-- Resolving asks for the names of operations and for a way to make new
entities, and for nothing else. -/
theorem resolve_congr (sameNames : ∀ op, first.nameFor op = second.nameFor op)
    (sameNew : first.newEntity = second.newEntity) (scope : OperationScope) (backend : Backend)
    (op : LogicalOp) : scope.resolve backend op first = scope.resolve backend op second := by
  have sameTarget : scope.resolveTarget backend op first =
      scope.resolveTarget backend op second := by
    rw [resolveTarget, resolveTarget]
    cases op.actionKind? with
    | none =>
      change (scope.resolveInitializer backend first).map _ =
        (scope.resolveInitializer backend second).map _
      rw [resolveInitializer, resolveInitializer, sameNew, sameNames]
    | some kind =>
      change (scope.resolveAction backend op kind first).map _ =
        (scope.resolveAction backend op kind second).map _
      rw [resolveAction, resolveAction, sameNames]
  rw [resolve, resolve, sameTarget]

end OperationScope

end Backoffice
