import Backoffice.Operation.Overrides

/-!
Which operations a declaration overrides, and which ones a resource needs.

No key stands for two operations, so a key overrides an operation exactly if its snake-case spelling
is one of the keys of that operation.
-/

namespace Backoffice

namespace LogicalOp

theorem eq_of_mem_overrideKeys {first second : LogicalOp} {key : String}
    (ofFirst : key ∈ first.overrideKeys) (ofSecond : key ∈ second.overrideKeys) :
    first = second := by
  have disjoint : ∀ first ∈ all, ∀ second ∈ all, ∀ key ∈ first.overrideKeys,
      key ∈ second.overrideKeys → first = second := by decide
  exact disjoint first (mem_all first) second (mem_all second) key ofFirst ofSecond

theorem ofOverrideKey?_eq_some_iff {key : String} {op : LogicalOp} :
    ofOverrideKey? key = some op ↔ Text.snakeCase key ∈ op.overrideKeys := by
  rw [ofOverrideKey?]
  constructor
  · intro found
    simpa using List.find?_some found
  · intro member
    cases found : all.find? (·.overrideKeys.contains (Text.snakeCase key)) with
    | none =>
      have absent := List.find?_eq_none.1 found op (mem_all op)
      simp [member] at absent
    | some other =>
      have ofOther : Text.snakeCase key ∈ other.overrideKeys := by simpa using List.find?_some found
      rw [eq_of_mem_overrideKeys ofOther member]

theorem isSome_ofOverrideKey?_iff {key : String} :
    (ofOverrideKey? key).isSome ↔ ∃ op, Text.snakeCase key ∈ overrideKeys op := by
  simp only [Option.isSome_iff_exists, ofOverrideKey?_eq_some_iff]

end LogicalOp

namespace OperationOverrides

variable {overrides : OperationOverrides} {op : LogicalOp}

theorem isOverridden_iff :
    overrides.isOverridden op = true ↔
      (∃ entry ∈ overrides.names, Text.snakeCase entry.1 ∈ op.overrideKeys) ∨
        (op = .new ∧ overrides.newEntity.isSome = true) := by
  simp only [isOverridden, Bool.or_eq_true, List.any_eq_true, decide_eq_true_eq, Bool.and_eq_true,
    LogicalOp.ofOverrideKey?_eq_some_iff]

theorem nameFor_empty (op : LogicalOp) : nameFor {} op = none := by
  cases op <;> rfl

variable {routes : List RouteAction} {paginated : Bool}

/-- A resource needs what its routes need, pages where its index has them,
and what is overridden. -/
theorem mem_requiredOps_iff :
    op ∈ overrides.requiredOps routes paginated ↔
      (∃ route ∈ routes, op ∈ route.operations) ∨
      (op = .listPaginated ∧ .index ∈ routes ∧ paginated = true) ∨
      (∃ entry ∈ overrides.names, Text.snakeCase entry.1 ∈ op.overrideKeys) ∨
      (op = .new ∧ overrides.newEntity.isSome = true) := by
  rw [← isOverridden_iff, requiredOps, List.mem_filter]
  simp only [LogicalOp.mem_all, true_and, Bool.or_eq_true, Bool.and_eq_true, List.any_eq_true,
    List.contains_iff_mem, decide_eq_true_eq]
  grind

theorem requiredOps_sublist : (overrides.requiredOps routes paginated).Sublist LogicalOp.all :=
  List.filter_sublist

end OperationOverrides

namespace Routes

theorem manifest_sublist (routes : Routes) : routes.manifest.Sublist RouteAction.all :=
  List.filter_sublist

end Routes

end Backoffice
