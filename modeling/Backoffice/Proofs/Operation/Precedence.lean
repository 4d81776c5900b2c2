import Backoffice.Proofs.Operation.Enumeration
import Mathlib.Data.List.Basic

/-!
Which override of an operation counts.

Whether an operation is overridden is asked from the keys, and its name is looked up from the
operation. Both ways agree: a key is looked at for the operation that it counts for, and for no
other. Of the entries that count for an operation, the first one in the listing among those with the
most general key gives it its name.
-/

namespace Backoffice

section Search

variable {Value : Type} [DecidableEq Value] {wanted : Value → Bool} {values : List Value}
  {value other : Value}

theorem idxOf_le_of_find?_eq_some (found : values.find? wanted = some value)
    (member : other ∈ values) (isWanted : wanted other = true) :
    values.idxOf value ≤ values.idxOf other := by
  induction values with
  | nil => cases member
  | cons first rest inductionHypothesis =>
    by_cases isFirst : wanted first = true
    · rw [List.find?_cons_of_pos isFirst] at found
      cases found
      rw [List.idxOf_cons_self]
      exact Nat.zero_le _
    · have different {later : Value} (isWantedToo : wanted later = true) : first ≠ later :=
        fun same => isFirst (same ▸ isWantedToo)
      rw [List.find?_cons_of_neg isFirst] at found
      have later : other ∈ rest :=
        (List.mem_cons.1 member).resolve_left fun same => different isWanted same.symm
      rw [List.idxOf_cons_ne _ (different (List.find?_some found)),
        List.idxOf_cons_ne _ (different isWanted)]
      exact Nat.succ_le_succ (inductionHypothesis found later)

/-- A search finds what stands before everything else that it could find. -/
theorem find?_eq_some_iff_idxOf_le : values.find? wanted = some value ↔
    value ∈ values ∧ wanted value = true ∧
      ∀ other ∈ values, wanted other = true → values.idxOf value ≤ values.idxOf other := by
  constructor
  · intro found
    exact ⟨List.mem_of_find?_eq_some found, List.find?_some found,
      fun _ => idxOf_le_of_find?_eq_some found⟩
  · rintro ⟨member, isWanted, earliest⟩
    cases found : values.find? wanted with
    | none => exact absurd isWanted (List.find?_eq_none.1 found value member)
    | some other =>
      have memberToo := List.mem_of_find?_eq_some found
      have samePlace : values.idxOf other = values.idxOf value :=
        Nat.le_antisymm (idxOf_le_of_find?_eq_some found member isWanted)
          (earliest other memberToo (List.find?_some found))
      rw [(List.idxOf_inj memberToo).1 samePlace]

end Search

def LogicalOp.rank (op : LogicalOp) (key : String) : Nat :=
  op.overrideKeys.idxOf (Text.snakeCase key)

namespace OperationOverrides

/-- Whether an entry counts for an operation, and no other that does has a more general key. -/
structure MostGeneral (overrides : OperationOverrides) (op : LogicalOp)
    (entry : String × Option String) : Prop where
  listed : entry ∈ overrides.names
  counts : LogicalOp.ofOverrideKey? entry.1 = some op
  rank_le : ∀ other ∈ overrides.names, LogicalOp.ofOverrideKey? other.1 = some op →
    op.rank entry.1 ≤ op.rank other.1

def countingFor (overrides : OperationOverrides) (op : LogicalOp) : OperationOverrides :=
  { overrides with
    names := overrides.names.filter fun entry => LogicalOp.ofOverrideKey? entry.1 = some op }

variable {overrides : OperationOverrides} {op : LogicalOp} {entry : String × Option String}

theorem spelling?_eq_some_iff {spelling : String} :
    overrides.spelling? op = some spelling ↔
      spelling ∈ op.overrideKeys ∧ (∃ entry ∈ overrides.names, Text.snakeCase entry.1 = spelling) ∧
        ∀ other ∈ overrides.names, Text.snakeCase other.1 ∈ op.overrideKeys →
          op.overrideKeys.idxOf spelling ≤ op.rank other.1 := by
  have isUsed {wanted : String} : (!(overrides.spelled wanted).isEmpty) = true ↔
      ∃ entry ∈ overrides.names, Text.snakeCase entry.1 = wanted := by
    simp [spelled]
  rw [spelling?, find?_eq_some_iff_idxOf_le]
  simp only [isUsed]
  refine and_congr_right fun _ => and_congr_right fun _ =>
    ⟨fun earliest other listed isKey => ?_, ?_⟩
  · exact earliest _ isKey ⟨other, listed, rfl⟩
  · rintro earliest _ isKey ⟨other, listed, rfl⟩
    exact earliest other listed isKey

theorem mem_deciding_iff : entry ∈ overrides.deciding op ↔ overrides.MostGeneral op entry := by
  have ofSpelling : entry ∈ overrides.deciding op ↔
      overrides.spelling? op = some (Text.snakeCase entry.1) ∧ entry ∈ overrides.names := by
    rw [deciding]
    cases overrides.spelling? op with
    | none => simp
    | some spelling => simp [spelled, and_comm, eq_comm]
  rw [ofSpelling, spelling?_eq_some_iff]
  constructor
  · rintro ⟨⟨isKey, -, earliest⟩, listed⟩
    exact ⟨listed, LogicalOp.ofOverrideKey?_eq_some_iff.2 isKey,
      fun other listedToo counts =>
        earliest other listedToo (LogicalOp.ofOverrideKey?_eq_some_iff.1 counts)⟩
  · rintro ⟨listed, counts, rank_le⟩
    exact ⟨⟨LogicalOp.ofOverrideKey?_eq_some_iff.1 counts, ⟨entry, listed, rfl⟩,
      fun other listedToo isKey =>
        rank_le other listedToo (LogicalOp.ofOverrideKey?_eq_some_iff.2 isKey)⟩, listed⟩

instance : Decidable (overrides.MostGeneral op entry) :=
  decidable_of_iff _ mem_deciding_iff

theorem deciding_eq_filter (overrides : OperationOverrides) (op : LogicalOp) :
    overrides.deciding op = overrides.names.filter (overrides.MostGeneral op ·) := by
  simp only [← mem_deciding_iff]
  rw [deciding]
  cases overrides.spelling? op with
  | none => simp
  | some spelling =>
    refine List.filter_congr fun entry listed => ?_
    simp [spelled, listed]

theorem nameFor_eq_some_iff {name : Option String} :
    overrides.nameFor op = some name ↔
      ∃ before entry after, overrides.names = before ++ entry :: after ∧
      overrides.MostGeneral op entry ∧
        (∀ earlier ∈ before, ¬ overrides.MostGeneral op earlier) ∧ entry.2 = name := by
  rw [nameFor_eq, deciding_eq_filter, List.head?_filter, Option.map_eq_some_iff]
  simp only [List.find?_eq_some_iff_append, decide_eq_true_eq, Bool.not_eq_true',
    decide_eq_false_iff_not]
  constructor
  · rintro ⟨entry, ⟨mostGeneral, before, after, split, noneEarlier⟩, named⟩
    exact ⟨before, entry, after, split, mostGeneral, noneEarlier, named⟩
  · rintro ⟨before, entry, after, split, mostGeneral, noneEarlier, named⟩
    exact ⟨entry, ⟨mostGeneral, before, after, split, noneEarlier⟩, named⟩

theorem isSome_nameFor_iff : (overrides.nameFor op).isSome = true ↔
    ∃ entry ∈ overrides.names, LogicalOp.ofOverrideKey? entry.1 = some op := by
  simp only [nameFor, LogicalOp.ofOverrideKey?_eq_some_iff, List.isSome_findSome?, List.any_eq_true,
    Option.isSome_map, List.find?_isSome, decide_eq_true_eq]
  constructor
  · rintro ⟨wanted, isKey, entry, listed, rfl⟩
    exact ⟨entry, listed, isKey⟩
  · rintro ⟨entry, listed, isKey⟩
    exact ⟨_, isKey, entry, listed, rfl⟩

theorem mem_overriddenOps_iff : op ∈ overrides.overriddenOps ↔
    (overrides.nameFor op).isSome = true ∨ (op = .new ∧ overrides.newEntity.isSome = true) := by
  rw [overriddenOps, List.mem_filter, and_iff_right (LogicalOp.mem_all op), isOverridden_iff,
    isSome_nameFor_iff]
  simp only [LogicalOp.ofOverrideKey?_eq_some_iff]

theorem nameFor_countingFor (overrides : OperationOverrides) (op : LogicalOp) :
    (overrides.countingFor op).nameFor op = overrides.nameFor op := by
  have same (entry : String × Option String) :
      (overrides.countingFor op).MostGeneral op entry ↔ overrides.MostGeneral op entry := by
    constructor
    · rintro ⟨listed, counts, rank_le⟩
      exact ⟨(List.mem_filter.1 listed).1, counts, fun other listedToo countsToo =>
        rank_le other (List.mem_filter.2 ⟨listedToo, decide_eq_true countsToo⟩) countsToo⟩
    · rintro ⟨listed, counts, rank_le⟩
      exact ⟨List.mem_filter.2 ⟨listed, decide_eq_true counts⟩, counts,
        fun other listedToo => rank_le other (List.mem_filter.1 listedToo).1⟩
  have sameDeciding : (overrides.countingFor op).deciding op = overrides.deciding op := by
    rw [deciding_eq_filter, deciding_eq_filter]
    change (overrides.names.filter _).filter _ = _
    rw [List.filter_filter]
    refine List.filter_congr fun entry _ => ?_
    rw [Bool.eq_iff_iff, Bool.and_eq_true, decide_eq_true_eq, decide_eq_true_eq,
      decide_eq_true_eq, same]
    exact and_iff_left_of_imp fun mostGeneral => mostGeneral.counts
  rw [nameFor_eq, nameFor_eq, sameDeciding]

/-- Counting an operation as overridden and looking up its name go by the same entries: those whose
key counts for the operation. The most general key has the name, and the entries of other
operations do not matter. -/
theorem overridden_iff_and_nameFor_eq (overrides : OperationOverrides) (op : LogicalOp) :
    (op ∈ overrides.overriddenOps ↔
      (overrides.nameFor op).isSome = true ∨ (op = .new ∧ overrides.newEntity.isSome = true)) ∧
    (∀ name, overrides.nameFor op = some name ↔
      ∃ before entry after, overrides.names = before ++ entry :: after ∧
      overrides.MostGeneral op entry ∧
        (∀ earlier ∈ before, ¬ overrides.MostGeneral op earlier) ∧ entry.2 = name) ∧
    (overrides.countingFor op).nameFor op = overrides.nameFor op :=
  ⟨mem_overriddenOps_iff, fun _ => nameFor_eq_some_iff, nameFor_countingFor overrides op⟩

/-- A key for functions is more general than one for actions, although it
comes later in the listing. -/
theorem nameFor_deletion :
    nameFor { names := [("deleteAction", some "erase"), ("delete_function", none)] } .delete =
      some none :=
  ((overridden_iff_and_nameFor_eq _ .delete).2.1 none).2
    ⟨[("deleteAction", some "erase")], ("delete_function", none), [],
      rfl, by decide, by decide, rfl⟩

end OperationOverrides

end Backoffice
