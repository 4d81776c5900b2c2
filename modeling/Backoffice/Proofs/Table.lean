import Backoffice.Table
import Mathlib.Data.List.Nodup

/-!
Entries that are found under keys without repetition or in another order, tables whose values are
changed, each name keeping its place, and the order that inserting keeps.
-/

namespace Backoffice

theorem find?_key_eq_some {Entry Key : Type} [DecidableEq Key] {key : Entry → Key}
    {entries : List Entry} (distinct : (entries.map key).Nodup) {entry : Entry}
    (member : entry ∈ entries) :
    entries.find? (key · = key entry) = some entry := by
  obtain ⟨before, rest, same⟩ := List.append_of_mem member
  subst same
  rw [List.map_append, List.nodup_append] at distinct
  rw [List.find?_eq_some_iff_append]
  refine ⟨decide_eq_true rfl, before, rest, rfl, ?_⟩
  intro other earlier
  have different : key other ≠ key entry :=
    distinct.2.2 _ (List.mem_map_of_mem earlier) _ List.mem_cons_self
  simpa using different

theorem filter_key_eq_toList_find? {Entry Key : Type} [DecidableEq Key] {key : Entry → Key}
    {entries : List Entry} (distinct : (entries.map key).Nodup) (wanted : Key) :
    entries.filter (key · = wanted) = (entries.find? (key · = wanted)).toList := by
  induction entries with
  | nil => rfl
  | cons entry rest inductionHypothesis =>
    rw [List.map_cons, List.nodup_cons] at distinct
    by_cases own : key entry = wanted
    · have others : rest.filter (key · = wanted) = [] := by
        rw [List.filter_eq_nil_iff]
        intro other member isWanted
        exact distinct.1 (own ▸ of_decide_eq_true isWanted ▸ List.mem_map_of_mem member)
      rw [List.filter_cons_of_pos (by simpa using own), List.find?_cons_of_pos (by simpa using own),
        others, Option.toList_some]
    · rw [List.filter_cons_of_neg (by simpa using own), List.find?_cons_of_neg (by simpa using own),
        inductionHypothesis distinct.2]

theorem find?_of_perm {Entry : Type} {entries others : List Entry} (wanted : Entry → Bool)
    (perm : entries.Perm others) :
    (entries.find? wanted = none ∧ others.find? wanted = none) ∨
      ∃ first ∈ entries, ∃ second ∈ entries, wanted first = true ∧ wanted second = true ∧
        entries.find? wanted = some first ∧ others.find? wanted = some second := by
  cases found : entries.find? wanted with
  | none =>
    refine .inl ⟨rfl, ?_⟩
    rw [List.find?_eq_none] at found ⊢
    exact fun entry member => found entry (perm.mem_iff.2 member)
  | some first =>
    cases foundToo : others.find? wanted with
    | none =>
      rw [List.find?_eq_none] at foundToo
      exact absurd (List.find?_some found)
        (foundToo first (perm.mem_iff.1 (List.mem_of_find?_eq_some found)))
    | some second =>
      exact .inr ⟨first, List.mem_of_find?_eq_some found, second,
        perm.mem_iff.2 (List.mem_of_find?_eq_some foundToo), List.find?_some found,
        List.find?_some foundToo, rfl, rfl⟩

theorem find?_key_eq_of_perm {Entry Key : Type} [DecidableEq Key] {key : Entry → Key}
    {entries others : List Entry} (perm : entries.Perm others) (distinct : (entries.map key).Nodup)
    (wanted : Key) :
    entries.find? (key · = wanted) = others.find? (key · = wanted) := by
  rcases find?_of_perm (key · = wanted) perm with
    ⟨none, noneToo⟩ | ⟨first, member, second, memberToo, isWanted, isWantedToo, found, foundToo⟩
  · rw [none, noneToo]
  · have same : key first = key second :=
      (of_decide_eq_true isWanted).trans (of_decide_eq_true isWantedToo).symm
    rw [found, foundToo, List.inj_on_of_nodup_map distinct member memberToo same]

namespace Table

variable {Value Other : Type}

def mapValues (change : Value → Other) (table : Table Value) : Table Other :=
  table.map fun (name, value) => (name, change value)

variable (change : Value → Other) (table : Table Value) (name : String)

theorem mem_of_get?_eq_some {table : Table Value} {name : String} {value : Value}
    (stored : table.get? name = some value) : (name, value) ∈ table := by
  induction table with
  | nil => cases stored
  | cons head rest inductionHypothesis =>
    obtain ⟨other, first⟩ := head
    rw [get?] at stored
    split at stored
    · next same =>
      cases stored
      exact same ▸ List.mem_cons_self
    · exact List.mem_cons_of_mem _ (inductionHypothesis stored)

theorem get?_mapValues : (table.mapValues change).get? name = (table.get? name).map change := by
  induction table with
  | nil => rfl
  | cons head rest inductionHypothesis =>
    obtain ⟨other, value⟩ := head
    simp only [mapValues, List.map_cons, get?]
    split
    · rfl
    · exact inductionHypothesis

theorem contains_mapValues : (table.mapValues change).contains name = table.contains name := by
  rw [contains, contains, get?_mapValues, Option.isSome_map]

theorem mapValues_insert (value : Value) :
    (table.insert name value).mapValues change =
      (table.mapValues change).insert name (change value) := by
  induction table with
  | nil => rfl
  | cons head rest inductionHypothesis =>
    obtain ⟨other, old⟩ := head
    simp only [mapValues, List.map_cons, insert] at inductionHypothesis ⊢
    split
    · rfl
    · split
      · rfl
      · rw [List.map_cons, inductionHypothesis]

/-- Whether the names stand in their order, each once. -/
def Ascending (table : Table Value) : Prop :=
  table.Pairwise fun first second => first.1 < second.1

theorem mem_insert {table : Table Value} {name : String} {value : Value} {entry : String × Value}
    (member : entry ∈ table.insert name value) : entry = (name, value) ∨ entry ∈ table := by
  induction table with
  | nil => exact .inl (List.mem_singleton.1 member)
  | cons head rest inductionHypothesis =>
    obtain ⟨other, old⟩ := head
    simp only [insert] at member
    split at member
    · rcases List.mem_cons.1 member with same | later
      · exact .inl same
      · exact .inr (List.mem_cons_of_mem _ later)
    · split at member
      · exact List.mem_cons.1 member
      · rcases List.mem_cons.1 member with same | later
        · exact .inr (same ▸ List.mem_cons_self)
        · rcases inductionHypothesis later with same | inRest
          · exact .inl same
          · exact .inr (List.mem_cons_of_mem _ inRest)

theorem Ascending.insert {table : Table Value} (ascending : table.Ascending) (name : String)
    (value : Value) :
    (table.insert name value).Ascending := by
  induction table with
  | nil => exact List.pairwise_singleton _ _
  | cons head rest inductionHypothesis =>
    obtain ⟨other, old⟩ := head
    obtain ⟨before, others⟩ := List.pairwise_cons.1 ascending
    simp only [Table.insert]
    split
    · next same =>
      subst same
      exact List.pairwise_cons.2 ⟨before, others⟩
    · next different =>
      split
      · next below =>
        refine List.pairwise_cons.2 ⟨?_, ascending⟩
        intro entry member
        rcases List.mem_cons.1 member with same | later
        · exact same ▸ below
        · exact String.lt_trans below (before entry later)
      · next above =>
        refine List.pairwise_cons.2 ⟨?_, inductionHypothesis others⟩
        intro entry member
        rcases mem_insert member with same | later
        · subst same
          refine Decidable.byContradiction fun notBelow => ?_
          exact different (String.le_antisymm (String.not_lt.1 above) (String.not_lt.1 notBelow))
        · exact before entry later

theorem Ascending.nodup {table : Table Value} (ascending : table.Ascending) :
    (table.map (·.1)).Nodup := by
  refine List.pairwise_map.2 (List.Pairwise.imp ?_ ascending)
  intro first second below same
  rw [same] at below
  exact String.lt_irrefl _ below

theorem Ascending.get?_eq_some {table : Table Value} (ascending : table.Ascending) {name : String}
    {value : Value} (member : (name, value) ∈ table) : table.get? name = some value := by
  induction table with
  | nil => cases member
  | cons head rest inductionHypothesis =>
    obtain ⟨other, first⟩ := head
    obtain ⟨before, others⟩ := List.pairwise_cons.1 ascending
    rw [get?]
    rcases List.mem_cons.1 member with same | later
    · cases same
      rw [if_pos rfl]
    · have different : other ≠ name := by
        intro same
        have below := before _ later
        rw [same] at below
        exact String.lt_irrefl _ below
      rw [if_neg different, inductionHypothesis others later]

theorem mem_map_fst_iff {table : Table Value} {name : String} :
    name ∈ table.map (·.1) ↔ table.contains name = true := by
  induction table with
  | nil => simp [contains]
  | cons head rest inductionHypothesis =>
    rw [List.map_cons, List.mem_cons, inductionHypothesis, contains, contains, get?]
    by_cases same : head.1 = name
    · simp [same]
    · simp [same, Ne.symm same]

theorem contains_insert_iff {table : Table Value} {name key : String} {value : Value} :
    (table.insert name value).contains key = true ↔ table.contains key = true ∨ key = name := by
  rw [contains, contains, get?_insert]
  by_cases same : name = key
  · simp [same]
  · simp [same, Ne.symm same]

instance (table : Table Value) : Decidable table.Ascending :=
  inferInstanceAs (Decidable (table.Pairwise fun first second => first.1 < second.1))

theorem insert_of_forall_lt {table : Table Value} {name : String}
    (below : ∀ entry ∈ table, entry.1 < name) (value : Value) :
    table.insert name value = table ++ [(name, value)] := by
  induction table with
  | nil => rfl
  | cons head rest inductionHypothesis =>
    obtain ⟨other, first⟩ := head
    rw [List.forall_mem_cons] at below
    have different : other ≠ name := fun same => String.lt_irrefl _ (same ▸ below.1)
    have notAbove : ¬ name < other := String.lt_asymm below.1
    rw [insert, if_neg different, if_neg notAbove, inductionHypothesis below.2, List.cons_append]

theorem merge_of_ascending {table own : Table Value} (ascending : Ascending (table ++ own)) :
    merge table own = table ++ own := by
  induction own generalizing table with
  | nil => rw [List.append_nil]; rfl
  | cons entry rest inductionHypothesis =>
    obtain ⟨name, value⟩ := entry
    have below : ∀ other ∈ table, other.1 < name := fun other member =>
      (List.pairwise_append.1 ascending).2.2 other member _ List.mem_cons_self
    have step : merge table ((name, value) :: rest) = merge (table.insert name value) rest := rfl
    rw [List.append_cons] at ascending
    rw [step, insert_of_forall_lt below, inductionHypothesis ascending, ← List.append_cons]

theorem Ascending.ofList_eq_self {table : Table Value} (ascending : table.Ascending) :
    ofList table = table :=
  merge_of_ascending ascending

end Table

end Backoffice
