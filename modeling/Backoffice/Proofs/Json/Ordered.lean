import Backoffice.Json.Document
import Backoffice.Proofs.Table

/-!
Values that are written as documents and read again.

The members of an object are put into order when a document is read. So a value is read
back from the document that it is written as if the members of all objects in it stand in
order already, each name once.
-/

namespace Backoffice

namespace Json

mutual

/-- Whether the members of all objects stand in the order of their names, each once. -/
def isOrdered : Json → Bool
  | .array items => areOrdered items
  | .object members => decide (Table.Ascending members) && haveOrdered members
  | _ => true

def areOrdered : List Json → Bool
  | [] => true
  | item :: rest => isOrdered item && areOrdered rest

def haveOrdered : List (String × Json) → Bool
  | [] => true
  | (_, value) :: rest => isOrdered value && haveOrdered rest

end

theorem haveOrdered_iff {members : List (String × Json)} :
    haveOrdered members = true ↔ ∀ member ∈ members, member.2.isOrdered = true := by
  induction members with
  | nil => simp [haveOrdered]
  | cons member rest inductionHypothesis =>
    obtain ⟨name, value⟩ := member
    rw [haveOrdered, Bool.and_eq_true, inductionHypothesis, List.forall_mem_cons]

theorem isOrdered_of_mem {members : List (String × Json)}
    (ordered : (object members).isOrdered = true) {member : String × Json}
    (inside : member ∈ members) : member.2.isOrdered = true := by
  rw [isOrdered, Bool.and_eq_true] at ordered
  exact haveOrdered_iff.1 ordered.2 member inside

end Json

namespace Document

/-! ### Values that can be read -/

theorem isSome_itemValues?_iff {items : List Document} :
    (itemValues? items).isSome = true ↔ ∀ item ∈ items, item.value?.isSome = true := by
  induction items with
  | nil => simp [itemValues?]
  | cons item rest inductionHypothesis =>
    rw [List.forall_mem_cons, ← inductionHypothesis, itemValues?]
    cases item.value? with
    | none => simp
    | some value => cases itemValues? rest <;> simp

theorem isSome_memberValues?_iff {members : List (String × Document)} :
    (memberValues? members).isSome = true ↔ ∀ member ∈ members, member.2.value?.isSome = true := by
  induction members with
  | nil => simp [memberValues?]
  | cons member rest inductionHypothesis =>
    obtain ⟨name, document⟩ := member
    rw [List.forall_mem_cons, ← inductionHypothesis, memberValues?]
    cases document.value? with
    | none => simp
    | some value => cases memberValues? rest <;> simp

theorem isSome_value?_array_iff {items : List Document} :
    (array items).value?.isSome = true ↔ ∀ item ∈ items, item.value?.isSome = true := by
  rw [value?, Option.isSome_map, isSome_itemValues?_iff]

theorem isSome_value?_object_iff {members : List (String × Document)} :
    (object members).value?.isSome = true ↔ ∀ member ∈ members, member.2.value?.isSome = true := by
  rw [value?, Option.isSome_map, isSome_memberValues?_iff]

theorem isSome_value?_of_members? {document : Document} {members : Members}
    (read : document.members? = some members) : document.value?.isSome = true := by
  cases document with
  | object written =>
    obtain ⟨values, same, _⟩ := Option.map_eq_some_iff.1 read
    rw [value?, same]
    rfl
  | _ => cases read

/-! ### Values that are written -/

mutual

theorem value?_ofJson :
    ∀ {value : Json}, value.isOrdered = true → (ofJson value).value? = some value
  | .null, _ | .bool _, _ | .number _, _ | .string _, _ => rfl
  | .array items, ordered => by
    rw [ofJson, value?, itemValues?_ofItems ordered]
    rfl
  | .object members, ordered => by
    rw [Json.isOrdered, Bool.and_eq_true, decide_eq_true_eq] at ordered
    rw [ofJson, value?, memberValues?_ofMembers ordered.2, Option.map_some,
      ordered.1.ofList_eq_self]

theorem itemValues?_ofItems : ∀ {items : List Json}, Json.areOrdered items = true →
    itemValues? (ofItems items) = some items
  | [], _ => rfl
  | item :: rest, ordered => by
    rw [Json.areOrdered, Bool.and_eq_true] at ordered
    rw [ofItems, itemValues?, value?_ofJson ordered.1, itemValues?_ofItems ordered.2]
    rfl

theorem memberValues?_ofMembers :
    ∀ {members : List (String × Json)}, Json.haveOrdered members = true →
    memberValues? (ofMembers members) = some members
  | [], _ => rfl
  | (name, value) :: rest, ordered => by
    rw [Json.haveOrdered, Bool.and_eq_true] at ordered
    rw [ofMembers, memberValues?, value?_ofJson ordered.1, memberValues?_ofMembers ordered.2]
    rfl

end

theorem members?_ofJson_object {members : Members}
    (ordered : (Json.object members).isOrdered = true) :
    (ofJson (.object members)).members? = some members := by
  rw [Json.isOrdered, Bool.and_eq_true, decide_eq_true_eq] at ordered
  rw [ofJson, members?, memberValues?_ofMembers ordered.2, Option.map_some,
    ordered.1.ofList_eq_self]

end Document

end Backoffice
