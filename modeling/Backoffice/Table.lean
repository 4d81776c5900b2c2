/-!
Tables from names to values, kept in the order of the names (code points), each name once.

`insert` keeps that order. What a look-up finds after each operation is stated for lists in any
order, so that no law needs it.
-/

namespace Backoffice

abbrev Table (Value : Type) := List (String × Value)

namespace Table

variable {Value : Type}

def get? (table : Table Value) (name : String) : Option Value :=
  match table with
  | [] => none
  | (other, value) :: rest => if other = name then some value else get? rest name

def contains (table : Table Value) (name : String) : Bool :=
  (table.get? name).isSome

/-- Store a value under a name, replacing the value it had. -/
def insert (table : Table Value) (name : String) (value : Value) : Table Value :=
  match table with
  | [] => [(name, value)]
  | (other, old) :: rest =>
    if other = name then (name, value) :: rest
    else if name < other then (name, value) :: (other, old) :: rest
    else (other, old) :: insert rest name value

/-- The entries of the second table, and those of the first that the second does not name. -/
def merge (inherited own : Table Value) : Table Value :=
  own.foldl (fun table (name, value) => table.insert name value) inherited

/-- A table from entries in any order; the last of two entries of one name counts. -/
def ofList (entries : List (String × Value)) : Table Value :=
  merge [] entries

@[simp]
theorem get?_nil (name : String) : get? ([] : Table Value) name = none := rfl

theorem get?_insert (table : Table Value) (name key : String) (value : Value) :
    (table.insert name value).get? key =
      if name = key then some value else table.get? key := by
  induction table with
  | nil => simp [insert, get?]
  | cons head rest inductionHypothesis =>
    obtain ⟨other, old⟩ := head
    simp only [insert]
    split
    · next same => subst same; simp only [get?]; split <;> rfl
    · next different =>
      split
      · simp only [get?]
      · simp only [get?, inductionHypothesis]
        by_cases found : other = key
        · have : name ≠ key := fun same => different (found.trans same.symm)
          simp [found, this]
        · simp [found]

theorem get?_append (left right : Table Value) (name : String) :
    get? (left ++ right) name = (get? left name).or (get? right name) := by
  induction left with
  | nil => simp
  | cons head rest inductionHypothesis =>
    obtain ⟨other, value⟩ := head
    simp only [List.cons_append, get?]
    split <;> simp_all

/-- Of two entries of one name the later one counts, and what the second table does not name keeps
its value. -/
theorem get?_merge (inherited own : Table Value) (name : String) :
    (merge inherited own).get? name = (get? own.reverse name).or (inherited.get? name) := by
  induction own generalizing inherited with
  | nil => simp [merge]
  | cons head rest inductionHypothesis =>
    obtain ⟨other, value⟩ := head
    have step : merge inherited ((other, value) :: rest) =
        merge (inherited.insert other value) rest :=
      rfl
    rw [step, inductionHypothesis, get?_insert, List.reverse_cons, get?_append]
    simp only [get?]
    cases get? rest.reverse name <;> simp
    split <;> rfl

end Table

end Backoffice
