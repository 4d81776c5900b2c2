import Backoffice.Text.Identifier
import Mathlib.Data.List.Basic

/-!
Texts that are joined by a separator, and where they can be taken apart again.
-/

namespace Backoffice.Text

/-! ### At the last symbol of a kind -/

theorem eq_of_append_cons_eq {Symbol : Type} {symbol : Symbol}
    {before after left right : List Symbol} (lastLeft : symbol ∉ left) (lastRight : symbol ∉ right)
    (same : before ++ symbol :: left = after ++ symbol :: right) :
    before = after ∧ left = right := by
  induction before generalizing after with
  | nil =>
    cases after with
    | nil =>
      rw [List.nil_append, List.nil_append, List.cons.injEq] at same
      exact ⟨rfl, same.2⟩
    | cons first rest =>
      rw [List.nil_append, List.cons_append, List.cons.injEq] at same
      rw [same.2] at lastLeft
      simp at lastLeft
  | cons first rest inductionHypothesis =>
    cases after with
    | nil =>
      rw [List.nil_append, List.cons_append, List.cons.injEq] at same
      rw [← same.2] at lastRight
      simp at lastRight
    | cons other others =>
      rw [List.cons_append, List.cons_append, List.cons.injEq] at same
      obtain ⟨sameRest, sameLast⟩ := inductionHypothesis same.2
      exact ⟨by rw [same.1, sameRest], sameLast⟩

/-! ### At pairs of underscores -/

variable {chars before after : List Char} {first : Char}

theorem beforeSeparator_cons (apart : ¬ (first = '_' ∧ chars.head? = some '_')) :
    beforeSeparator (first :: chars) = first :: beforeSeparator chars := by
  rw [beforeSeparator]
  rintro rest isUnderscore same
  subst same
  exact apart ⟨isUnderscore, rfl⟩

theorem beforeSeparator_cons_eq_self_iff :
    beforeSeparator (first :: chars) = first :: chars ↔
      ¬ (first = '_' ∧ chars.head? = some '_') ∧ beforeSeparator chars = chars := by
  by_cases pair : first = '_' ∧ chars.head? = some '_'
  · obtain ⟨isUnderscore, second⟩ := pair
    obtain ⟨rest, same⟩ := List.head?_eq_some_iff.1 second
    subst isUnderscore same
    simp [beforeSeparator]
  · rw [beforeSeparator_cons pair, List.cons.injEq]
    simp [pair]

theorem beforeSeparator_eq_self_of_append
    (plain : beforeSeparator (before ++ after) = before ++ after) :
    beforeSeparator before = before := by
  induction before with
  | nil => rfl
  | cons first rest inductionHypothesis =>
    rw [List.cons_append] at plain
    obtain ⟨apart, plainRest⟩ := beforeSeparator_cons_eq_self_iff.1 plain
    refine beforeSeparator_cons_eq_self_iff.2 ⟨?_, inductionHypothesis plainRest⟩
    rintro ⟨isUnderscore, second⟩
    refine apart ⟨isUnderscore, ?_⟩
    rw [List.head?_append, second]
    rfl

theorem beforeSeparator_append_ne :
    beforeSeparator (before ++ '_' :: '_' :: after) ≠ before ++ '_' :: '_' :: after := by
  intro plain
  induction before with
  | nil => exact (beforeSeparator_cons_eq_self_iff.1 plain).1 ⟨rfl, rfl⟩
  | cons first rest inductionHypothesis =>
    exact inductionHypothesis (beforeSeparator_cons_eq_self_iff.1 plain).2

/-- Characters come back from before a separator, unless they end with an underscore that
belongs to the first pair. -/
theorem beforeSeparator_append (plain : beforeSeparator before = before)
    (last : before.getLast? ≠ some '_') :
    beforeSeparator (before ++ '_' :: '_' :: after) = before := by
  induction before with
  | nil => rfl
  | cons first rest inductionHypothesis =>
    obtain ⟨apart, plainRest⟩ := beforeSeparator_cons_eq_self_iff.1 plain
    cases rest with
    | nil =>
      have other : first ≠ '_' := by simpa using last
      rw [List.singleton_append, beforeSeparator_cons fun pair => other pair.1]
      rfl
    | cons second others =>
      have longer : ¬ (first = '_' ∧ (second :: others ++ '_' :: '_' :: after).head? = some '_') :=
        apart
      rw [List.getLast?_cons_cons] at last
      rw [List.cons_append, beforeSeparator_cons longer, inductionHypothesis plainRest last]

/-- What comes before a separator is all of the characters, or ends where their first pair
of underscores begins. -/
theorem beforeSeparator_eq_iff :
    beforeSeparator chars = before ↔
      (chars = before ∧ beforeSeparator chars = chars) ∨
        ∃ after, chars = before ++ '_' :: '_' :: after ∧
        beforeSeparator (before ++ ['_']) = before ++ ['_'] := by
  constructor
  · intro same
    subst same
    fun_induction beforeSeparator chars with
    | case1 after => exact .inr ⟨after, rfl, rfl⟩
    | case2 first rest apart inductionHypothesis =>
      rcases inductionHypothesis with ⟨plain, _⟩ | ⟨after, split, plain⟩
      · refine .inl ⟨by rw [← plain], by rw [← plain]⟩
      · generalize beforeSeparator rest = front at split plain ⊢
        subst split
        refine .inr ⟨after, rfl, beforeSeparator_cons_eq_self_iff.2 ⟨?_, plain⟩⟩
        -- What follows the first character is the same with one underscore as with the separator.
        rintro ⟨isUnderscore, second⟩
        cases front with
        | nil => exact apart _ isUnderscore rfl
        | cons next others =>
          have isNext : next = '_' := Option.some.inj second
          subst isNext
          exact apart _ isUnderscore rfl
    | case3 => exact .inl ⟨rfl, rfl⟩
  · rintro (⟨same, plain⟩ | ⟨after, split, plain⟩)
    · rw [plain, same]
    · rw [split]
      refine beforeSeparator_append (beforeSeparator_eq_self_of_append plain) ?_
      intro last
      obtain ⟨more, same⟩ := List.getLast?_eq_some_iff.1 last
      rw [same, List.append_assoc] at plain
      exact beforeSeparator_append_ne plain

theorem eq_of_append_separator_eq {left right : List Char} (lastBefore : before.getLast? ≠ some '_')
    (lastAfter : after.getLast? ≠ some '_') (plainLeft : beforeSeparator left = left)
    (plainRight : beforeSeparator right = right)
    (same : before ++ '_' :: '_' :: left = after ++ '_' :: '_' :: right) :
    before = after ∧ left = right := by
  -- Where one side goes on, it does so by one underscore, or by a pair of them.
  have ends {shorter longer short long : List Char} (last : longer.getLast? ≠ some '_')
      (plain : beforeSeparator short = short) {middle : List Char}
      (goesOn : longer = shorter ++ middle)
      (rest : '_' :: '_' :: short = middle ++ '_' :: '_' :: long) : middle = [] := by
    match middle with
    | [] => rfl
    | [single] =>
      rw [List.singleton_append, List.cons.injEq] at rest
      rw [goesOn, ← rest.1] at last
      simp at last
    | one :: two :: more =>
      rw [List.cons_append, List.cons_append, List.cons.injEq, List.cons.injEq] at rest
      rw [rest.2.2] at plain
      exact absurd plain beforeSeparator_append_ne
  rcases List.append_eq_append_iff.1 same with ⟨middle, goesOn, rest⟩ | ⟨middle, goesOn, rest⟩
  · have none := ends lastAfter plainLeft goesOn rest
    subst none
    exact ⟨by simpa using goesOn.symm, by simpa using rest⟩
  · have none := ends lastBefore plainRight goesOn rest
    subst none
    exact ⟨by simpa using goesOn, by simpa using rest.symm⟩

/-! ### Names of embedded resources -/

/-- Whether the separator after a name would begin with the last character of the name. -/
def EndsInUnderscore (name : String) : Prop :=
  name.toList.getLast? = some '_'

instance (name : String) : Decidable (EndsInUnderscore name) :=
  inferInstanceAs (Decidable (_ = _))

def Separated (name : String) : Prop :=
  ∃ before after, name = embedName before after

variable {name parent other key field : String}

theorem hasSeparator_eq_false_iff :
    hasSeparator name = false ↔ beforeSeparator name.toList = name.toList := by
  simp [hasSeparator]

theorem toList_embedName :
    (embedName parent key).toList = parent.toList ++ '_' :: '_' :: key.toList := by
  simp only [embedName, embedSeparator, String.toList_append, List.append_assoc]
  rfl

/-- What is embedded in something embedded is embedded under both keys together. -/
theorem embedName_embedName :
    embedName (embedName parent key) field = embedName parent (embedName key field) := by
  simp only [embedName, String.append_assoc]

theorem embedName_cancel_left (same : embedName parent key = embedName parent field) :
    key = field := by
  have texts := congrArg String.toList same
  rw [toList_embedName, toList_embedName, List.append_cancel_left_eq, List.cons.injEq,
    List.cons.injEq] at texts
  exact String.toList_inj.1 texts.2.2

theorem hasSeparator_embedName : hasSeparator (embedName parent key) = true := by
  rw [← Bool.not_eq_false, hasSeparator_eq_false_iff, toList_embedName]
  exact beforeSeparator_append_ne

theorem hasSeparator_iff : hasSeparator name = true ↔ Separated name := by
  constructor
  · intro has
    rw [← Bool.not_eq_false, hasSeparator_eq_false_iff] at has
    rcases beforeSeparator_eq_iff.1 (rfl : beforeSeparator name.toList = _)
      with ⟨_, plain⟩ | ⟨after, split, _⟩
    · exact absurd plain has
    · refine ⟨String.ofList (beforeSeparator name.toList), String.ofList after, ?_⟩
      rw [← String.toList_inj, toList_embedName, String.toList_ofList, String.toList_ofList]
      exact split
  · rintro ⟨before, after, same⟩
    exact same ▸ hasSeparator_embedName

theorem length_lt_length_embedName :
    parent.toList.length < (embedName parent key).toList.length := by
  rw [toList_embedName, List.length_append, List.length_cons]
  omega

theorem eq_of_embedName_eq (lastParent : ¬ EndsInUnderscore parent)
    (lastOther : ¬ EndsInUnderscore other) (plainKey : hasSeparator key = false)
    (plainField : hasSeparator field = false)
    (same : embedName parent key = embedName other field) : parent = other ∧ key = field := by
  have texts := congrArg String.toList same
  rw [toList_embedName, toList_embedName] at texts
  obtain ⟨parents, keys⟩ := eq_of_append_separator_eq lastParent lastOther
    (hasSeparator_eq_false_iff.1 plainKey) (hasSeparator_eq_false_iff.1 plainField) texts
  exact ⟨String.toList_inj.1 parents, String.toList_inj.1 keys⟩

/-! ### The root of a name -/

def withoutLast (name : String) : String :=
  String.ofList name.toList.dropLast

/-- Whether a text is what comes before the first separator of a name: all of the name
if there is none in it. -/
def IsRoot (root name : String) : Prop :=
  (name = root ∧ ¬ Separated name) ∨ ∃ rest, name = embedName root rest ∧ ¬ Separated (root ++ "_")

theorem embedRoot_eq_iff : embedRoot name = parent ↔ IsRoot parent name := by
  have plain (text : String) : ¬ Separated text ↔ beforeSeparator text.toList = text.toList := by
    rw [← hasSeparator_iff, Bool.not_eq_true, hasSeparator_eq_false_iff]
  have ends : (parent ++ "_").toList = parent.toList ++ ['_'] := String.toList_append
  have chars : embedRoot name = parent ↔ beforeSeparator name.toList = parent.toList := by
    rw [embedRoot, ← String.toList_inj, String.toList_ofList]
  rw [IsRoot, plain, plain, ends, chars, beforeSeparator_eq_iff, String.toList_inj]
  refine or_congr_right ⟨?_, ?_⟩
  · rintro ⟨after, split, last⟩
    refine ⟨String.ofList after, ?_, last⟩
    rw [← String.toList_inj, toList_embedName, String.toList_ofList, split]
  · rintro ⟨rest, split, last⟩
    exact ⟨rest.toList, split ▸ toList_embedName, last⟩

theorem embedRoot_eq_self (plain : hasSeparator name = false) : embedRoot name = name := by
  rw [embedRoot, hasSeparator_eq_false_iff.1 plain, String.ofList_toList]

/-- What comes before the first separator of the name of an embed is the name that it is embedded
in, or all but the underscore at its end. -/
theorem embedRoot_embedName (plain : hasSeparator parent = false) :
    embedRoot (embedName parent key) = if EndsInUnderscore parent then withoutLast parent
      else parent := by
  have plainParent := hasSeparator_eq_false_iff.1 plain
  rw [embedRoot, toList_embedName]
  split
  · next last =>
    obtain ⟨before, split⟩ := List.getLast?_eq_some_iff.1 last
    rw [split] at plainParent
    have lastBefore : before.getLast? ≠ some '_' := by
      intro pair
      obtain ⟨more, same⟩ := List.getLast?_eq_some_iff.1 pair
      rw [same, List.append_assoc] at plainParent
      exact beforeSeparator_append_ne plainParent
    have plainBefore := beforeSeparator_eq_self_of_append plainParent
    rw [withoutLast, split, List.dropLast_concat, List.append_assoc, List.singleton_append,
      beforeSeparator_append plainBefore lastBefore]
  · next last => rw [beforeSeparator_append plainParent last, String.ofList_toList]

end Backoffice.Text
