import Backoffice.Uuid
import Mathlib.Data.List.Basic

/-!
Identifiers that are written and read again: the text of an identifier is one of the
forms in which it is read.
-/

namespace Backoffice.Uuid

theorem mapM_digit?_map_digitChar (digits : List (Fin 16)) :
    (digits.map digitChar).mapM digit? = some digits := by
  induction digits with
  | nil => rfl
  | cons digit rest inductionHypothesis =>
    rw [List.map_cons, List.mapM_cons, digit?_digitChar, inductionHypothesis]
    rfl

theorem ofSimple?_digits (uuid : Uuid) : ofSimple? (uuid.digits.map digitChar) = some uuid := by
  rw [ofSimple?, mapM_digit?_map_digitChar]
  exact dif_pos uuid.length_digits

theorem ofHyphenated?_groups (first second third fourth fifth : List Char)
    (length : first.length = 8) (lengthSecond : second.length = 4) (lengthThird : third.length = 4)
    (lengthFourth : fourth.length = 4) (lengthFifth : fifth.length = 12) :
    ofHyphenated? (first ++ '-' :: (second ++ '-' :: (third ++ '-' :: (fourth ++ '-' :: fifth)))) =
      ofSimple? (first ++ second ++ third ++ fourth ++ fifth) := by
  have dropGroup (group after : List Char) {places : Nat} (length : group.length = places) :
      (group ++ '-' :: after).drop (places + 1) = after := by
    subst length
    simp
  rw [ofHyphenated?, if_pos]
  · rw [show 24 = 9 + 5 + 5 + 5 from rfl, show 19 = 9 + 5 + 5 from rfl, show 14 = 9 + 5 from rfl]
    simp only [← List.drop_drop, dropGroup first _ length, dropGroup second _ lengthSecond,
      dropGroup third _ lengthThird, dropGroup fourth _ lengthFourth, List.take_left' length,
      List.take_left' lengthSecond, List.take_left' lengthThird, List.take_left' lengthFourth]
  · simp [List.getElem?_append, length, lengthSecond, lengthThird, lengthFourth, lengthFifth]

theorem ofText?_toText (uuid : Uuid) : ofText? uuid.toText = some uuid := by
  have digits := ofSimple?_digits uuid
  have length : (uuid.digits.map digitChar).length = 32 := by
    rw [List.length_map, uuid.length_digits]
  unfold toText
  generalize uuid.digits.map digitChar = chars at digits length
  have groups : chars.take 8 ++ (chars.drop 8).take 4 ++ (chars.drop 12).take 4 ++
      (chars.drop 16).take 4 ++
      chars.drop 20 = chars := by
    rw [show 20 = 8 + 4 + 4 + 4 from rfl, show 16 = 8 + 4 + 4 from rfl, show 12 = 8 + 4 from rfl]
    simp only [← List.drop_drop, List.append_assoc, List.take_append_drop]
  have hyphenated := ofHyphenated?_groups (chars.take 8) ((chars.drop 8).take 4)
    ((chars.drop 12).take 4) ((chars.drop 16).take 4) (chars.drop 20)
    (by simp [length]) (by simp [length]) (by simp [length]) (by simp [length]) (by simp [length])
  rw [groups, digits] at hyphenated
  simpa [ofText?, length] using hyphenated

end Backoffice.Uuid
