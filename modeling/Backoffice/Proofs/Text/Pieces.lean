import Backoffice.Text.Pieces
import Mathlib.Data.List.Basic

/-!
Texts and their pieces between separators: the pieces are the only texts without the separator that
make the text when they are joined by it.
-/

namespace Backoffice.Text

variable {separator : Char}

theorem splitOnChar_eq_splitOn (chars : List Char) :
    splitOnChar separator chars = chars.splitOn separator := by
  induction chars with
  | nil => rfl
  | cons c rest inductionHypothesis =>
    rw [List.splitOn_eq_splitOnP, List.splitOnP_cons_eq_if_modifyHead, ← List.splitOn_eq_splitOnP,
      ← inductionHypothesis, splitOnChar]
    by_cases same : c = separator
    · simp [same]
    · simp only [same, if_false, beq_iff_eq]
      cases split : splitOnChar separator rest with
      | nil => exact absurd split (splitOnChar_ne_nil separator rest)
      | cons piece pieces => rfl

theorem notMem_of_mem_splitOnChar {chars piece : List Char}
    (member : piece ∈ splitOnChar separator chars) :
    separator ∉ piece := by
  induction chars generalizing piece with
  | nil => simp_all [splitOnChar]
  | cons c rest inductionHypothesis =>
    rw [splitOnChar] at member
    by_cases same : c = separator
    · rw [if_pos same, List.mem_cons] at member
      rcases member with rfl | later
      · exact List.not_mem_nil
      · exact inductionHypothesis later
    · rw [if_neg same] at member
      cases split : splitOnChar separator rest with
      | nil => exact absurd split (splitOnChar_ne_nil separator rest)
      | cons first others =>
        rw [split] at member inductionHypothesis
        rcases List.mem_cons.1 member with rfl | later
        · exact by simp [Ne.symm same, inductionHypothesis]
        · exact inductionHypothesis (List.mem_cons_of_mem _ later)

structure Joins (separator : Char) (parts : List String) (text : String) : Prop where
  ne_nil : parts ≠ []
  plain : ∀ part ∈ parts, separator ∉ part.toList
  joined : (String.singleton separator).intercalate parts = text

theorem pieces_eq_iff {text : String} {parts : List String} :
    pieces separator text = parts ↔ Joins separator parts text := by
  constructor
  · rintro rfl
    refine ⟨?_, ?_, ?_⟩
    · simpa [pieces] using splitOnChar_ne_nil separator text.toList
    · intro part member
      obtain ⟨chars, isPiece, rfl⟩ := List.mem_map.1 member
      rw [String.toList_ofList]
      exact notMem_of_mem_splitOnChar isPiece
    · apply String.toList_inj.1
      rw [String.toList_intercalate, pieces, List.map_map, splitOnChar_eq_splitOn]
      simp [Function.comp_def]
  · rintro ⟨ne_nil, plain, rfl⟩
    have split : splitOnChar separator ((String.singleton separator).intercalate parts).toList =
        parts.map String.toList := by
      rw [splitOnChar_eq_splitOn, String.toList_intercalate, String.toList_singleton]
      refine List.splitOn_intercalate separator ?_ (by simpa using ne_nil)
      simpa using plain
    rw [pieces, split, List.map_map]
    simp [Function.comp_def]

end Backoffice.Text
