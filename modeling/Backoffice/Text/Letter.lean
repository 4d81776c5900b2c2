import Backoffice.Text.CaseTable

/-!
Capital and small letters of all scripts.
-/

namespace Backoffice.Text

def isUppercase (c : Char) : Bool :=
  uppercaseRuns.any (·.covers c.toNat)

def mapCase (runs : List CaseRun) (sequences : List (Nat × List Nat)) (c : Char) : List Char :=
  match sequences.find? (·.1 = c.toNat) with
  | some (_, image) => image.map Char.ofNat
  | none =>
    match runs.find? (·.codes.covers c.toNat) with
    | some run => [Char.ofNat (c.toNat + run.shift).toNat]
    | none => [c]

/-- The capital form of a character: itself when it has none. -/
def toCapital (c : Char) : List Char := mapCase capitalRuns capitalSequences c

def toSmall (c : Char) : List Char := mapCase smallRuns smallSequences c

/-- Characters without a capital form are kept. -/
example : toCapital '3' = ['3'] := by decide

/-- The capital of a sharp s has two letters. -/
example : toCapital 'ß' = ['S', 'S'] := by decide

end Backoffice.Text
