import Backoffice.Declaration.Application
import Backoffice.Pattern.Reader

/-!
The naming policy: which fields are disabled, hidden or omitted because of their keys.
-/

namespace Backoffice

/-- The patterns of keys, read. -/
structure NamingPolicy where
  disabled : List Pattern := []
  hidden : List Pattern := []
  omitted : List Pattern := []
  deriving Repr, Inhabited

namespace NamingPolicy

/-- The patterns that some texts write; the first one that writes none is an error. -/
def patterns (texts : List String) : Except Error (List Pattern) :=
  texts.mapM fun text =>
    match Pattern.ofText? text with
    | some pattern => .ok pattern
    | none => .error (.invalidPolicy text)

def ofRules (rules : NamingRules) : Except Error NamingPolicy := do
  let disabled ← patterns rules.disabled
  let hidden ← patterns rules.hidden
  let omitted ← patterns rules.omitted
  .ok { disabled, hidden, omitted }

def isDisabled (policy : NamingPolicy) (key : String) : Bool :=
  policy.disabled.any (·.matchesIn key)

def isHidden (policy : NamingPolicy) (key : String) : Bool :=
  policy.hidden.any (·.matchesIn key)

def isOmitted (policy : NamingPolicy) (key : String) : Bool :=
  policy.omitted.any (·.matchesIn key)

end NamingPolicy

end Backoffice
