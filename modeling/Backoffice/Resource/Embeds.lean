import Backoffice.Resource.Basic

/-!
The resources of embedded schemas.

Every embed of a resource gets a resource of its own, and so on for the embeds of that one. A schema
that comes back on the way down is an error, which is also why the descent ends: each step down
either uses up a schema of the backend or reaches one that the backend does not know, and that one
embeds nothing.
-/

namespace Backoffice

namespace Backend

def unvisited (backend : Backend) (chain : List SchemaName) : List SchemaName :=
  backend.schemaNames.filter (· ∉ chain)

theorem length_unvisited_lt {backend : Backend} {chain : List SchemaName} {schema : SchemaName}
    (known : schema ∈ backend.schemaNames) (fresh : schema ∉ chain) :
    (backend.unvisited (chain ++ [schema])).length < (backend.unvisited chain).length := by
  unfold unvisited
  generalize backend.schemaNames = names at known
  induction names with
  | nil => simp at known
  | cons name rest inductionHypothesis =>
    have shorter : (rest.filter (· ∉ chain ++ [schema])).length ≤
        (rest.filter (· ∉ chain)).length := by
      apply List.Sublist.length_le
      rw [show (rest.filter (· ∉ chain ++ [schema])) =
        (rest.filter (· ∉ chain)).filter (· ≠ schema) by
          rw [List.filter_filter]
          congr 1
          funext name
          simp [Bool.and_comm]]
      exact List.filter_sublist
    by_cases same : name = schema
    · subst same
      simp only [List.filter_cons]
      simp [fresh]
      simpa using Nat.lt_succ_of_le shorter
    · have inRest : schema ∈ rest := by
        rcases List.mem_cons.1 known with equal | member
        · exact absurd equal.symm same
        · exact member
      have := inductionHypothesis inRest
      by_cases visited : name ∈ chain <;>
        simpa [List.filter_cons, visited, same] using this

theorem unvisited_append_of_not_mem {backend : Backend} {chain : List SchemaName}
    {schema : SchemaName} (unknown : schema ∉ backend.schemaNames) :
    backend.unvisited (chain ++ [schema]) = backend.unvisited chain := by
  unfold unvisited
  apply List.filter_congr
  intro name member
  have : name ≠ schema := fun same => unknown (same ▸ member)
  simp [this]

end Backend

namespace Resource

/-- The resources below some embeds of a resource: each one before those below it, in the order of
the embeds. The chain holds the schemas on the way down, the one of the resource last. -/
def synthesize (policy : NamingPolicy) (parent : Resource) (chain : List SchemaName)
    (pending : List EmbedData) : Except Error (List Resource) :=
  match pending with
  | [] => .ok []
  | embed :: rest =>
    if embed.related ∈ chain then .error (.embedCycle (chain ++ [embed.related]))
    else do
      let child := parent.embedded policy embed
      let below ← synthesize policy child (chain ++ [embed.related]) child.embeds
      let siblings ← synthesize policy parent chain rest
      .ok (child :: (below ++ siblings))
termination_by ((parent.backend.unvisited chain).length, pending.length)
decreasing_by
  · by_cases known : embed.related ∈ parent.backend.schemaNames
    · exact Prod.Lex.left _ _ (Backend.length_unvisited_lt known ‹_›)
    · rw [backend_embedded, Backend.unvisited_append_of_not_mem known,
        embeds_embedded_eq_nil known]
      exact Prod.Lex.right _ (by simp)
  · exact Prod.Lex.right _ (by simp)

def synthesizeEmbeds (resource : Resource) (policy : NamingPolicy) :
    Except Error (List Resource) :=
  synthesize policy resource [resource.schema] resource.embeds

end Resource

end Backoffice
