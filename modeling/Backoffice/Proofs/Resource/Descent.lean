import Backoffice.Proofs.Outcome
import Backoffice.Resource.Embeds

/-!
The descent into embeds as a loop over one chain and one list of resources.

Each step down puts a schema on the chain and takes it off again, whether the descent below
ends well or fails; the resource of the step is put before those that were found below it.
From any start there is exactly one run. It leaves the chain as it was, and its outcome is
that of `Resource.synthesize`.
-/

namespace Backoffice

namespace Resource

variable {policy : NamingPolicy} {parent : Resource} {chain : List SchemaName} {embed : EmbedData}
  {rest : List EmbedData}

theorem synthesize_nil : synthesize policy parent chain [] = .ok [] := by
  rw [synthesize]

theorem synthesize_cons_eq_ok_iff {resources : List Resource} :
    synthesize policy parent chain (embed :: rest) = .ok resources ↔
      embed.related ∉ chain ∧ ∃ below siblings,
        synthesize policy (parent.embedded policy embed) (chain ++ [embed.related])
          (parent.embedded policy embed).embeds = .ok below ∧
        synthesize policy parent chain rest = .ok siblings ∧
        parent.embedded policy embed :: (below ++ siblings) = resources := by
  rw [synthesize]
  split
  · next repeated => simp [repeated]
  · next fresh => simp [fresh, Outcome.bind_eq_ok_iff]

theorem synthesizeEmbeds_of_embeds_eq_singleton (own : parent.embeds = [embed])
    (other : embed.related ≠ parent.schema) (last : (parent.embedded policy embed).embeds = []) :
    parent.synthesizeEmbeds policy = .ok [parent.embedded policy embed] := by
  rw [synthesizeEmbeds, own, synthesize_cons_eq_ok_iff, last]
  exact ⟨by simpa using other, [], [], synthesize_nil, synthesize_nil, rfl⟩

theorem synthesize_cons_eq_error_iff {fault : Error} :
    synthesize policy parent chain (embed :: rest) = .error fault ↔
      embed.related ∈ chain ∧ .embedCycle (chain ++ [embed.related]) = fault ∨
      embed.related ∉ chain ∧
        (synthesize policy (parent.embedded policy embed) (chain ++ [embed.related])
            (parent.embedded policy embed).embeds = .error fault ∨
          ∃ below, synthesize policy (parent.embedded policy embed) (chain ++ [embed.related])
              (parent.embedded policy embed).embeds = .ok below ∧
            synthesize policy parent chain rest = .error fault) := by
  rw [synthesize]
  split
  · next repeated => simp [repeated]
  · next fresh => simp [fresh, Outcome.bind_eq_error_iff]

end Resource

structure Descent where
  chain : List SchemaName
  found : List Resource

/-- The runs of the loop over some embeds of a resource: the state before, the
outcome, and the state after. -/
inductive Descends (policy : NamingPolicy) :
    Resource → List EmbedData → Descent → Except Error Unit → Descent → Prop where
  | done {parent : Resource} {state : Descent} : Descends policy parent [] state (.ok ()) state
  | cycle {parent : Resource} {embed : EmbedData} {rest : List EmbedData} {state : Descent}
      (repeated : embed.related ∈ state.chain) :
      Descends policy parent (embed :: rest) state
        (.error (.embedCycle (state.chain ++ [embed.related]))) state
  | abort {parent : Resource} {embed : EmbedData} {rest : List EmbedData} {state after : Descent}
      {fault : Error} (fresh : embed.related ∉ state.chain)
      (failed : Descends policy (parent.embedded policy embed) (parent.embedded policy embed).embeds
        { state with chain := state.chain ++ [embed.related] } (.error fault) after) :
      Descends policy parent (embed :: rest) state (.error fault)
        { after with chain := after.chain.dropLast }
  | next {parent : Resource} {embed : EmbedData} {rest : List EmbedData}
      {state below after : Descent} {outcome : Except Error Unit}
      (fresh : embed.related ∉ state.chain)
      (succeeded : Descends policy (parent.embedded policy embed)
        (parent.embedded policy embed).embeds
        { state with chain := state.chain ++ [embed.related] } (.ok ()) below)
      (room : state.found.length ≤ below.found.length)
      (others : Descends policy parent rest
        { chain := below.chain.dropLast
          found := below.found.insertIdx state.found.length (parent.embedded policy embed) }
        outcome after) :
      Descends policy parent (embed :: rest) state outcome after

namespace Descends

variable {policy : NamingPolicy} {parent : Resource} {pending : List EmbedData} {state : Descent}

theorem unique {outcome other : Except Error Unit} {after last : Descent}
    (run : Descends policy parent pending state outcome after)
    (again : Descends policy parent pending state other last) :
    outcome = other ∧ after = last := by
  induction run generalizing other last with
  | done =>
    cases again
    exact ⟨rfl, rfl⟩
  | cycle repeated =>
    cases again with
    | cycle => exact ⟨rfl, rfl⟩
    | abort fresh => exact absurd repeated fresh
    | next fresh => exact absurd repeated fresh
  | abort fresh _ inductionHypothesis =>
    cases again with
    | cycle repeated => exact absurd repeated fresh
    | abort _ failed =>
      obtain ⟨sameFault, same⟩ := inductionHypothesis failed
      cases sameFault
      exact ⟨rfl, same ▸ rfl⟩
    | next _ succeeded => cases (inductionHypothesis succeeded).1
  | next fresh _ _ _ hypothesisBelow hypothesisOthers =>
    cases again with
    | cycle repeated => exact absurd repeated fresh
    | abort _ failed => cases (hypothesisBelow failed).1
    | next _ succeeded _ others =>
      obtain ⟨_, same⟩ := hypothesisBelow succeeded
      subst same
      exact hypothesisOthers others

/-- A resource is put right before those that were found since. -/
theorem insertIdx_found (found since : List Resource) (resource : Resource) :
    (found ++ since).insertIdx found.length resource = found ++ resource :: since := by
  induction found with
  | nil => rfl
  | cons first rest inductionHypothesis =>
    rw [List.cons_append, List.length_cons, List.insertIdx_succ_cons, inductionHypothesis]
    rfl

/-- A descent that succeeds has found what `Resource.synthesize` gives, and
the chain is as before. -/
theorem of_synthesize_eq_ok {chain : List SchemaName} (found : List Resource)
    {resources : List Resource}
    (succeeded : Resource.synthesize policy parent chain pending = .ok resources) :
    Descends policy parent pending ⟨chain, found⟩ (.ok ()) ⟨chain, found ++ resources⟩ := by
  induction parent, chain, pending using Resource.synthesize.induct policy
    generalizing found resources with
  | case1 parent chain =>
    rw [Resource.synthesize_nil] at succeeded
    cases succeeded
    rw [List.append_nil]
    exact .done
  | case2 parent chain embed rest repeated =>
    exact absurd repeated (Resource.synthesize_cons_eq_ok_iff.1 succeeded).1
  | case3 parent chain embed rest fresh child hypothesisBelow hypothesisOthers =>
    obtain ⟨_, below, siblings, succeededBelow, succeededOthers, same⟩ :=
      Resource.synthesize_cons_eq_ok_iff.1 succeeded
    subst same
    refine .next fresh (hypothesisBelow found succeededBelow) (by simp) ?_
    rw [insertIdx_found, List.dropLast_concat]
    simpa [child] using hypothesisOthers (found ++ child :: below) succeededOthers

/-- A descent that fails leaves the chain as it was, too. -/
theorem of_synthesize_eq_error {chain : List SchemaName} (found : List Resource) {fault : Error}
    (failed : Resource.synthesize policy parent chain pending = .error fault) :
    ∃ others, Descends policy parent pending ⟨chain, found⟩ (.error fault) ⟨chain, others⟩ := by
  induction parent, chain, pending using Resource.synthesize.induct policy
    generalizing found with
  | case1 parent chain =>
    rw [Resource.synthesize_nil] at failed
    cases failed
  | case2 parent chain embed rest repeated =>
    rcases Resource.synthesize_cons_eq_error_iff.1 failed with ⟨_, same⟩ | ⟨fresh, _⟩
    · exact ⟨found, same ▸ .cycle repeated⟩
    · exact absurd repeated fresh
  | case3 parent chain embed rest fresh child hypothesisBelow hypothesisOthers =>
    rcases Resource.synthesize_cons_eq_error_iff.1 failed with
      ⟨repeated, _⟩ | ⟨_, failedBelow | ⟨below, succeededBelow, failedOthers⟩⟩
    · exact absurd repeated fresh
    · obtain ⟨others, run⟩ := hypothesisBelow found failedBelow
      have aborted : Descends policy parent (embed :: rest) ⟨chain, found⟩ _ _ :=
        .abort fresh run
      rw [List.dropLast_concat] at aborted
      exact ⟨others, aborted⟩
    · obtain ⟨others, run⟩ := hypothesisOthers (found ++ child :: below) failedOthers
      refine ⟨others, .next fresh (of_synthesize_eq_ok found succeededBelow) (by simp) ?_⟩
      rw [insertIdx_found, List.dropLast_concat]
      exact run

/-- From any state there is exactly one run. Its outcome is that of `Resource.synthesize`, and it
leaves the chain as it was. -/
theorem existsUnique_run (policy : NamingPolicy) (parent : Resource) (chain : List SchemaName)
    (pending : List EmbedData) (found : List Resource) :
    ∃ others, ∀ outcome after,
      Descends policy parent pending ⟨chain, found⟩ outcome after ↔
        outcome = (Resource.synthesize policy parent chain pending).map (fun _ => ()) ∧
          after = ⟨chain, others⟩ := by
  cases result : Resource.synthesize policy parent chain pending with
  | ok resources =>
    have run := of_synthesize_eq_ok found result
    refine ⟨found ++ resources, fun outcome after => ⟨fun other => other.unique run, ?_⟩⟩
    rintro ⟨rfl, rfl⟩
    exact run
  | error fault =>
    obtain ⟨others, run⟩ := of_synthesize_eq_error found result
    refine ⟨others, fun outcome after => ⟨fun other => other.unique run, ?_⟩⟩
    rintro ⟨rfl, rfl⟩
    exact run

end Descends

end Backoffice
