import Backoffice.Proofs.Resource.Descent
import Backoffice.Proofs.Resource.Discovery

/-!
The resources that a descent into embeds finds: one for every embed, and each one after the
resource that it is part of.
-/

namespace Backoffice

namespace Resource

/-- A resource that names another one as its parent, and stands for one of its embeds. -/
structure PartOf (resource parent : Resource) : Prop where
  named : resource.parent = some parent.name
  embedded : ∃ embed ∈ parent.embeds, embed.resource = resource.name

/-- Among resources that are listed after some earlier ones, each is part of
none or of one before it. -/
def ParentsFirst : List Resource → List Resource → Prop
  | _, [] => True
  | earlier, resource :: rest =>
    (resource.parent = none ∨ ∃ parent ∈ earlier, resource.PartOf parent) ∧
      ParentsFirst (earlier ++ [resource]) rest

def Listed (resources : List Resource) (name : String) : Prop :=
  ∃ resource ∈ resources, resource.name = name

theorem parentsFirst_append_iff {earlier first second : List Resource} :
    ParentsFirst earlier (first ++ second) ↔
      ParentsFirst earlier first ∧ ParentsFirst (earlier ++ first) second := by
  induction first generalizing earlier with
  | nil => simp [ParentsFirst]
  | cons resource rest inductionHypothesis =>
    simp only [List.cons_append, ParentsFirst, inductionHypothesis, List.append_assoc,
      List.nil_append, and_assoc]

theorem ParentsFirst.mono {earlier more resources : List Resource}
    (parentsFirst : ParentsFirst earlier resources) (subset : earlier ⊆ more) :
    ParentsFirst more resources := by
  induction resources generalizing earlier more with
  | nil => trivial
  | cons resource rest inductionHypothesis =>
    obtain ⟨placed, others⟩ := parentsFirst
    refine ⟨?_, inductionHypothesis others ?_⟩
    · rcases placed with none | ⟨parent, member, part⟩
      · exact .inl none
      · exact .inr ⟨parent, subset member, part⟩
    · intro other member
      rcases List.mem_append.1 member with before | last
      · exact List.mem_append_left _ (subset before)
      · exact List.mem_append_right _ last

theorem ParentsFirst.exists_parent {resources : List Resource}
    (parentsFirst : ParentsFirst [] resources) {resource : Resource} (member : resource ∈ resources)
    {name : String} (embedded : resource.parent = some name) :
    ∃ before after parent, resources = before ++ resource :: after ∧ parent ∈ before ∧
      resource.PartOf parent := by
  obtain ⟨before, after, same⟩ := List.append_of_mem member
  rw [same, parentsFirst_append_iff] at parentsFirst
  rcases parentsFirst.2.1 with none | ⟨parent, earlier, part⟩
  · rw [embedded] at none
    cases none
  · exact ⟨before, after, parent, same, earlier, part⟩

/-- Resources that a descent has found below some embeds of a resource. -/
structure Family (parent : Resource) (pending : List EmbedData) (resources : List Resource) :
    Prop where
  heads : ∀ embed ∈ pending, Listed resources embed.resource
  closed : ∀ resource ∈ resources, ∀ embed ∈ resource.embeds, Listed resources embed.resource
  parentsFirst : ParentsFirst [parent] resources
  complete : ∀ resource ∈ resources, resource.Complete

theorem Listed.mono {resources more : List Resource} {name : String}
    (listed : Listed resources name) (subset : resources ⊆ more) : Listed more name := by
  obtain ⟨resource, member, same⟩ := listed
  exact ⟨resource, subset member, same⟩

theorem Family.cons {policy : NamingPolicy} {parent : Resource} {embed : EmbedData}
    {rest : List EmbedData} {below siblings : List Resource} (own : embed ∈ parent.embeds)
    (deeper : Family (parent.embedded policy embed) (parent.embedded policy embed).embeds below)
    (others : Family parent rest siblings) :
    Family parent (embed :: rest) (parent.embedded policy embed :: (below ++ siblings)) := by
  generalize same : parent.embedded policy embed = child at deeper
  have inBelow : below ⊆ child :: (below ++ siblings) :=
    fun _ member => List.mem_cons_of_mem _ (List.mem_append_left _ member)
  have inSiblings : siblings ⊆ child :: (below ++ siblings) :=
    fun _ member => List.mem_cons_of_mem _ (List.mem_append_right _ member)
  have part : child.PartOf parent := by
    subst same
    exact ⟨rfl, embed, own, rfl⟩
  constructor
  · rw [List.forall_mem_cons]
    refine ⟨⟨child, List.mem_cons_self, same ▸ rfl⟩, ?_⟩
    exact fun other member => (others.heads other member).mono inSiblings
  · rw [List.forall_mem_cons, List.forall_mem_append]
    refine ⟨fun other member => (deeper.heads other member).mono inBelow, ?_, ?_⟩
    · exact fun resource found other member =>
        (deeper.closed resource found other member).mono inBelow
    · exact fun resource found other member =>
        (others.closed resource found other member).mono inSiblings
  · refine ⟨.inr ⟨parent, List.mem_singleton_self _, part⟩, ?_⟩
    rw [parentsFirst_append_iff]
    exact ⟨deeper.parentsFirst.mono (by simp), others.parentsFirst.mono (by simp)⟩
  · rw [List.forall_mem_cons, List.forall_mem_append]
    exact ⟨same ▸ complete_embedded parent policy embed, deeper.complete, others.complete⟩

theorem family_of_synthesize_eq_ok {policy : NamingPolicy} {parent : Resource}
    {chain : List SchemaName} {pending : List EmbedData} (resources : List Resource)
    (succeeded : synthesize policy parent chain pending = .ok resources)
    (own : ∀ embed ∈ pending, embed ∈ parent.embeds) : Family parent pending resources := by
  induction parent, chain, pending using synthesize.induct policy generalizing resources with
  | case1 parent chain =>
    rw [synthesize_nil] at succeeded
    cases succeeded
    exact ⟨by simp, by simp, trivial, by simp⟩
  | case2 parent chain embed rest repeated =>
    exact absurd repeated (synthesize_cons_eq_ok_iff.1 succeeded).1
  | case3 parent chain embed rest fresh child hypothesisBelow hypothesisOthers =>
    obtain ⟨_, below, siblings, succeededBelow, succeededOthers, same⟩ :=
      synthesize_cons_eq_ok_iff.1 succeeded
    rw [List.forall_mem_cons] at own
    subst same
    exact .cons own.1 (hypothesisBelow below succeededBelow fun _ member => member)
      (hypothesisOthers siblings succeededOthers own.2)

end Resource

end Backoffice
