import Backoffice.Proofs.Resource.Registration

/-!
Where the resources of a registry come from: each of them is discovered for a declaration,
or for an embed of one that is, however deep. What discovery gives to a resource, every
resource of a registry has.
-/

namespace Backoffice

variable {policy : NamingPolicy} {declarations : List ResourceDeclaration}

/-- The resources that some declarations bring about, as they are discovered. -/
inductive Resource.Discovered (policy : NamingPolicy) (declarations : List ResourceDeclaration) :
    Resource → Prop where
  | declared {declaration backend schema context} :
      declaration ∈ declarations →
      Discovered policy declarations
        (.discover declaration.name backend schema context (some declaration) policy none)
  | embedded {parent embed} :
      Discovered policy declarations parent → embed ∈ parent.embeds →
      Discovered policy declarations (parent.embedded policy embed)

namespace Resource

theorem Discovered.bare {resource : Resource}
    (discovered : resource.Discovered policy declarations) :
    resource.bare = resource := by
  cases discovered with
  | declared _ => rfl
  | embedded _ _ => rfl

theorem discovered_of_synthesize_eq_ok {parent : Resource} {chain : List SchemaName}
    {pending : List EmbedData} (resources : List Resource)
    (succeeded : synthesize policy parent chain pending = .ok resources)
    (found : parent.Discovered policy declarations)
    (own : ∀ embed ∈ pending, embed ∈ parent.embeds) :
    ∀ resource ∈ resources, resource.isEmbedded = true ∧
      resource.Discovered policy declarations := by
  induction parent, chain, pending using synthesize.induct policy generalizing resources with
  | case1 parent chain =>
    rw [synthesize_nil] at succeeded
    cases succeeded
    exact List.forall_mem_nil _
  | case2 parent chain embed rest repeated =>
    exact absurd repeated (synthesize_cons_eq_ok_iff.1 succeeded).1
  | case3 parent chain embed rest fresh child hypothesisBelow hypothesisOthers =>
    obtain ⟨_, below, siblings, succeededBelow, succeededOthers, same⟩ :=
      synthesize_cons_eq_ok_iff.1 succeeded
    subst same
    rw [List.forall_mem_cons] at own
    have head : child.Discovered policy declarations := .embedded found own.1
    rw [List.forall_mem_cons, List.forall_mem_append]
    exact ⟨⟨rfl, head⟩, hypothesisBelow below succeededBelow head fun _ member => member,
      hypothesisOthers siblings succeededOthers found own.2⟩

end Resource

namespace Registry

variable {registry after : Registry} {backends : Backends}

theorem exists_listed_of_register_eq_ok {declaration : ResourceDeclaration}
    (isDeclared : declaration ∈ declarations) (nodup : registry.names.Nodup)
    (succeeded : register backends policy registry declaration = .ok after) :
    ∃ root embedded, after.resources = registry.resources ++ root :: embedded ∧
      root.isEmbedded = false ∧ (root.name, root.opts) = (declaration.name, declaration.opts) ∧
      root.Discovered policy declarations ∧
      ∀ resource ∈ embedded, resource.isEmbedded = true ∧
      resource.Discovered policy declarations := by
  obtain ⟨root, discovered, succeeded⟩ := Outcome.bind_eq_ok_iff.1 succeeded
  obtain ⟨embedded, descended, inserted⟩ := Outcome.bind_eq_ok_iff.1 succeeded
  obtain ⟨backend, schema, context, same⟩ := exists_of_discover_eq_ok discovered
  have head : root.Discovered policy declarations := same ▸ .declared isDeclared
  refine ⟨root, embedded, (resources_of_insertAll_eq_ok inserted nodup).1, same ▸ rfl, same ▸ rfl,
    head, ?_⟩
  exact Resource.discovered_of_synthesize_eq_ok embedded descended head fun _ member => member

theorem discovered_of_registering
    (registering : declarations.foldlM (register backends policy) {} = .ok registry) :
    ∀ resource ∈ registry.resources, resource.Discovered policy declarations := by
  -- No name is registered twice, so what is registered is what was there before, and what is added.
  have both : registry.Sound ∧
      ∀ resource ∈ registry.resources, resource.Discovered policy declarations := by
    refine Outcome.foldlM_keeps (fun registry => registry.Sound ∧
      ∀ resource ∈ registry.resources, resource.Discovered policy declarations) ?_ ?_ registering
    · rintro declaration isDeclared before after ⟨sound, discovered⟩ stepped
      refine ⟨sound.register stepped, ?_⟩
      obtain ⟨root, embedded, listed, _, _, head, others⟩ :=
        exists_listed_of_register_eq_ok isDeclared sound.nodup stepped
      rw [listed, List.forall_mem_append, List.forall_mem_cons]
      exact ⟨discovered, head, fun resource member => (others resource member).2⟩
    · exact ⟨⟨List.nodup_nil, trivial, nofun, nofun⟩, nofun⟩
  exact both.2

/-- A resource of a registry that is built differs from one that is discovered in its operations and
routes and in what its associations lead to. -/
theorem exists_discovered_of_build_eq_ok
    (succeeded : build declarations backends policy = .ok registry) {resource : Resource}
    (member : resource ∈ registry.resources) :
    ∃ (registered : Registry) (original : Resource), original.Discovered policy declarations ∧
      resource.bare = (registered.linkResource original).bare := by
  obtain ⟨registered, registering, attaching⟩ := Outcome.bind_eq_ok_iff.1 succeeded
  obtain ⟨original, isRegistered, bare⟩ :=
    exists_registered_of_mem (map_bare_of_attaching attaching) member
  exact ⟨registered, original, discovered_of_registering registering original isRegistered, bare⟩

end Registry

end Backoffice
