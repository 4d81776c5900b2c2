import Backoffice.Proofs.Resource.Collisions
import Backoffice.Proofs.Resource.Operations

/-!
What a registry is built of: the families of its declarations, one after the other, linked, and each
resource with what its own declaration attaches to it. Building succeeds exactly if there are such
families, no name is in them twice, and everything can be attached.
-/

namespace Backoffice

namespace Registry

variable {backends : Backends} {policy : NamingPolicy} {registry after : Registry}
  {declarations : List ResourceDeclaration} {declaration : ResourceDeclaration}

/-! ### Registering -/

theorem family_eq_ok_iff {found : List Resource} :
    family backends policy declaration = .ok found ↔
      ∃ root embedded, discover backends policy declaration = .ok root ∧
        root.synthesizeEmbeds policy = .ok embedded ∧ root :: embedded = found := by
  simp only [family, Outcome.bind_eq_ok_iff, Except.ok.injEq, exists_and_left]

theorem insertAll_eq_ok_iff {resources : List Resource} (distinct : registry.names.Nodup) :
    registry.insertAll resources = .ok after ↔
      after.resources = registry.resources ++ resources ∧ after.names.Nodup := by
  constructor
  · exact fun succeeded => resources_of_insertAll_eq_ok succeeded distinct
  · rintro ⟨listed, nodup⟩
    rw [names, listed, List.map_append] at nodup
    rw [insertAll_eq_ok nodup]
    exact congrArg Except.ok (eq_of_resources_eq listed.symm)

theorem register_eq_ok_iff (distinct : registry.names.Nodup) :
    register backends policy registry declaration = .ok after ↔
      ∃ found, family backends policy declaration = .ok found ∧
        after.resources = registry.resources ++ found ∧ after.names.Nodup := by
  rw [register_eq, Outcome.bind_eq_ok_iff]
  simp only [insertAll_eq_ok_iff distinct]

/-- Declarations are registered exactly if each of them has a family and no name comes twice. -/
theorem registering_eq_ok_iff (distinct : registry.names.Nodup) :
    declarations.foldlM (register backends policy) registry = .ok after ↔
      ∃ families, Families backends policy declarations families ∧
        after.resources = registry.resources ++ families.flatten ∧ after.names.Nodup := by
  induction declarations generalizing registry with
  | nil =>
    constructor
    · intro registering
      cases registering
      exact ⟨[], .nil, by simp, distinct⟩
    · rintro ⟨families, areFamilies, listed, _⟩
      cases areFamilies
      rw [List.flatten_nil, List.append_nil] at listed
      exact congrArg Except.ok (eq_of_resources_eq listed.symm)
  | cons declaration rest inductionHypothesis =>
    rw [List.foldlM_cons, Outcome.bind_eq_ok_iff]
    constructor
    · rintro ⟨next, registered, registering⟩
      obtain ⟨found, isFamily, listed, nodup⟩ := (register_eq_ok_iff distinct).1 registered
      obtain ⟨families, areFamilies, listedRest, nodupRest⟩ :=
        (inductionHypothesis nodup).1 registering
      refine ⟨found :: families, .cons isFamily areFamilies, ?_, nodupRest⟩
      rw [listedRest, listed, List.flatten_cons, List.append_assoc]
    · rintro ⟨_, areFamilies, listed, nodup⟩
      cases areFamilies with
      | @cons _ found _ families isFamily areFamilies =>
        rw [List.flatten_cons, ← List.append_assoc] at listed
        have nodupNext : (names ⟨registry.resources ++ found⟩).Nodup := by
          rw [names, listed, List.map_append] at nodup
          exact (List.nodup_append.1 nodup).1
        exact ⟨⟨registry.resources ++ found⟩,
          (register_eq_ok_iff distinct).2 ⟨found, isFamily, rfl, nodupNext⟩,
          (inductionHypothesis nodupNext).2 ⟨families, areFamilies, listed, nodup⟩⟩

/-! ### Building -/

/-- A registry is built exactly if the families of the declarations can be registered, and
what is attached to each resource of them, once it is linked, gives the resource of the
registry in its place. -/
theorem build_eq_ok_iff :
    build declarations backends policy = .ok registry ↔
      ∃ registered : Registry, (∃ families, Families backends policy declarations families ∧
          registered.resources = families.flatten) ∧ registered.names.Nodup ∧
        List.Forall₂
          (fun resource result => declarations.foldlM Resource.attachOwn resource = .ok result)
          registered.link.resources registry.resources := by
  have start : (names {}).Nodup := List.nodup_nil
  simp only [build, Outcome.bind_eq_ok_iff, registering_eq_ok_iff start, attaching_eq_ok_iff,
    List.nil_append]
  constructor
  · rintro ⟨registered, ⟨families, areFamilies, listed, nodup⟩, attaching⟩
    exact ⟨registered, ⟨families, areFamilies, listed⟩, nodup, attaching⟩
  · rintro ⟨registered, ⟨families, areFamilies, listed⟩, nodup, attaching⟩
    exact ⟨registered, ⟨families, areFamilies, listed, nodup⟩, attaching⟩

end Registry

end Backoffice
