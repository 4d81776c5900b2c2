import Backoffice.Proofs.Resource.Descent
import Backoffice.Proofs.Table
import Mathlib.Data.List.Nodup

/-!
When a descent into embeds fails.

Which schemas a resource without a declaration embeds depends on its own schema only, so the embeds
of a backend form a graph of schemas. A descent fails exactly if some way down that graph comes back
to one of its schemas, and then it reports such a way. A schema that is reached twice, but on
different ways, is no reason to fail.
-/

namespace Backoffice

/-! ### Schemas that a resource embeds -/

def Field.target? (field : Field) : Option SchemaName :=
  field.embed?.map (·.related)

def Resource.targets (resource : Resource) : List SchemaName :=
  resource.embeds.map (·.related)

/-- The schemas that a schema embeds: those of its resource without a declaration. -/
def Backend.embeddedIn (backend : Backend) (policy : NamingPolicy) (schema : SchemaName) :
    List SchemaName :=
  (Resource.discover schema.text backend schema none none policy none).targets

namespace Relationship

theorem target?_field (relationship : Relationship) (owner : String) (schema : SchemaName)
    (key : String) (existing : Option Field) (policy : NamingPolicy) :
    (relationship.field owner schema key existing none policy).target? =
      match relationship.kind with
      | .embedOne | .embedMany => some relationship.destination
      | .manyToOne | .oneToMany => none := by
  simp only [Relationship.field, Field.customizedBy, Field.target?, Field.embed?, fieldData]
  cases relationship.kind with
  | manyToOne => rfl
  | oneToMany => rfl
  | embedOne => rfl
  | embedMany => rfl

end Relationship

namespace Discovery

structure SameTargets (found other : Discovery) : Prop where
  order : found.order = other.order
  targets : found.fields.mapValues Field.target? = other.fields.mapValues Field.target?

variable {schema : SchemaName} {policy : NamingPolicy} {found other : Discovery}

theorem SameTargets.contains (same : SameTargets found other) (key : String) :
    found.fields.contains key = other.fields.contains key := by
  rw [← Table.contains_mapValues Field.target?, same.targets, Table.contains_mapValues]

theorem SameTargets.addAttribute (same : SameTargets found other) (owner otherOwner : String)
    (attr : Attribute) :
    SameTargets (addAttribute ⟨owner, schema, none, policy⟩ found attr)
      (Discovery.addAttribute ⟨otherOwner, schema, none, policy⟩ other attr) where
  order := congrArg (· ++ [attr.name]) same.order
  targets := by
    simp only [Discovery.addAttribute, Table.mapValues_insert, same.targets]
    rfl

theorem SameTargets.addRelationship (same : SameTargets found other) (owner otherOwner : String)
    (relationship : Relationship) :
    SameTargets (addRelationship ⟨owner, schema, none, policy⟩ found relationship)
      (Discovery.addRelationship ⟨otherOwner, schema, none, policy⟩ other relationship) := by
  have sameKey : relationship.fieldKey found.fields = relationship.fieldKey other.fields := by
    rw [Relationship.fieldKey, Relationship.fieldKey, same.contains]
  have samePlace : (found.fields.get? (relationship.fieldKey other.fields)).isSome =
      (other.fields.get? (relationship.fieldKey other.fields)).isSome :=
    same.contains _
  constructor
  · simp only [Discovery.addRelationship, sameKey, samePlace, same.order]
  · simp only [Discovery.addRelationship, Table.mapValues_insert, sameKey, same.targets,
      Setting.field?, Option.bind_none, Relationship.target?_field]

theorem sameTargets_run (owner otherOwner : String) (attributes : List Attribute)
    (relationships : List Relationship) :
    SameTargets (run ⟨owner, schema, none, policy⟩ attributes relationships)
      (run ⟨otherOwner, schema, none, policy⟩ attributes relationships) := by
  apply List.foldl_rel
  · apply List.foldl_rel
    · exact ⟨rfl, rfl⟩
    · exact fun attr _ _ _ same => same.addAttribute owner otherOwner attr
  · exact fun relationship _ _ _ same => same.addRelationship owner otherOwner relationship

end Discovery

namespace Resource

theorem targets_eq (resource : Resource) :
    resource.targets = resource.order.filterMap fun key =>
      ((resource.fields.mapValues Field.target?).get? key).join := by
  rw [targets, embeds, orderedFields, List.map_filterMap, List.filterMap_filterMap]
  congr 1
  funext key
  rw [Table.get?_mapValues, field?]
  cases resource.fields.get? key with
  | none => rfl
  | some field => rfl

/-- Without a declaration the embedded schemas do not depend on anything but the schema. -/
theorem targets_discover (name : String) (backend : Backend) (schema : SchemaName)
    (context : Option ContextName) (policy : NamingPolicy) (parent : Option String) :
    (discover name backend schema context none policy parent).targets =
      backend.embeddedIn policy schema := by
  have same : Discovery.SameTargets
      (Discovery.run ⟨name, schema, none, policy⟩ (backend.attributes schema)
        (backend.relationships schema))
      (Discovery.run ⟨schema.text, schema, none, policy⟩ (backend.attributes schema)
        (backend.relationships schema)) := Discovery.sameTargets_run ..
  rw [Backend.embeddedIn, targets_eq, targets_eq]
  simp only [discover, Option.map_none, Option.getD_none, List.map_nil, List.foldl_nil, same.order,
    same.targets]

end Resource

/-! ### Ways down -/

namespace Backend

/-- Whether the first schema of a list is among some targets, and each other one is
embedded in the one before it. -/
def LeadsDown (backend : Backend) (policy : NamingPolicy) :
    List SchemaName → List SchemaName → Prop
  | _, [] => True
  | targets, schema :: rest =>
    schema ∈ targets ∧ backend.LeadsDown policy (backend.embeddedIn policy schema) rest

theorem leadsDown_cons_iff {backend : Backend} {policy : NamingPolicy} {target : SchemaName}
    {targets way : List SchemaName} (nonempty : way ≠ []) :
    backend.LeadsDown policy (target :: targets) way ↔
      (∃ rest, way = target :: rest ∧
        backend.LeadsDown policy (backend.embeddedIn policy target) rest) ∨
      backend.LeadsDown policy targets way := by
  cases way with
  | nil => exact absurd rfl nonempty
  | cons schema rest =>
    simp only [LeadsDown, List.mem_cons, List.cons.injEq]
    constructor
    · rintro ⟨rfl | member, leads⟩
      · exact .inl ⟨rest, ⟨rfl, rfl⟩, leads⟩
      · exact .inr ⟨member, leads⟩
    · rintro (⟨_, ⟨rfl, rfl⟩, leads⟩ | ⟨member, leads⟩)
      · exact ⟨.inl rfl, leads⟩
      · exact ⟨.inr member, leads⟩

end Backend

namespace Resource

variable {policy : NamingPolicy} {parent : Resource} {chain : List SchemaName}
  {pending : List EmbedData}

theorem targets_embedded (parent : Resource) (policy : NamingPolicy) (embed : EmbedData) :
    (parent.embedded policy embed).targets = parent.backend.embeddedIn policy embed.related :=
  targets_discover ..

/-- Whatever way leads down from the embeds of a descent that succeeds, no
schema comes back on it. -/
theorem nodup_of_synthesize_eq_ok (way : List SchemaName) {resources : List Resource}
    (succeeded : synthesize policy parent chain pending = .ok resources) (distinct : chain.Nodup)
    (leads : parent.backend.LeadsDown policy (pending.map (·.related)) way) :
    (chain ++ way).Nodup := by
  induction parent, chain, pending using synthesize.induct policy generalizing way resources with
  | case1 parent chain =>
    cases way with
    | nil => rwa [List.append_nil]
    | cons schema rest => cases leads.1
  | case2 parent chain embed rest repeated =>
    exact absurd repeated (synthesize_cons_eq_ok_iff.1 succeeded).1
  | case3 parent chain embed rest fresh child hypothesisBelow hypothesisOthers =>
    obtain ⟨_, below, siblings, succeededBelow, succeededOthers, _⟩ :=
      synthesize_cons_eq_ok_iff.1 succeeded
    have longer : (chain ++ [embed.related]).Nodup := by
      simpa using List.Nodup.concat fresh distinct
    by_cases empty : way = []
    · rwa [empty, List.append_nil]
    · rcases (Backend.leadsDown_cons_iff empty).1 leads with ⟨deeper, same, leadsBelow⟩ | leadsOn
      · rw [← targets_embedded] at leadsBelow
        have nodup := hypothesisBelow _ succeededBelow longer leadsBelow
        simpa [same] using nodup
      · exact hypothesisOthers _ succeededOthers distinct leadsOn

/-- A descent that fails reports a way down on which only the last schema comes back. -/
theorem exists_way_of_synthesize_eq_error {fault : Error}
    (failed : synthesize policy parent chain pending = .error fault) (distinct : chain.Nodup) :
    ∃ way last, fault = .embedCycle (chain ++ (way ++ [last])) ∧
      parent.backend.LeadsDown policy (pending.map (·.related)) (way ++ [last]) ∧
      (chain ++ way).Nodup ∧ last ∈ chain ++ way := by
  induction parent, chain, pending using synthesize.induct policy with
  | case1 parent chain =>
    rw [synthesize_nil] at failed
    cases failed
  | case2 parent chain embed rest repeated =>
    rcases synthesize_cons_eq_error_iff.1 failed with ⟨_, same⟩ | ⟨fresh, _⟩
    · exact ⟨[], embed.related, same.symm, ⟨List.mem_cons_self, trivial⟩, by simpa, by simpa⟩
    · exact absurd repeated fresh
  | case3 parent chain embed rest fresh child hypothesisBelow hypothesisOthers =>
    have longer : (chain ++ [embed.related]).Nodup := by
      simpa using List.Nodup.concat fresh distinct
    have nonempty (way : List SchemaName) (last : SchemaName) : way ++ [last] ≠ [] := by simp
    rcases synthesize_cons_eq_error_iff.1 failed with
      ⟨repeated, _⟩ | ⟨_, failedBelow | ⟨_, _, failedOthers⟩⟩
    · exact absurd repeated fresh
    · obtain ⟨way, last, same, leads, nodup, back⟩ :=
        hypothesisBelow failedBelow longer
      refine ⟨embed.related :: way, last, by simpa using same, ?_, by simpa using nodup,
        by simpa using back⟩
      refine (Backend.leadsDown_cons_iff (nonempty _ _)).2 (.inl ⟨way ++ [last], rfl, ?_⟩)
      rw [← targets_embedded]
      exact leads
    · obtain ⟨way, last, same, leads, nodup, back⟩ := hypothesisOthers failedOthers distinct
      exact ⟨way, last, same, (Backend.leadsDown_cons_iff (nonempty _ _)).2 (.inr leads), nodup,
        back⟩

/-- A path of embeds that starts with the schema of the resource: the second schema is one that the
resource embeds, and each later one is embedded in the one before it. -/
def EmbedPath (resource : Resource) (policy : NamingPolicy) : List SchemaName → Prop
  | [] => False
  | schema :: rest =>
    schema = resource.schema ∧ resource.backend.LeadsDown policy resource.targets rest

theorem exists_path_of_synthesizeEmbeds_eq_error {resource : Resource} {fault : Error}
    (failed : resource.synthesizeEmbeds policy = .error fault) :
    ∃ before last, fault = .embedCycle (before ++ [last]) ∧
      resource.EmbedPath policy (before ++ [last]) ∧ before.Nodup ∧ last ∈ before := by
  obtain ⟨way, last, same, leads, nodup, back⟩ :=
    exists_way_of_synthesize_eq_error failed (List.nodup_singleton resource.schema)
  exact ⟨resource.schema :: way, last, same, ⟨rfl, leads⟩, nodup, back⟩

theorem not_mem_of_synthesizeEmbeds_eq_ok {resource : Resource} {resources : List Resource}
    (succeeded : resource.synthesizeEmbeds policy = .ok resources) {before : List SchemaName}
    {last : SchemaName} (path : resource.EmbedPath policy (before ++ [last])) : last ∉ before := by
  have nodup : (before ++ [last]).Nodup := by
    generalize before ++ [last] = whole at path
    cases whole with
    | nil => cases path
    | cons schema rest =>
      rw [path.1]
      exact nodup_of_synthesize_eq_ok rest succeeded (List.nodup_singleton resource.schema) path.2
  exact fun back =>
    (List.nodup_append.1 nodup).2.2 last back last (List.mem_singleton_self last) rfl

/-- The descent into the embeds of a resource has exactly one run. That run leaves the chain as it
was, and fails exactly if some path of embeds comes back to a schema that it has already reached; it
then reports such a path, on which only the last schema comes back. -/
theorem descent_ends_and_fails_iff_path_comes_back (resource : Resource) (policy : NamingPolicy)
    (found : List Resource) :
    ∃ outcome others,
      (∀ other after, Descends policy resource resource.embeds ⟨[resource.schema],
        found⟩ other after ↔
        other = outcome ∧ after = ⟨[resource.schema], others⟩) ∧
      outcome = (resource.synthesizeEmbeds policy).map (fun _ => ()) ∧
      ((∃ chain, outcome = .error (.embedCycle chain)) ↔
        ∃ before last, resource.EmbedPath policy (before ++ [last]) ∧ last ∈ before) ∧
      ∀ fault, outcome = .error fault → ∃ before last,
        fault = .embedCycle (before ++ [last]) ∧ resource.EmbedPath policy (before ++ [last]) ∧
          before.Nodup ∧ last ∈ before := by
  obtain ⟨others, runs⟩ :=
    Descends.existsUnique_run policy resource [resource.schema] resource.embeds found
  change ∀ other after, _ ↔ other = (resource.synthesizeEmbeds policy).map _ ∧ _ at runs
  cases result : resource.synthesizeEmbeds policy with
  | ok resources =>
    rw [result] at runs
    refine ⟨.ok (), others, runs, rfl, ?_, nofun⟩
    constructor
    · rintro ⟨chain, failed⟩
      cases failed
    · rintro ⟨before, last, path, back⟩
      exact absurd back (not_mem_of_synthesizeEmbeds_eq_ok result path)
  | error fault =>
    rw [result] at runs
    obtain ⟨before, last, same, path, nodup, back⟩ :=
      exists_path_of_synthesizeEmbeds_eq_error result
    subst same
    refine ⟨.error (.embedCycle (before ++ [last])), others, runs, rfl, ?_, ?_⟩
    · exact ⟨fun _ => ⟨before, last, path, back⟩, fun _ => ⟨before ++ [last], rfl⟩⟩
    · rintro _ ⟨⟩
      exact ⟨before, last, rfl, path, nodup, back⟩

end Resource

end Backoffice
