import Backoffice.Proofs.Operation.Overrides
import Backoffice.Proofs.Operation.Resolution
import Backoffice.Proofs.Resource.Provenance

/-!
Which operations and routes the resources of a registry have.

A declared resource has the routes that its declaration enables, and the operations that
these routes need or that are overridden. Registering and linking give no resource any of
them, and attaching gives them to the resource of the name of the declaration only, so
resources of embeds have none.
-/

namespace Backoffice

/-! ### What a declaration asks for -/

/-- What a screen does with entities: an index lists them, a detail shows one, a form starts from a
new or a stored one, validates it and saves it. -/
inductive RouteAction.Requires : RouteAction → LogicalOp → Prop
  | listed : Requires .index .list
  | shown : Requires .detail .get
  | started : Requires .new .new
  | startedValid : Requires .new .change
  | startedSaved : Requires .new .create
  | edited : Requires .edit .get
  | editedValid : Requires .edit .change
  | editedSaved : Requires .edit .update
  | deleted : Requires .delete .delete

theorem RouteAction.mem_operations_iff {route : RouteAction} {op : LogicalOp} :
    op ∈ route.operations ↔ route.Requires op := by
  constructor
  · intro member
    cases route with
    | index =>
      cases List.mem_singleton.1 member
      exact .listed
    | detail =>
      cases List.mem_singleton.1 member
      exact .shown
    | delete =>
      cases List.mem_singleton.1 member
      exact .deleted
    | new =>
      simp only [operations, List.mem_cons, List.not_mem_nil, or_false] at member
      obtain rfl | rfl | rfl := member
      · exact .started
      · exact .startedValid
      · exact .startedSaved
    | edit =>
      simp only [operations, List.mem_cons, List.not_mem_nil, or_false] at member
      obtain rfl | rfl | rfl := member
      · exact .edited
      · exact .editedValid
      · exact .editedSaved
  · rintro (_ | _ | _ | _ | _ | _ | _ | _ | _) <;> decide

/-- An operation is overridden under its name, alone or marked as that of a function or
of an action. Pages carry the mark of a function inside, and a deletion may be called by
the kind of its action. -/
def LogicalOp.OverriddenUnder (op : LogicalOp) (key : String) : Prop :=
  key = op.name ∨
  (key = op.name ++ "_function" ∧ op ≠ .listPaginated) ∨
  (key = op.name ++ "_action" ∧ op ≠ .new) ∨
  (key = "list_function_paginated" ∧ op = .listPaginated) ∨
  (key = "destroy_action" ∧ op = .delete)

theorem LogicalOp.mem_overrideKeys_iff {op : LogicalOp} {key : String} :
    key ∈ op.overrideKeys ↔ op.OverriddenUnder key := by
  cases op <;> simp [overrideKeys, OverriddenUnder, name, or_comm, or_left_comm]

namespace ResourceDeclaration

/-- A route is enabled when it is listed, if any are listed, and not excepted. -/
def Enables (declaration : ResourceDeclaration) (route : RouteAction) : Prop :=
  (∀ only, declaration.routes.only = some only → route ∈ only) ∧
    route ∉ declaration.routes.except

/-- An operation is needed by an enabled route, for the pages of an index, or
because it is overridden. -/
def Needs (declaration : ResourceDeclaration) (op : LogicalOp) : Prop :=
  (∃ route, declaration.Enables route ∧ route.Requires op) ∨
  (op = .listPaginated ∧ declaration.Enables .index ∧
    declaration.opts.get? "paginated" = some (.bool true)) ∨
  (∃ entry ∈ declaration.operations, op.OverriddenUnder (Text.snakeCase entry.1)) ∨
  (op = .new ∧ declaration.newEntity.isSome = true)

theorem needs_iff_mem_requiredOps {declaration : ResourceDeclaration} {op : LogicalOp} :
    declaration.Needs op ↔
      op ∈ (OperationOverrides.ofDeclaration declaration).requiredOps declaration.routes.manifest
        (asksForPages declaration.opts) := by
  simp only [OperationOverrides.mem_requiredOps_iff, Routes.mem_manifest_iff, Needs, Enables,
    OperationOverrides.ofDeclaration, asksForPages, decide_eq_true_eq,
    RouteAction.mem_operations_iff, LogicalOp.mem_overrideKeys_iff]

end ResourceDeclaration

namespace Resource

/-- A resource with exactly the routes and operations that its declaration asks for, each in the
order of all routes and all operations. -/
structure Equipped (resource : Resource) (declaration : ResourceDeclaration) : Prop where
  routes : ∀ route, route ∈ resource.routes ↔ declaration.Enables route
  routesOrdered : resource.routes.Sublist RouteAction.all
  operations : ∀ op, op ∈ resource.operations.map (·.1) ↔ declaration.Needs op
  operationsOrdered : (resource.operations.map (·.1)).Sublist LogicalOp.all
  references : ∀ op reference, (op, reference) ∈ resource.operations →
    reference.Serves op resource.scope resource.backend.kind

/-! ### Attaching to one resource -/

section Attaching

variable {resource result : Resource} {declaration : ResourceDeclaration}
  {declarations : List ResourceDeclaration}

theorem withOperations_eq_ok_iff :
    resource.withOperations declaration = .ok result ↔
      ∃ operations, ((OperationOverrides.ofDeclaration declaration).requiredOps
          declaration.routes.manifest resource.isPaginated).mapM (fun op =>
            resource.scope.resolve resource.backend op (.ofDeclaration declaration) >>=
              fun reference => Except.ok (op, reference)) = .ok operations ∧
        { resource with routes := declaration.routes.manifest, operations } = result := by
  rw [withOperations, Outcome.bind_eq_ok_iff]
  simp only [Except.ok.injEq]

theorem equipped_of_withOperations_eq_ok (opts : resource.opts = declaration.opts)
    (succeeded : resource.withOperations declaration = .ok result) :
    result.Equipped declaration := by
  obtain ⟨operations, resolved, same⟩ := withOperations_eq_ok_iff.1 succeeded
  have keys : operations.map (·.1) = (OperationOverrides.ofDeclaration declaration).requiredOps
      declaration.routes.manifest resource.isPaginated := by
    rw [← List.map_id (OperationOverrides.requiredOps _ _ _)]
    refine Outcome.map_eq_of_mapM_eq_ok ?_ resolved
    intro op entry stepped
    obtain ⟨reference, _, same⟩ := Outcome.bind_eq_ok_iff.1 stepped
    cases same
    rfl
  rw [isPaginated, opts] at keys
  subst same
  constructor
  · exact fun route => Routes.mem_manifest_iff _ route
  · exact Routes.manifest_sublist _
  · intro op
    rw [keys, ResourceDeclaration.needs_iff_mem_requiredOps]
  · exact keys ▸ OperationOverrides.requiredOps_sublist
  · intro op reference member
    obtain ⟨required, _, stepped⟩ := Outcome.exists_of_mem_of_mapM_eq_ok resolved member
    obtain ⟨found, resolvedReference, same⟩ := Outcome.bind_eq_ok_iff.1 stepped
    cases same
    exact OperationScope.serves_of_resolve_eq_ok resolvedReference

/-- The resource after a declaration has been attached, if it is the one that
the declaration is for. -/
def attachOwn (resource : Resource) (declaration : ResourceDeclaration) : Except Error Resource :=
  if resource.name = declaration.name then resource.withOperations declaration else .ok resource

theorem name_of_withOperations_eq_ok
    (succeeded : resource.withOperations declaration = .ok result) : result.name = resource.name :=
  congrArg (·.name) (bare_eq_of_withOperations_eq_ok succeeded)

theorem attachAll_undeclared
    (others : ∀ declaration ∈ declarations, resource.name ≠ declaration.name) :
    declarations.foldlM attachOwn resource = .ok resource := by
  induction declarations with
  | nil => rfl
  | cons declaration rest inductionHypothesis =>
    rw [List.forall_mem_cons] at others
    rw [List.foldlM_cons, attachOwn, if_neg others.1]
    exact inductionHypothesis others.2

theorem bare_of_attachAll (attached : declarations.foldlM attachOwn resource = .ok result) :
    result.bare = resource.bare := by
  refine Outcome.foldlM_keeps (fun current => current.bare = resource.bare) ?_ rfl attached
  intro declaration _ before after kept stepped
  rw [attachOwn] at stepped
  split at stepped
  · exact (bare_eq_of_withOperations_eq_ok stepped).trans kept
  · cases stepped
    exact kept

/-- Of declarations with different names only the one of the resource changes it. -/
theorem attachAll_eq_withOperations (distinct : (declarations.map (·.name)).Nodup)
    (member : declaration ∈ declarations) (named : resource.name = declaration.name) :
    declarations.foldlM attachOwn resource = resource.withOperations declaration := by
  induction declarations with
  | nil => cases member
  | cons first rest inductionHypothesis =>
    rw [List.map_cons, List.nodup_cons] at distinct
    rw [List.foldlM_cons, attachOwn]
    rcases List.mem_cons.1 member with same | later
    · subst same
      rw [if_pos named]
      cases stepped : resource.withOperations declaration with
      | error fault => rfl
      | ok next =>
        -- Of the declarations that follow none has the name any more.
        apply attachAll_undeclared
        intro other inRest equal
        rw [name_of_withOperations_eq_ok stepped, named] at equal
        exact distinct.1 (equal ▸ List.mem_map_of_mem inRest)
    · have other : resource.name ≠ first.name := by
        intro equal
        rw [named] at equal
        exact distinct.1 (equal ▸ List.mem_map_of_mem later)
      rw [if_neg other]
      exact inductionHypothesis distinct.2 later

theorem withOperations_of_attachAll (distinct : (declarations.map (·.name)).Nodup)
    (member : declaration ∈ declarations) (named : resource.name = declaration.name)
    (attached : declarations.foldlM attachOwn resource = .ok result) :
    resource.withOperations declaration = .ok result := by
  rw [← attachAll_eq_withOperations distinct member named]
  exact attached

end Attaching

end Resource

namespace Registry

variable {registry after : Registry} {backends : Backends} {policy : NamingPolicy}
  {declarations : List ResourceDeclaration}

/-- The resources that are part of no other one. -/
def roots (registry : Registry) : List Resource :=
  registry.resources.filter fun resource => !resource.isEmbedded

theorem mem_roots_iff {resource : Resource} :
    resource ∈ registry.roots ↔ resource ∈ registry.resources ∧ resource.isEmbedded = false := by
  rw [roots, List.mem_filter, Bool.not_eq_true']

theorem filter_roots_eq_nil {resources : List Resource}
    (parts : ∀ resource ∈ resources, resource.isEmbedded = true) :
    resources.filter (fun resource => !resource.isEmbedded) = [] := by
  rw [List.filter_eq_nil_iff]
  intro resource member
  simp [parts resource member]

theorem map_roots_register {declaration : ResourceDeclaration} (nodup : registry.names.Nodup)
    (succeeded : register backends policy registry declaration = .ok after) :
    after.roots.map (fun resource => (resource.name, resource.opts)) =
      registry.roots.map (fun resource => (resource.name, resource.opts)) ++
        [(declaration.name, declaration.opts)] := by
  obtain ⟨root, embedded, listed, isRoot, own, _, parts⟩ :=
    exists_listed_of_register_eq_ok (List.mem_singleton_self declaration) nodup succeeded
  have noRoots := filter_roots_eq_nil fun resource member => (parts resource member).1
  rw [roots, listed, List.filter_append, List.filter_cons, isRoot, noRoots, List.map_append]
  simpa [roots] using own

theorem nodup_register {declaration : ResourceDeclaration} (nodup : registry.names.Nodup)
    (succeeded : register backends policy registry declaration = .ok after) :
    after.names.Nodup := by
  obtain ⟨_, _, succeeded⟩ := Outcome.bind_eq_ok_iff.1 succeeded
  obtain ⟨_, _, inserted⟩ := Outcome.bind_eq_ok_iff.1 succeeded
  exact (resources_of_insertAll_eq_ok inserted nodup).2

theorem map_roots_of_registering (nodup : registry.names.Nodup)
    (registering : declarations.foldlM (register backends policy) registry = .ok after) :
    after.roots.map (fun resource => (resource.name, resource.opts)) =
      registry.roots.map (fun resource => (resource.name, resource.opts)) ++
        declarations.map fun declaration => (declaration.name, declaration.opts) := by
  induction declarations generalizing registry with
  | nil =>
    cases registering
    exact (List.append_nil _).symm
  | cons declaration rest inductionHypothesis =>
    rw [List.foldlM_cons, Outcome.bind_eq_ok_iff] at registering
    obtain ⟨next, registered, registering⟩ := registering
    rw [inductionHypothesis (nodup_register nodup registered) registering,
      map_roots_register nodup registered, List.append_assoc]
    rfl

theorem eq_of_resources_eq (same : registry.resources = after.resources) : registry = after := by
  cases registry
  cases after
  cases same
  rfl

theorem attach_eq_ok_iff {declaration : ResourceDeclaration} :
    registry.attach declaration = .ok after ↔
      List.Forall₂ (fun resource result => resource.attachOwn declaration = .ok result)
        registry.resources
        after.resources := by
  rw [attach, Outcome.bind_eq_ok_iff]
  constructor
  · rintro ⟨resources, attached, same⟩
    cases same
    exact Outcome.mapM_eq_ok_iff.1 attached
  · exact fun attached => ⟨after.resources, Outcome.mapM_eq_ok_iff.2 attached, rfl⟩

theorem attaching_eq_ok_iff :
    declarations.foldlM attach registry = .ok after ↔
      List.Forall₂
        (fun resource result => declarations.foldlM Resource.attachOwn resource = .ok result)
        registry.resources after.resources := by
  induction declarations generalizing registry with
  | nil =>
    simp only [List.foldlM_nil, pure, Except.pure, Except.ok.injEq, List.forall₂_eq_eq_eq]
    exact ⟨congrArg resources, eq_of_resources_eq⟩
  | cons declaration rest inductionHypothesis =>
    simp only [List.foldlM_cons, Outcome.bind_eq_ok_iff, attach_eq_ok_iff, inductionHypothesis]
    rw [Outcome.forall₂_exists_iff]
    exact ⟨fun ⟨next, attached, attaching⟩ => ⟨next.resources, attached, attaching⟩,
      fun ⟨resources, attached, attaching⟩ => ⟨⟨resources⟩, attached, attaching⟩⟩

theorem exists_of_mem_of_attaching (attaching : declarations.foldlM attach registry = .ok after)
    {result : Resource} (member : result ∈ after.resources) :
    ∃ resource ∈ registry.resources,
      declarations.foldlM Resource.attachOwn resource = .ok result :=
  Outcome.exists_of_mem_of_forall₂ (attaching_eq_ok_iff.1 attaching) member

/-! ### The built registry -/

/-- A registry with the operations and routes of some declarations, and no others. -/
structure Equipped (registry : Registry) (declarations : List ResourceDeclaration) : Prop where
  declared : ∀ declaration ∈ declarations, ∃ resource,
    registry.get? declaration.name = some resource ∧ resource.isEmbedded = false ∧
      resource.Equipped declaration
  embedded : ∀ resource ∈ registry.resources, resource.isEmbedded = true →
    resource.operations = [] ∧ resource.routes = []

theorem bare_linkResource {resource : Resource} (bare : resource.bare = resource) :
    (registry.linkResource resource).bare = registry.linkResource resource := by
  have operations : resource.operations = [] := congrArg (·.operations) bare.symm
  have routes : resource.routes = [] := congrArg (·.routes) bare.symm
  simp only [Resource.bare, linkResource, operations, routes]

theorem map_roots_of_map_bare {Part : Type} (part : Resource → Part)
    (ofBare : ∀ resource, part resource.bare = part resource)
    (same : after.resources.map Resource.bare = registry.resources.map Resource.bare) :
    after.roots.map part = registry.roots.map part := by
  have ofRoots (registry : Registry) : registry.roots.map part =
      ((registry.resources.map Resource.bare).filter (!·.isEmbedded)).map part := by
    rw [List.filter_map, List.map_map]
    simp only [Function.comp_def, ofBare]
    rfl
  rw [ofRoots, ofRoots, same]

theorem map_roots_link {Part : Type} (part : Resource → Part)
    (ofLink : ∀ resource, part (registry.linkResource resource) = part resource) :
    registry.link.roots.map part = registry.roots.map part := by
  rw [roots, link, List.filter_map, List.map_map]
  simp only [Function.comp_def, ofLink]
  rfl

section Built

variable (succeeded : build declarations backends policy = .ok registry)

include succeeded

theorem map_roots_of_build_eq_ok :
    registry.roots.map (fun resource => (resource.name, resource.opts)) =
      declarations.map fun declaration => (declaration.name, declaration.opts) := by
  obtain ⟨registered, registering, attaching⟩ := Outcome.bind_eq_ok_iff.1 succeeded
  rw [map_roots_of_map_bare _ (fun _ => rfl) (map_bare_of_attaching attaching),
    map_roots_link _ fun _ => rfl]
  have start : (names {}).Nodup := List.nodup_nil
  exact map_roots_of_registering start registering

theorem nodup_names_of_build_eq_ok : registry.names.Nodup := by
  obtain ⟨registered, sound, same⟩ := exists_sound_of_build_eq_ok succeeded
  exact names_eq_of_bare same ▸ sound.nodup

theorem nodup_declared_of_build_eq_ok : (declarations.map (·.name)).Nodup := by
  have names := congrArg (List.map Prod.fst) (map_roots_of_build_eq_ok succeeded)
  rw [List.map_map, List.map_map] at names
  exact names ▸ (nodup_names_of_build_eq_ok succeeded).sublist (List.filter_sublist.map _)

/-- Each resource has gone through the declarations, with nothing attached to it at first. -/
theorem exists_bare_of_build_eq_ok {result : Resource} (member : result ∈ registry.resources) :
    ∃ resource, resource.bare = resource ∧ result.bare = resource ∧
      declarations.foldlM Resource.attachOwn resource = .ok result := by
  obtain ⟨registered, registering, attaching⟩ := Outcome.bind_eq_ok_iff.1 succeeded
  obtain ⟨linked, inLink, run⟩ := exists_of_mem_of_attaching attaching member
  obtain ⟨resource, isRegistered, same⟩ := List.mem_map.1 inLink
  have plain : resource.bare = resource :=
    (discovered_of_registering registering resource isRegistered).bare
  have bare : linked.bare = linked := same ▸ bare_linkResource plain
  exact ⟨linked, bare, (Resource.bare_of_attachAll run).trans bare, run⟩

theorem exists_declared_of_build_eq_ok {declaration : ResourceDeclaration}
    (member : declaration ∈ declarations) :
    ∃ resource, registry.get? declaration.name = some resource ∧ resource.isEmbedded = false ∧
      resource.routes = declaration.routes.manifest ∧ resource.Equipped declaration := by
  have listed : (declaration.name, declaration.opts) ∈
      registry.roots.map fun resource => (resource.name, resource.opts) :=
    map_roots_of_build_eq_ok succeeded ▸ List.mem_map_of_mem member
  obtain ⟨root, isRoot, same⟩ := List.mem_map.1 listed
  obtain ⟨named, opts⟩ := Prod.mk.inj same
  obtain ⟨isRegistered, apart⟩ := mem_roots_iff.1 isRoot
  obtain ⟨before, _, bare, run⟩ := exists_bare_of_build_eq_ok succeeded isRegistered
  subst bare
  have attached : root.bare.withOperations declaration = .ok root :=
    Resource.withOperations_of_attachAll (nodup_declared_of_build_eq_ok succeeded) member named run
  obtain ⟨operations, _, routes⟩ := Resource.withOperations_eq_ok_iff.1 attached
  refine ⟨root, ?_, apart, routes ▸ rfl, ?_⟩
  · exact named ▸ get?_eq_some_of_mem (nodup_names_of_build_eq_ok succeeded) isRegistered
  · exact Resource.equipped_of_withOperations_eq_ok opts attached

theorem name_ne_of_isEmbedded {resource : Resource} (member : resource ∈ registry.resources)
    (embedded : resource.isEmbedded = true) :
    ∀ declaration ∈ declarations, resource.name ≠ declaration.name := by
  intro declaration isDeclared equal
  obtain ⟨root, found, apart, _⟩ := exists_declared_of_build_eq_ok succeeded isDeclared
  rw [← equal, get?_eq_some_of_mem (nodup_names_of_build_eq_ok succeeded) member] at found
  cases found
  rw [embedded] at apart
  cases apart

theorem bare_of_isEmbedded {resource : Resource} (member : resource ∈ registry.resources)
    (embedded : resource.isEmbedded = true) : resource.bare = resource := by
  obtain ⟨before, _, bare, run⟩ := exists_bare_of_build_eq_ok succeeded member
  subst bare
  have others := name_ne_of_isEmbedded succeeded member embedded
  have undisturbed : declarations.foldlM Resource.attachOwn resource.bare = .ok resource.bare :=
    Resource.attachAll_undeclared others
  rw [undisturbed] at run
  exact Except.ok.inj run

theorem manifest_of_build_eq_ok :
    registry.roots.map (fun resource => (resource.name, resource.routes)) =
      declarations.map fun declaration => (declaration.name, declaration.routes.manifest) := by
  have roots := map_roots_of_build_eq_ok succeeded
  apply List.ext_getElem
  · simpa using congrArg List.length roots
  · intro index inRoots inDeclarations
    rw [List.getElem_map, List.getElem_map]
    rw [List.length_map] at inRoots inDeclarations
    have named : registry.roots[index].name = declarations[index].name := by
      have pairs := List.getElem_of_eq roots (by simpa using inRoots)
      rw [List.getElem_map, List.getElem_map] at pairs
      exact congrArg Prod.fst pairs
    have isRegistered : registry.roots[index] ∈ registry.resources :=
      (mem_roots_iff.1 (List.getElem_mem inRoots)).1
    have found := get?_eq_some_of_mem (nodup_names_of_build_eq_ok succeeded) isRegistered
    obtain ⟨resource, declared, _, routes, _⟩ :=
      exists_declared_of_build_eq_ok succeeded (List.getElem_mem inDeclarations)
    rw [named, declared] at found
    cases found
    rw [named, routes]

/-- A registry that is built has exactly the operations and routes that its declarations ask for. -/
theorem equipped_of_build_eq_ok : registry.Equipped declarations where
  declared := by
    intro declaration member
    obtain ⟨resource, found, apart, _, equipped⟩ := exists_declared_of_build_eq_ok succeeded member
    exact ⟨resource, found, apart, equipped⟩
  embedded := by
    intro resource member embedded
    have bare := bare_of_isEmbedded succeeded member embedded
    exact ⟨congrArg (·.operations) bare.symm, congrArg (·.routes) bare.symm⟩

end Built

end Registry

end Backoffice
