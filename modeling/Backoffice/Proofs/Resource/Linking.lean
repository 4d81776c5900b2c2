import Backoffice.Proofs.Resource.DeclarationOrder
import Backoffice.Proofs.Resource.Links
import Backoffice.Proofs.Resource.RegistrationOrder

/-!
Where the associations of a built registry lead: each to the resource that is declared first for its
schema, in the order of the declarations, or nowhere if none is.

The roots of the families stand in the order of the declarations, so the first root of a schema is
that of the first declaration of it. Linking changes the targets of associations and nothing else,
and it changes none that is settled.
-/

namespace Backoffice

def ResourceDeclaration.linkTarget? (declarations : List ResourceDeclaration)
    (schema : SchemaName) : Option String :=
  (declarations.find? (·.schemaName? = some schema)).map (·.name)

open ResourceDeclaration (linkTarget?)

variable {backends : Backends} {policy : NamingPolicy} {declarations : List ResourceDeclaration}

/-! ### Linked fields -/

namespace Field

def linkedBy (declarations : List ResourceDeclaration) (field : Field) : Field :=
  match field.data with
  | .association data =>
    { field with
      data := .association { data with resource := linkTarget? declarations data.related } }
  | _ => field

variable {field : Field}

@[simp]
theorem key_linkedBy : (field.linkedBy declarations).key = field.key := by
  rw [linkedBy]
  cases field.data <;> rfl

/-- The target of a linked association does not depend on where it led before. -/
theorem linkedBy_linkedBy :
    (field.linkedBy declarations).linkedBy declarations = field.linkedBy declarations := by
  rw [linkedBy.eq_1 declarations field]
  cases data : field.data with
  | association association => rfl
  | _ => simp only [linkedBy, data]

theorem resource_of_association?_linkedBy {data : AssociationData}
    (found : (field.linkedBy declarations).association? = some data) :
    data.resource = linkTarget? declarations data.related := by
  rw [linkedBy, association?] at found
  cases same : field.data with
  | association association =>
    rw [same] at found
    cases found
    rfl
  | _ =>
    simp only [same] at found
    cases found

end Field

namespace Resource

def linkedBy (declarations : List ResourceDeclaration) (resource : Resource) : Resource :=
  { resource with fields := resource.fields.mapValues (·.linkedBy declarations) }

variable {resource : Resource}

theorem linkedBy_linkedBy :
    (resource.linkedBy declarations).linkedBy declarations = resource.linkedBy declarations := by
  simp only [linkedBy, Table.mapValues, List.map_map, Function.comp_def, Field.linkedBy_linkedBy]

theorem Tabled.linkedBy (tabled : resource.Tabled) : (resource.linkedBy declarations).Tabled := by
  constructor
  · exact List.pairwise_map.2 tabled.ascending
  · intro entry member
    obtain ⟨⟨key, field⟩, stored, same⟩ := List.mem_map.1 member
    subst same
    exact Field.key_linkedBy.trans (tabled.keyed (key, field) stored)

end Resource

/-! ### The first root of a schema -/

namespace Registry

variable {registry registered : Registry}

theorem map_name_findBySchema?_of_families {families : List (List Resource)}
    (areFamilies : Families backends policy declarations families) (schema : SchemaName) :
    (findBySchema? ⟨families.flatten⟩ schema).map (·.name) = linkTarget? declarations schema := by
  have stand := forall₂_roots_of_families areFamilies
  rw [findBySchema?_eq_find?_roots, linkTarget?]
  clear areFamilies
  generalize roots ⟨families.flatten⟩ = roots at stand
  -- Roots and declarations stand side by side, so the two searches stop at the same place.
  induction stand with
  | nil => rfl
  | @cons declaration root declarations roots stands _ inductionHypothesis =>
    obtain ⟨ofSchema, named⟩ := stands
    by_cases same : root.schema = schema
    · rw [List.find?_cons_of_pos (by simpa using same),
        List.find?_cons_of_pos (by simp [ofSchema, same])]
      exact congrArg some named
    · rw [List.find?_cons_of_neg (by simpa using same),
        List.find?_cons_of_neg (by simp [ofSchema, same])]
      exact inductionHypothesis

theorem linkResource_of_families {families : List (List Resource)}
    (areFamilies : Families backends policy declarations families) :
    linkResource ⟨families.flatten⟩ = Resource.linkedBy declarations := by
  funext resource
  rw [linkResource, Resource.linkedBy, Table.mapValues]
  simp only [linkField, map_name_findBySchema?_of_families areFamilies]
  rfl

/-! ### Linked registries -/

/-- Whether the fields of each resource are listed in some order, all of them once. -/
def Lists (registry : Registry) (listed : Resource → List (String × Field)) : Prop :=
  ∀ resource ∈ registry.resources, (listed resource).Perm resource.fields

/-- A registry in which every association leads to the resource that is
declared first for its schema. -/
structure Linked (registry : Registry) (backends : Backends) (policy : NamingPolicy)
    (declarations : List ResourceDeclaration) : Prop where
  /-- But for operations and routes, the resources are those of the families, linked. In
  whatever order the fields are visited, that is what comes of collecting all links first
  and storing them then. -/
  originals : ∃ families, Families backends policy declarations families ∧
    registry.resources.map Resource.bare = families.flatten.map (·.linkedBy declarations) ∧
    ∀ listed, Lists ⟨families.flatten⟩ listed →
      (linkListed ⟨families.flatten⟩ listed).resources = registry.resources.map Resource.bare
  /-- An association leads to the name that is declared first for its schema. -/
  targets : ∀ resource ∈ registry.resources, ∀ key field data, resource.field? key = some field →
    field.association? = some data → data.resource = linkTarget? declarations data.related
  /-- It leads nowhere exactly if no resource is declared for its schema. -/
  open_iff : ∀ resource ∈ registry.resources, ∀ key field data, resource.field? key = some field →
    field.association? = some data →
      (data.resource = none ↔
        ∀ declaration ∈ declarations, declaration.schemaName? ≠ some data.related)
  /-- It never leads to the resource of an embed. -/
  declared : ∀ resource ∈ registry.resources, ∀ key field data, resource.field? key = some field →
    field.association? = some data → ∀ target, data.resource = some target →
      ∃ root, registry.get? target = some root ∧ root.isEmbedded = false
  /-- Linking again changes nothing. -/
  settled : ∀ listed, registry.Lists listed → registry.linkListed listed = registry

theorem linkTarget?_eq_none_iff {schema : SchemaName} :
    linkTarget? declarations schema = none ↔
      ∀ declaration ∈ declarations, declaration.schemaName? ≠ some schema := by
  rw [linkTarget?, Option.map_eq_none_iff, List.find?_eq_none]
  simp only [decide_eq_true_eq]

theorem exists_of_linkTarget?_eq_some {schema : SchemaName} {target : String}
    (found : linkTarget? declarations schema = some target) :
    ∃ declaration ∈ declarations, declaration.name = target := by
  obtain ⟨declaration, isFirst, named⟩ := Option.map_eq_some_iff.1 found
  exact ⟨declaration, List.mem_of_find?_eq_some isFirst, named⟩

section Built

variable {families : List (List Resource)}
  (same : registry.resources.map Resource.bare = families.flatten.map (·.linkedBy declarations))

include same

theorem exists_linkedBy_of_mem {resource : Resource} (member : resource ∈ registry.resources) :
    ∃ original ∈ families.flatten, resource.bare = original.linkedBy declarations := by
  have listed : resource.bare ∈ families.flatten.map (·.linkedBy declarations) :=
    same ▸ List.mem_map_of_mem member
  obtain ⟨original, isOriginal, linked⟩ := List.mem_map.1 listed
  exact ⟨original, isOriginal, linked.symm⟩

theorem resource_of_linkedBy {resource : Resource} (member : resource ∈ registry.resources)
    {key : String} {field : Field} {data : AssociationData}
    (stored : resource.field? key = some field) (found : field.association? = some data) :
    data.resource = linkTarget? declarations data.related := by
  obtain ⟨original, _, linked⟩ := exists_linkedBy_of_mem same member
  have storedToo : (original.linkedBy declarations).field? key = some field := by
    rw [← linked]
    exact stored
  rw [Resource.field?, Resource.linkedBy, Table.get?_mapValues, Option.map_eq_some_iff] at storedToo
  obtain ⟨plain, _, link⟩ := storedToo
  subst link
  exact Field.resource_of_association?_linkedBy found

theorem linkedBy_eq_self_of_mem {resource : Resource} (member : resource ∈ registry.resources) :
    resource.linkedBy declarations = resource := by
  obtain ⟨original, _, linked⟩ := exists_linkedBy_of_mem same member
  have again : resource.bare.linkedBy declarations = resource.bare := by
    rw [linked, Resource.linkedBy_linkedBy]
  have fields : resource.fields.mapValues (·.linkedBy declarations) = resource.fields :=
    congrArg (·.fields) again
  rw [Resource.linkedBy, fields]

theorem tabled_of_linkedBy (tabled : ∀ original ∈ families.flatten, original.Tabled) :
    ∀ resource ∈ registry.resources, resource.Tabled := by
  intro resource member
  obtain ⟨original, isOriginal, linked⟩ := exists_linkedBy_of_mem same member
  have bare : resource.bare.Tabled := linked ▸ (tabled original isOriginal).linkedBy
  exact ⟨bare.ascending, bare.keyed⟩

end Built

/-- In a registry that is built every association leads to the resource that is
declared first for its schema. -/
theorem linked_of_build_eq_ok (built : build declarations backends policy = .ok registry) :
    registry.Linked backends policy declarations := by
  obtain ⟨registered, registering, attaching⟩ := Outcome.bind_eq_ok_iff.1 built
  have start : (names {}).Nodup := List.nodup_nil
  obtain ⟨families, areFamilies, listed, distinct⟩ := (registering_eq_ok_iff start).1 registering
  have isRegistered : registered = ⟨families.flatten⟩ := eq_of_resources_eq listed
  subst isRegistered
  have discovered := discovered_of_registering registering
  have bares := map_bare_of_attaching attaching
  -- Nothing is attached yet to what has been discovered, so linking it gives the bare
  -- resources of the registry.
  have linking : (link ⟨families.flatten⟩).resources =
      families.flatten.map (·.linkedBy declarations) := by
    rw [link, linkResource_of_families areFamilies]
  have same : registry.resources.map Resource.bare =
      families.flatten.map (·.linkedBy declarations) := by
    rw [bares, ← linking, link, List.map_map]
    apply List.map_congr_left
    intro original member
    exact bare_linkResource (discovered original member).bare
  have leads {resource : Resource} (member : resource ∈ registry.resources)
      {key : String} {field : Field} {data : AssociationData}
      (stored : resource.field? key = some field) (found : field.association? = some data) :=
    resource_of_linkedBy same member stored found
  have tabled : ∀ original ∈ families.flatten, original.Tabled :=
    fun original member => (discovered original member).tabled
  constructor
  · refine ⟨families, areFamilies, same, fun visited complete => ?_⟩
    rw [linkListed_eq_link distinct tabled complete, linking, same]
  · exact fun _ member _ _ _ stored found => leads member stored found
  · intro resource member key field data stored found
    rw [leads member stored found]
    exact linkTarget?_eq_none_iff
  · intro resource member key field data stored found target leadsTo
    rw [leads member stored found] at leadsTo
    obtain ⟨declaration, isDeclared, named⟩ := exists_of_linkTarget?_eq_some leadsTo
    obtain ⟨root, isRoot, apart, _⟩ := exists_declared_of_build_eq_ok built isDeclared
    exact ⟨root, named ▸ isRoot, apart⟩
  · intro visited complete
    rw [linkListed_eq_link (nodup_names_of_build_eq_ok built) (tabled_of_linkedBy same tabled)
      complete, link,
      linkResource_eq_of_bare bares, linkResource_of_families areFamilies]
    have settled : registry.resources.map (·.linkedBy declarations) = registry.resources :=
      (List.map_congr_left fun _ member => linkedBy_eq_self_of_mem same member).trans
        (List.map_id' _)
    rw [settled]

/-- Tickets with an assignee and with the contact that is embedded in them, which leads to a person
itself. The contact that a ticket was first reported by has no resource of its own. -/
def ticketCatalog : SchemaCatalog where
  schemas := [
    { name := ⟨"Ticket"⟩
      fields := [{ name := "title", nativeType := "string" }]
      associations := [
        { name := "contact", kind := .embedOne, destination := ⟨"Contact"⟩ },
        { name := "assignee", kind := .manyToOne, destination := ⟨"Person"⟩ },
        { name := "reporter", kind := .manyToOne, destination := ⟨"Contact"⟩ }] },
    { name := ⟨"Contact"⟩
      fields := []
      associations := [{ name := "person", kind := .manyToOne, destination := ⟨"Person"⟩ }] },
    { name := ⟨"Person"⟩, fields := [{ name := "name", nativeType := "string" }] }]

def ticketBackends : Backends where
  simple := some ticketCatalog

def ticketDeclaration (name schema : String) : ResourceDeclaration :=
  { ResourceDeclaration.simple name schema none with routes := { only := some [] } }

/-- The tickets are declared before the people that they lead to, who are declared twice. -/
def ticketDeclarations : List ResourceDeclaration :=
  [ticketDeclaration "ticket" "Ticket", ticketDeclaration "author" "Person",
    ticketDeclaration "reader" "Person"]

def ticketResource (name schema : String) : Resource :=
  .discover name (.simple ticketCatalog) ⟨schema⟩ none
    (some (ticketDeclaration name schema)) {} none

theorem synthesizeEmbeds_ticket : (ticketResource "ticket" "Ticket").synthesizeEmbeds {} =
    .ok [(ticketResource "ticket" "Ticket").embedded {} ⟨"ticket", "ticket__contact",
      ⟨"Contact"⟩⟩] :=
  Resource.synthesizeEmbeds_of_embeds_eq_singleton (by decide +kernel) (by decide)
    (by decide +kernel)

theorem synthesizeEmbeds_person (name : String) :
    (ticketResource name "Person").synthesizeEmbeds {} = .ok [] := by
  have embeds : (ticketResource name "Person").embeds = [] := rfl
  rw [Resource.synthesizeEmbeds, embeds, Resource.synthesize_nil]

theorem targets_build_tickets :
    (build ticketDeclarations ticketBackends {}).toOption.map
      (fun registry => registry.resources.map fun resource =>
        (resource.name, resource.fields.filterMap fun (key, field) =>
          field.association?.map fun data => (key, data.resource))) =
      some [("ticket", [("assignee", some "author"), ("reporter", none)]),
        ("ticket__contact", [("person", some "author")]), ("author", []), ("reader", [])] := by
  have tickets (registry : Registry) :
      register ticketBackends {} registry (ticketDeclaration "ticket" "Ticket") = _ :=
    AppDeclaration.register_eq_insertAll registry rfl synthesizeEmbeds_ticket
  have people (registry : Registry) (name : String) :
      register ticketBackends {} registry (ticketDeclaration name "Person") = _ :=
    AppDeclaration.register_eq_insertAll registry rfl (synthesizeEmbeds_person name)
  rw [build]
  simp only [ticketDeclarations, List.foldlM_cons, List.foldlM_nil, tickets, people]
  decide +kernel

/-- Both the tickets and their contacts lead to the authors, who are declared first. -/
theorem linked_tickets : ∃ registry, build ticketDeclarations ticketBackends {} = .ok registry ∧
    (registry.resources.map fun resource =>
      (resource.name, resource.fields.filterMap fun (key, field) =>
      field.association?.map fun data => (key, data.resource))) =
        [("ticket", [("assignee", some "author"), ("reporter", none)]),
          ("ticket__contact", [("person", some "author")]), ("author", []), ("reader", [])] ∧
    registry.Linked ticketBackends {} ticketDeclarations := by
  obtain ⟨registry, built, targets⟩ :=
    Outcome.exists_ok_of_toOption_map_eq_some targets_build_tickets
  exact ⟨registry, built, targets, linked_of_build_eq_ok built⟩

end Registry

end Backoffice
