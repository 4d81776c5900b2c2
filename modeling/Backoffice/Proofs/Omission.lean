import Backoffice.Proofs.Closedness
import Backoffice.Proofs.Resource.Flags

/-!
Compiled applications show no field that is omitted: each node of a field, in every tree
of every resource, is named after a field of its resource that neither its declaration
nor the naming policy omits.
-/

namespace Backoffice

theorem Resource.FlaggedBy.keyed {policy : NamingPolicy} {declaration : Option ResourceDeclaration}
    {resource : Resource} (flagged : resource.FlaggedBy policy declaration) : resource.Keyed :=
  fun key field stored => (flagged key field stored).key

theorem LayoutNode.Discreet.exists_field {resource : Resource} {node : LayoutNode}
    (discreet : node.Discreet resource) (keyed : resource.Keyed) (shows : node.tag = .field) :
    ∃ field, resource.field? node.name = some field ∧ field.omitted = false := by
  obtain ⟨key, field, opts, stored, shown, same⟩ := discreet (.inl shows)
  subst same
  have named : (LayoutScope.fieldNode opts field).name = key := keyed key field stored
  exact ⟨field, named.symm ▸ stored, shown⟩

namespace AppDeclaration

/-- Whether the fields of a key are omitted from a resource: as the field is declared, or else as
the policy says. Resources of embeds, and fields that are not declared, have the policy only. -/
def omits (declaration : AppDeclaration) (policy : NamingPolicy) (resource key : String) : Bool :=
  (((declaration.resources.find? (·.name = resource)).bind (·.field? key)).bind (·.omitted)).getD
    (policy.isOmitted key)

/-- In a compiled application the fields that are declared or ruled to be omitted are,
and no tree shows one. -/
theorem discreet_of_compile_eq_ok {declaration : AppDeclaration} {backends : Backends}
    {app : AppSchema} (compiled : declaration.compile backends = .ok app) :
    ∃ policy, NamingPolicy.ofRules declaration.namingRules = .ok policy ∧
      (∀ resource ∈ app.registry.resources, ∀ key field, resource.field? key = some field →
        field.omitted = declaration.omits policy resource.name key) ∧
      ∀ name trees, (name, trees) ∈ app.layouts →
        ∃ resource, app.registry.get? name = some resource ∧
          ∀ view, ∀ node ∈ (trees.get view).root.nodes, node.tag = .field →
            ∃ field, resource.field? node.name = some field ∧ field.omitted = false ∧
              declaration.omits policy name node.name = false := by
  obtain ⟨policy, ruled, built, laidOut⟩ := exists_policy_of_compile_eq_ok compiled
  have omitted : ∀ resource ∈ app.registry.resources, ∀ key field,
      resource.field? key = some field →
        field.omitted = declaration.omits policy resource.name key := by
    intro resource member key field stored
    exact (Registry.flaggedBy_of_build_eq_ok built member key field stored).omitted
  refine ⟨policy, ruled, omitted, ?_⟩
  intro name trees member
  obtain ⟨resource, isRegistered, named, compiledTrees⟩ :=
    exists_named_of_mem_layouts laidOut member
  subst named
  have found : app.registry.get? resource.name = some resource :=
    Registry.get?_eq_some_of_mem (Registry.nodup_names_of_build_eq_ok built) isRegistered
  have keyed : resource.Keyed := (Registry.flaggedBy_of_build_eq_ok built isRegistered).keyed
  refine ⟨resource, found, ?_⟩
  intro view node inTree shows
  obtain ⟨field, stored, shown⟩ :=
    (LayoutTree.forall_discreet_of_compile_eq_ok (compiledTrees view) node inTree).exists_field
      keyed shows
  refine ⟨field, stored, shown, ?_⟩
  rw [← omitted resource isRegistered node.name field stored]
  exact shown

/-- Accounts with a profile. Secrets are omitted by their names, as far as
their declarations allow. -/
def vaultCatalog : SchemaCatalog where
  schemas := [
    { name := ⟨"Account"⟩
      fields := [
        { name := "email", nativeType := "string" },
        { name := "secret_hash", nativeType := "string" },
        { name := "secret_hint", nativeType := "string" }]
      associations := [
        { name := "profile", kind := .embedOne, destination := ⟨"Profile"⟩ },
        { name := "secret_sharer", kind := .manyToOne, destination := ⟨"Account"⟩ }] },
    { name := ⟨"Profile"⟩
      fields := [
        { name := "bio", nativeType := "string" },
        { name := "secret_bio", nativeType := "string" }] }]

def vaultBackends : Backends where
  simple := some vaultCatalog

def accountDeclaration : ResourceDeclaration :=
  { ResourceDeclaration.simple "account" "Account" none with
    routes := { only := some [] }
    fields := [
      { name := "secret_hint", omitted := some false },
      { name := "token", type := some .string, omitted := some true },
      { name := "secret_note", type := some .string }] }

def vault : AppDeclaration where
  resources := [accountDeclaration]
  layouts := [{
    resource := "account"
    form := some [.group "Main" [.field "email" [], .inline [.field "secret_hint" []] []] []] }]
  namingRules := { omitted := ["secret"] }

def vaultPolicy : NamingPolicy :=
  (NamingPolicy.ofRules vault.namingRules).toOption.getD {}

theorem ofRules_vault : NamingPolicy.ofRules vault.namingRules = .ok vaultPolicy := by
  have read : (NamingPolicy.ofRules vault.namingRules).toOption.isSome = true := by decide +kernel
  unfold vaultPolicy
  cases ruled : NamingPolicy.ofRules vault.namingRules with
  | error fault =>
    rw [ruled] at read
    cases read
  | ok policy => rfl

def vaultAccount : Resource :=
  .discover "account" (.simple vaultCatalog) ⟨"Account"⟩ none (some accountDeclaration)
    vaultPolicy none

theorem synthesizeEmbeds_vaultAccount :
    vaultAccount.synthesizeEmbeds vaultPolicy =
      .ok [vaultAccount.embedded vaultPolicy ⟨"account", "account__profile", ⟨"Profile"⟩⟩] := by
  apply Resource.synthesizeEmbeds_of_embeds_eq_singleton
  · decide +kernel
  · decide +kernel
  · decide +kernel

theorem fieldNames_compile_vault :
    (vault.compile vaultBackends).toOption.map (·.layouts.map fun (name, trees) =>
        (name, trees.detail.fieldNames, trees.form.fieldNames)) =
      some [
        ("account", ["secret_hint", "email", "profile"], ["email", "secret_hint"]),
        ("account__profile", ["bio"], ["bio"])] := by
  have accounts (registry : Registry) :
      Registry.register vaultBackends vaultPolicy registry accountDeclaration = _ :=
    register_eq_insertAll registry rfl synthesizeEmbeds_vaultAccount
  rw [compile_eq_of_ofRules_eq_ok ofRules_vault, Registry.build]
  simp only [vault, List.foldlM_cons, List.foldlM_nil, accounts]
  decide +kernel

theorem discreet_vault : ∃ app, vault.compile vaultBackends = .ok app ∧
    ∀ name trees, (name, trees) ∈ app.layouts → ∀ view, ∀ node ∈ (trees.get view).root.nodes,
      node.tag = .field → vault.omits vaultPolicy name node.name = false := by
  have names := fieldNames_compile_vault
  cases compiled : vault.compile vaultBackends with
  | error fault =>
    rw [compiled] at names
    cases names
  | ok app =>
    obtain ⟨policy, ruled, _, discreet⟩ := discreet_of_compile_eq_ok compiled
    rw [ofRules_vault] at ruled
    cases ruled
    refine ⟨app, rfl, ?_⟩
    intro name trees member view node inTree shows
    obtain ⟨_, _, shown⟩ := discreet name trees member
    obtain ⟨_, _, _, kept⟩ := shown view node inTree shows
    exact kept

end AppDeclaration

end Backoffice
