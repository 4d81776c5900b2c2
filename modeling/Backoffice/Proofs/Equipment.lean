import Backoffice.Proofs.Closedness
import Backoffice.Proofs.Resource.Operations

/-!
Compiled applications are equipped: every declared resource has the routes it enables and the
operations that it needs, each resolved in its own place, and the resources of embeds have none.
-/

namespace Backoffice

namespace AppDeclaration

/-- The resources of a compiled application have exactly the operations and routes that they are
declared to have, and its manifest lists the declared ones with their routes, in their order. -/
theorem equipped_of_compile_eq_ok {declaration : AppDeclaration} {backends : Backends}
    {app : AppSchema} (compiled : declaration.compile backends = .ok app) :
    app.registry.Equipped declaration.resources ∧
      app.routeManifest =
        declaration.resources.map fun resource => (resource.name, resource.routes.manifest) := by
  obtain ⟨⟨policy, built⟩, _⟩ := exists_build_of_compile_eq_ok compiled
  exact ⟨Registry.equipped_of_build_eq_ok built, Registry.manifest_of_build_eq_ok built⟩

/-- Products with an embedded size; one function does not follow the convention. -/
def shopCatalog : SchemaCatalog where
  schemas := [
    { name := ⟨"Product"⟩
      fields := [{ name := "title", nativeType := "string" }]
      associations := [{ name := "size", kind := .embedOne, destination := ⟨"Size"⟩ }] },
    { name := ⟨"Size"⟩, fields := [{ name := "width", nativeType := "integer" }] }]
  contexts := [
    { name := ⟨"Shop"⟩
      functions := [
        { name := "list_products", arity := 1 },
        { name := "list_products_paginated", arity := 1 },
        { name := "find_product", arity := 2 },
        { name := "change_product", arity := 2 },
        { name := "create_product", arity := 1 }] }]

def shopBackends : Backends where
  simple := some shopCatalog

/-- Products with two routes, pages, an override in camel case and their
own way to make new ones. -/
def productDeclaration : ResourceDeclaration :=
  { ResourceDeclaration.simple "product" "Product" (some "Shop") with
    routes := { only := some [.edit, .new, .index], except := [.edit] }
    opts := [("paginated", .bool true)]
    operations := [("getFunction", some "find_product")]
    newEntity := some fun attrs _ => .object attrs }

def shop : AppDeclaration where
  resources := [productDeclaration]

def shopProduct : Resource :=
  .discover "product" (.simple shopCatalog) ⟨"Product"⟩ (some ⟨"Shop"⟩)
    (some productDeclaration) {} none

theorem synthesizeEmbeds_shopProduct :
    shopProduct.synthesizeEmbeds {} =
      .ok [shopProduct.embedded {} ⟨"product", "product__size", ⟨"Size"⟩⟩] := by
  apply Resource.synthesizeEmbeds_of_embeds_eq_singleton
  · decide +kernel
  · decide +kernel
  · decide +kernel

def actionNames (resource : Resource) : List (LogicalOp × Option String) :=
  resource.operations.map fun operation => (operation.1, operation.2.action?.map (·.name))

theorem operations_compile_shop :
    (shop.compile shopBackends).toOption.map (·.registry.resources.map fun resource =>
        (resource.name, actionNames resource)) =
      some [
        ("product", [(.list, some "list_products"),
          (.listPaginated, some "list_products_paginated"), (.get, some "find_product"),
          (.create, some "create_product"), (.change, some "change_product"), (.new, none)]),
        ("product__size", [])] := by
  have products (registry : Registry) :
      Registry.register shopBackends {} registry productDeclaration = _ :=
    register_eq_insertAll registry rfl synthesizeEmbeds_shopProduct
  have ruled : NamingPolicy.ofRules shop.namingRules = .ok {} := rfl
  rw [compile_eq_of_ofRules_eq_ok ruled, Registry.build]
  simp only [shop, List.foldlM_cons, List.foldlM_nil, products]
  decide +kernel

/-- The shop resolves what its two routes need, the pages, and the overridden look-up. -/
theorem equipped_shop : ∃ app, shop.compile shopBackends = .ok app ∧
    app.registry.Equipped shop.resources ∧ app.routeManifest = [("product", [.index, .new])] ∧
    app.registry.resources.map (fun resource => (resource.name, actionNames resource)) = [
      ("product", [(.list, some "list_products"), (.listPaginated, some "list_products_paginated"),
        (.get, some "find_product"), (.create, some "create_product"),
        (.change, some "change_product"), (.new, none)]),
      ("product__size", [])] := by
  have operations := operations_compile_shop
  cases compiled : shop.compile shopBackends with
  | error fault =>
    rw [compiled] at operations
    cases operations
  | ok app =>
    obtain ⟨equipped, manifest⟩ := equipped_of_compile_eq_ok compiled
    rw [compiled] at operations
    exact ⟨app, rfl, equipped, manifest, Option.some.inj operations⟩

end AppDeclaration

end Backoffice
