import Backoffice.Proofs.Resource.Links

/-!
The order of the fields of a discovered resource: the keys that are declared, followed by the others
in the order in which they are found first.
-/

namespace Backoffice

namespace Discovery

/-- Of the second list the keys that the first one does not have are appended, in the order
in which they come up. -/
theorem appendNew_eq_append_eraseDups {order more : List String} :
    appendNew order more = order ++ (more.filter (· ∉ order)).eraseDups := by
  induction more generalizing order with
  | nil => simp [appendNew]
  | cons key rest inductionHypothesis =>
    have first : appendNew order (key :: rest) = appendNew (appendNew order [key]) rest := rfl
    by_cases known : key ∈ order
    · rw [first, appendNew_singleton_of_mem known, inductionHypothesis]
      simp [known]
    · have others : rest.filter (· ∉ order ++ [key]) = (rest.filter (· ∉ order)).filter fun other =>
          !other == key := by
        rw [List.filter_filter]
        refine List.filter_congr fun other _ => ?_
        by_cases same : other = key <;> simp [same]
      rw [first, appendNew_singleton_of_notMem known, inductionHypothesis, others]
      simp [known, List.eraseDups_cons]

end Discovery

namespace Resource

/-- The keys of the fields of a discovered resource are shown once each, those that are
declared first and the others in the order in which they are found, and each field has the key
under which it is stored. -/
theorem order_discover_eq_declared_append_found (name : String) (backend : Backend)
    (schema : SchemaName) (context : Option ContextName) (declaration : Option ResourceDeclaration)
    (policy : NamingPolicy) (parent : Option String)
    (distinct : ((declaration.map (·.fields)).getD [] |>.map (·.name)).Nodup) :
    let resource := discover name backend schema context declaration policy parent
    let declared := (declaration.map (·.fields)).getD [] |>.map (·.name)
    let found := Discovery.foundKeys (backend.attributes schema) (backend.relationships schema)
    resource.order.Nodup ∧ resource.order.Perm (resource.fields.map (·.1)) ∧
      (∀ key field, resource.field? key = some field → field.key = key) ∧
      resource.order = declared ++ (found.filter (· ∉ declared)).eraseDups := by
  intro resource declared found
  have nodup : resource.order.Nodup := nodup_order_discover distinct
  refine ⟨nodup, ?_, ?_, ?_⟩
  · have ascending := ascending_discover name backend schema context declaration policy parent
    refine (List.perm_ext_iff_of_nodup nodup ascending.nodup).2 fun key => ?_
    rw [Table.mem_map_fst_iff]
    exact (contains_fields_discover_iff name backend schema context declaration policy parent).symm
  · exact fun key field stored => (flaggedBy_discover declaration key field stored).key
  · exact (order_discover name backend schema context declaration policy parent).trans
      Discovery.appendNew_eq_append_eraseDups

/-- Errands with an attribute that comes twice, and relationships that clash with
attributes and with each other. -/
def errandCatalog : SchemaCatalog where
  schemas := [
    { name := ⟨"Errand"⟩
      fields := [
        { name := "id", nativeType := "integer" },
        { name := "owner_id", nativeType := "integer" },
        { name := "id", nativeType := "string" },
        { name := "stops", nativeType := "map" }]
      associations := [
        { name := "owner", kind := .manyToOne, destination := ⟨"Person"⟩ },
        { name := "stops", kind := .oneToMany, destination := ⟨"Stop"⟩ },
        { name := "next", kind := .manyToOne, destination := ⟨"Errand"⟩,
          sourceAttribute := some "after" },
        { name := "after", kind := .embedOne, destination := ⟨"Break"⟩ },
        { name := "last", kind := .manyToOne, destination := ⟨"Errand"⟩,
          sourceAttribute := some "after" },
        { name := "next", kind := .oneToMany, destination := ⟨"Errand"⟩ }] }]

def errandDeclaration : ResourceDeclaration :=
  { ResourceDeclaration.simple "errand" "Errand" none with
    fields := [{ name := "note" }, { name := "owner_id" }] }

def errands : Resource :=
  discover "errand" (.simple errandCatalog) ⟨"Errand"⟩ none (some errandDeclaration) {} none

/-- The key of the owner is declared, and that of the last errand is found
with what it has after it. -/
theorem order_errands :
    (errandDeclaration.fields.map (·.name)).Nodup ∧
      errands.order = ["note", "owner_id", "id", "stops", "next", "after"] ∧
      errands.order.Perm (errands.fields.map (·.1)) ∧ errands.order.Nodup := by
  have distinct : (errandDeclaration.fields.map (·.name)).Nodup := by decide
  obtain ⟨nodup, perm, -, order⟩ := order_discover_eq_declared_append_found "errand"
    (.simple errandCatalog) ⟨"Errand"⟩ none (some errandDeclaration) {} none distinct
  exact ⟨distinct, order.trans (by decide +kernel), perm, nodup⟩

end Resource

end Backoffice
