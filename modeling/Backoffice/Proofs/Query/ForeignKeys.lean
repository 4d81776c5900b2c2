import Backoffice.Proofs.Query.Numbering
import Backoffice.Proofs.Query.SortedColumns
import Backoffice.Proofs.Resource.Flags

/-!
Conditions on a foreign key, with and without a relationship that takes it over.

The relationship leaves the key a column that can be filtered on, but gives its field another type,
and it is by the type of the field that texts become values and placeholders are cast. A many-to-one
has neither, so the conditions on the key stay the same only where there is nothing to cast: the
field is omitted, or nothing is compared with it.
-/

namespace Backoffice

/-! ### The text of conditions, and the casts in it -/

theorem SqlType.name_injective : Function.Injective SqlType.name := by
  intro first second same
  cases first <;> cases second <;> first | rfl | exact absurd same (by decide)

theorem Placeholder.cast_eq_of_numbered_eq {number : Nat} {first second : Option SqlType}
    (same : numbered number first = numbered number second) : first = second := by
  have sameName : (first.map (·.name.toList)) = second.map (·.name.toList) :=
    congrArg Placeholder.cast same
  exact Option.map_injective (fun _ _ chars => SqlType.name_injective (String.toList_inj.1 chars))
    sameName

namespace SqlStatement

theorem render_append (numbered : Nat) (first second : SqlStatement) :
    render numbered (first ++ second) =
      render numbered first ++ render (numbered + first.parameters.length) second := by
  induction first generalizing numbered with
  | nil => rfl
  | cons part rest inductionHypothesis =>
    cases part with
    | parameter value cast =>
      simp only [List.cons_append, render, inductionHypothesis, parameters, List.filterMap_cons,
        List.length_cons, List.append_assoc]
      rw [Nat.add_right_comm, Nat.add_assoc]
    | _ =>
      simp only [List.cons_append, render, inductionHypothesis, parameters, List.filterMap_cons,
        List.append_assoc]

/-- The casts of a statement can be read from its text. -/
theorem casts_eq_of_text_eq {first second : SqlStatement} (legible : first.Legible)
    (legibleToo : second.Legible) (plain : ∀ text, .fixed text ∈ first → '$' ∉ text.toList)
    (plainToo : ∀ text, .fixed text ∈ second → '$' ∉ text.toList)
    (same : first.text = second.text) :
    first.bindings.map Prod.snd = second.bindings.map Prod.snd := by
  have sameLexemes : first.lexemes 0 = second.lexemes 0 := by
    rw [← Option.some.injEq, ← ofText?_text legible, ← ofText?_text legibleToo, same]
  have read := congrArg Lexeme.placeholders sameLexemes
  rw [placeholders_lexemes legible.spaced plain, placeholders_lexemes legibleToo.spaced plainToo]
    at read
  have sameLength := congrArg List.length read
  rw [List.length_mapIdx, List.length_mapIdx] at sameLength
  apply List.ext_getElem
  · rw [List.length_map, List.length_map, sameLength]
  · intro index inside insideToo
    rw [List.length_map] at inside insideToo
    have readHere : (first.bindings.mapIdx _)[index]? = (second.bindings.mapIdx _)[index]? :=
      congrArg (·[index]?) read
    rw [List.getElem?_mapIdx, List.getElem?_mapIdx, List.getElem?_eq_getElem inside,
      List.getElem?_eq_getElem insideToo] at readHere
    rw [List.getElem_map, List.getElem_map]
    exact Placeholder.cast_eq_of_numbered_eq (Option.some.inj readHere)

end SqlStatement

namespace SelectQuery

/-- The conditions as they are written. -/
def whereText (query : SelectQuery) : String := query.wheres.text

/-- What is written before the conditions. No value is bound there. -/
def openingText (query : SelectQuery) : String := (query.selects ++ query.sources).text

/-- What is written after the conditions, where the values compared in them have been counted. -/
def closingText (query : SelectQuery) : String :=
  String.ofList (SqlStatement.render query.comparands.length (query.orders ++ query.closing))

variable (query : SelectQuery)

theorem bindings_wheres :
    query.wheres.bindings = query.comparands.map fun comparand =>
      (comparand.2, query.castOf comparand.1) := by
  rw [wheres, SqlStatement.bindings, SqlStatement.filterMap_clause (fun _ => rfl), List.flatMap_map,
    comparands, List.map_flatMap]
  simp only [List.map_map]
  exact List.flatMap_congr fun filter _ => query.bindings_comparison filter

/-- A statement is written around its conditions. -/
theorem sql_eq_append_whereText :
    query.sql = query.openingText ++ query.whereText ++ query.closingText := by
  have first : (query.selects ++ query.sources).parameters = [] := by
    have selects : query.selects.bindings = [] := query.bindings_selection
    have sources : query.sources.bindings = [] := query.bindings_source
    rw [SqlStatement.parameters_eq_map_bindings, SqlStatement.bindings, List.filterMap_append,
      ← SqlStatement.bindings, ← SqlStatement.bindings, selects, sources]
    rfl
  have wheres : query.wheres.parameters.length = query.comparands.length := by
    rw [SqlStatement.parameters_eq_map_bindings, bindings_wheres, List.length_map, List.length_map]
  have split :
      query.build = (query.selects ++ query.sources) ++
        (query.wheres ++ (query.orders ++ query.closing)) := by
    simp only [build_eq, List.append_assoc]
  rw [sql, SqlStatement.text, split, SqlStatement.render_append 0 (query.selects ++ query.sources),
    first, SqlStatement.render_append _ query.wheres, wheres, String.ofList_append,
    String.ofList_append, ← String.append_assoc, List.length_nil, Nat.add_zero, Nat.zero_add]
  rfl

theorem params_eq : query.params = query.comparands.map (·.2) := by
  rw [params, SqlStatement.parameters_eq_map_bindings, bindings_build, List.map_map]
  rfl

variable {query} in
theorem casts_eq_of_whereText_eq {other : SelectQuery} (same : query.whereText = other.whereText) :
    query.comparands.map (query.castOf ·.1) = other.comparands.map (other.castOf ·.1) := by
  have plain (query : SelectQuery) (text : String) (member : .fixed text ∈ query.wheres) :
      '$' ∉ text.toList :=
    query.dollar_not_mem_of_part ((query.part_of_mem_wheres _ member).mono (by decide))
  have casts := SqlStatement.casts_eq_of_text_eq query.legible_wheres
    other.legible_wheres (plain query) (plain other) same
  rwa [bindings_wheres, bindings_wheres, List.map_map, List.map_map] at casts

/-- Where nothing is compared, all that is left of the conditions is how many there are. -/
theorem wheres_of_comparands_eq_nil (nothing : query.comparands = []) :
    query.wheres =
      clause " WHERE " " AND " (List.replicate query.filters.length [.fixed "1 = 0"]) := by
  refine congrArg (clause " WHERE " " AND ") (List.map_eq_replicate_iff.2 fun filter member => ?_)
  have none : filter.condition.values = [] :=
    List.map_eq_nil_iff.1 (List.flatMap_eq_nil_iff.1 nothing filter member)
  obtain ⟨field, condition⟩ := filter
  cases condition with
  | among values =>
    cases none
    rfl
  | _ => cases none

end SelectQuery

/-! ### The field of a key -/

/-- Whether a relationship has nothing to do with the field of a key: it has another name, and does
not take the key over. -/
structure Relationship.Spares (relationship : Relationship) (key : String) : Prop where
  name : relationship.name ≠ key
  foreignKey : relationship.kind = .manyToOne → relationship.foreignKey ≠ key

theorem Relationship.Spares.fieldKey_ne {relationship : Relationship} {key : String}
    (spares : relationship.Spares key) (fields : Table Field) :
    relationship.fieldKey fields ≠ key := by
  unfold fieldKey
  split
  · next owning => exact spares.foreignKey owning.1
  · exact spares.name

namespace Discovery

variable (setting : Setting) {key : String}

theorem get?_foldl_addRelationship {relationships : List Relationship}
    (spared : ∀ relationship ∈ relationships, relationship.Spares key) (found : Discovery) :
    (relationships.foldl (addRelationship setting) found).fields.get? key =
      found.fields.get? key := by
  refine List.foldlRecOn relationships _
    (motive := fun later : Discovery => later.fields.get? key = found.fields.get? key) rfl ?_
  intro later same relationship member
  simp only [addRelationship, Table.get?_insert,
    if_neg ((spared relationship member).fieldKey_ne later.fields), same]

/-- Of several attributes with the name of the key, the last one makes the field. -/
theorem exists_ofAttribute {attributes : List Attribute}
    (listed : ∃ attr ∈ attributes, attr.name = key) (found : Discovery) :
    ∃ attr ∈ attributes, attr.name = key ∧
      (attributes.foldl (addAttribute setting) found).fields.get? key =
        some (.ofAttribute attr (setting.field? key) setting.policy) := by
  induction attributes using List.reverseRecOn with
  | nil =>
    obtain ⟨_, member, _⟩ := listed
    cases member
  | append_singleton before last inductionHypothesis =>
    simp only [List.foldl_append, List.foldl_cons, List.foldl_nil, addAttribute, Table.get?_insert]
    by_cases named : last.name = key
    · exact ⟨last, List.mem_append_right _ List.mem_cons_self, named, by rw [if_pos named, named]⟩
    · have earlier : ∃ attr ∈ before, attr.name = key := by
        simpa [or_and_right, exists_or, named] using listed
      obtain ⟨attr, member, same, stored⟩ := inductionHypothesis earlier
      exact ⟨attr, List.mem_append_left _ member, same, by rw [if_neg named, stored]⟩

end Discovery

theorem FieldType.isFilterable_of_sqlType? {native : String}
    (cast : (ofNative native).sqlType?.isSome = true) :
    isFilterable native = true := by
  rw [isFilterable, decide_eq_true_eq]
  intro structured
  simp only [List.mem_cons, List.not_mem_nil, or_false] at structured
  rcases structured with same | same | same | same | same | same <;> (subst same; cases cast)

namespace Field

structure Filters (key : String) (field : Field) : Prop where
  keyed : field.key = key
  filterable : field.filterable = true
  isColumn : field.isColumn = true

theorem isColumn_of_sqlType? {field : Field} (cast : field.type.sqlType?.isSome = true) :
    field.isColumn = true := by
  unfold isColumn
  cases type : field.type with
  | oneToMany | embedOne | embedMany | undefined | manyToOne =>
    rw [type] at cast
    cases cast
  | _ => rfl

variable {attr : Attribute} {policy : NamingPolicy}

theorem type_ofAttribute :
    (ofAttribute attr none policy).type = FieldType.ofNative attr.nativeType := by
  simp only [ofAttribute, customizedBy, ofPlainAttribute]
  cases restriction attr with
  | none => rfl
  | some values => rfl

theorem filters_ofAttribute (cast : (FieldType.ofNative attr.nativeType).sqlType?.isSome = true) :
    (ofAttribute attr none policy).Filters attr.name where
  keyed := (flaggedBy_ofAttribute attr).key
  filterable := FieldType.isFilterable_of_sqlType? cast
  isColumn := isColumn_of_sqlType? (type_ofAttribute ▸ cast)

end Field

theorem Relationship.filters_field {relationship : Relationship}
    (toOne : relationship.kind = .manyToOne) {field : Field}
    (own : field.key = relationship.foreignKey) (owner : String) (schema : SchemaName)
    (policy : NamingPolicy) :
    (relationship.field owner schema relationship.foreignKey (some field) none policy).Filters
      relationship.foreignKey where
  keyed := own
  filterable := decide_eq_true toOne
  isColumn := by
    simp only [Relationship.field, plainField, fieldData, Field.customizedBy, Field.isColumn,
      Field.association?, toOne, RelationshipKind.fieldType, FieldData.association?,
      Option.any_some]
    exact decide_eq_true own.symm

/-- A schema that two backends know: one of them has a relationship that takes over the
attribute of a key, the other one has nothing that leads to the field but the attribute. The
type of the attribute has casts. -/
structure TakesOver (schema : SchemaName) (key : String) (plain linked : Backend) : Prop where
  attributes : linked.attributes schema = plain.attributes schema
  listed : ∃ attr ∈ plain.attributes schema, attr.name = key
  cast : ∀ attr ∈ plain.attributes schema, attr.name = key →
    (FieldType.ofNative attr.nativeType).sqlType?.isSome = true
  spared : ∀ relationship ∈ plain.relationships schema, relationship.Spares key
  relationships : ∃ before taking after, plain.relationships schema = before ++ after ∧
    linked.relationships schema = before ++ taking :: after ∧ taking.kind = .manyToOne ∧
    taking.foreignKey = key

namespace TakesOver

variable {schema : SchemaName} {key : String} {plain linked : Backend}
  (takes : TakesOver schema key plain linked) (name : String) (context : Option ContextName)
  (policy : NamingPolicy) (parent : Option String)

include takes

theorem exists_plain : ∃ field,
    (Resource.discover name plain schema context none policy parent).field? key = some field ∧
      field.Filters key ∧ field.type.sqlType?.isSome = true := by
  obtain ⟨attr, member, same, stored⟩ :=
    Discovery.exists_ofAttribute ⟨name, schema, none, policy⟩ takes.listed {}
  have cast := takes.cast attr member same
  refine ⟨.ofAttribute attr none policy, ?_, same ▸ Field.filters_ofAttribute cast, ?_⟩
  · exact (Discovery.get?_foldl_addRelationship _ takes.spared _).trans stored
  · rwa [Field.type_ofAttribute]

theorem exists_linked : ∃ field,
    (Resource.discover name linked schema context none policy parent).field? key = some field ∧
      field.Filters key ∧ field.type = .manyToOne := by
  obtain ⟨before, taking, after, isPlain, isLinked, toOne, own⟩ := takes.relationships
  have spared := takes.spared
  rw [isPlain, List.forall_mem_append] at spared
  obtain ⟨attr, member, same, stored⟩ :=
    Discovery.exists_ofAttribute ⟨name, schema, none, policy⟩ takes.listed {}
  have keyed : (Field.ofAttribute attr none policy).key = taking.foreignKey :=
    (Field.flaggedBy_ofAttribute attr).key.trans (same.trans own.symm)
  refine ⟨taking.field name schema taking.foreignKey (some (.ofAttribute attr none policy)) none
    policy, ?_,
    own ▸ taking.filters_field toOne keyed name schema policy, ?_⟩
  · have found :=
      (Discovery.get?_foldl_addRelationship ⟨name, schema, none, policy⟩ spared.1 _).trans stored
    show (Discovery.run ⟨name, schema, none, policy⟩ (linked.attributes schema)
      (linked.relationships schema)).fields.get? key = _
    rw [Discovery.run, isLinked, takes.attributes, List.foldl_append, List.foldl_cons,
      Discovery.get?_foldl_addRelationship _ spared.2]
    subst own
    have taken (fields : Table Field) (known : fields.contains taking.foreignKey = true) :
        taking.fieldKey fields = taking.foreignKey :=
      if_pos ⟨toOne, known⟩
    rw [Discovery.addRelationship, taken _ (by rw [Table.contains, found]; rfl), Table.get?_insert,
      if_pos rfl, found]
    rfl
  · simp only [Relationship.field, Relationship.plainField, Field.customizedBy, toOne,
      RelationshipKind.fieldType]

end TakesOver

/-! ### A listing with conditions on one field -/

theorem Condition.values_coerce_eq_nil_iff {type : FieldType} {condition : Condition} :
    (condition.coerce type).values = [] ↔ condition.values = [] := by
  cases condition with
  | among values => exact List.map_eq_nil_iff
  | _ => simp [coerce, values]

namespace QueryOpts

def narrow (opts : QueryOpts) (resource : Resource) (table : String) : SelectQuery :=
  opts.applyFor resource (.ofResource resource table)

variable {opts : QueryOpts} {key : String}

theorem field_of_mem_filters (on : ∀ clause ∈ opts.clauses, clause.field = key) :
    ∀ filter ∈ opts.filters, filter.field = key := by
  intro filter member
  obtain ⟨clause, isClause, inside⟩ := List.mem_flatMap.1 member
  rw [← on clause isClause]
  cases clause with
  | equals field value =>
    rw [List.mem_singleton.1 inside]
    rfl
  | compare field operator value =>
    obtain ⟨op, _, same⟩ := List.mem_map.1 inside
    exact same ▸ rfl
  | between field low high =>
    rcases List.mem_pair.1 inside with same | same
    · exact same ▸ rfl
    · exact same ▸ rfl

end QueryOpts

theorem SelectQuery.foldl_filter_of_known (query : SelectQuery) {filters : List Filter}
    (known : ∀ filter ∈ filters, query.isKnown filter.field = true) :
    filters.foldl QueryTarget.filter query =
      { query with filters := query.filters ++ filters } := by
  induction filters generalizing query with
  | nil => rw [List.append_nil, List.foldl_nil]
  | cons filter rest inductionHypothesis =>
    rw [List.forall_mem_cons] at known
    have taken : QueryTarget.filter query filter =
        { query with filters := query.filters ++ [filter] } :=
      if_pos known.1
    rw [List.foldl_cons, taken,
      inductionHypothesis { query with filters := query.filters ++ [filter] } known.2,
      List.append_assoc, List.singleton_append]

namespace Resource

structure Offers (resource : Resource) (key : String) (field : Field) : Prop
    extends field.Filters key where
  stored : resource.field? key = some field
  shown : field ∈ resource.orderedFields
  only : ∀ other ∈ resource.orderedFields, other.key = key → other = field

theorem offers_discover {name : String} {backend : Backend} {schema : SchemaName}
    {context : Option ContextName} {declaration : Option ResourceDeclaration}
    {policy : NamingPolicy} {parent : Option String} {key : String} {field : Field}
    (stored : (discover name backend schema context declaration policy parent).field? key =
      some field)
    (filters : field.Filters key) :
    (discover name backend schema context declaration policy parent).Offers key field where
  toFilters := filters
  stored := stored
  shown := List.mem_filterMap.2 ⟨key, complete_discover _ _ _ _ _ _ _ key field stored, stored⟩
  only := by
    intro other isShown named
    obtain ⟨otherKey, otherStored⟩ := exists_field_of_mem_orderedFields isShown
    have own : other.key = otherKey :=
      (flaggedBy_discover declaration otherKey other otherStored).key
    rw [← own, named, stored, Option.some.injEq] at otherStored
    exact otherStored.symm

namespace Offers

variable {resource : Resource} {key : String} {field : Field} (offers : resource.Offers key field)
  (table : String)

include offers

theorem admit?_eq {filter : Filter} (on : filter.field = key) :
    resource.admit? filter = if field.omitted then none else some (filter.coerce field) := by
  rw [admit?, on, offers.stored]
  simp only [offers.filterable, Bool.true_and]
  cases field.omitted with
  | true => rfl
  | false => rfl

theorem column?_ofResource (kept : field.omitted = false) :
    (SelectQuery.ofResource resource table).column? key = some field.toColumn := by
  have selected : field.toColumn ∈ (SelectQuery.ofResource resource table).columns :=
    List.mem_map_of_mem (List.mem_filter.2 ⟨offers.shown, by rw [kept, offers.isColumn]; rfl⟩)
  obtain ⟨column, found⟩ : ∃ column,
      (SelectQuery.ofResource resource table).column? key = some column :=
    Option.isSome_iff_exists.1 (List.find?_isSome.2 ⟨_, selected, decide_eq_true offers.keyed⟩)
  rw [found]
  rw [SelectQuery.column?] at found
  have named := List.find?_some found
  obtain ⟨other, isOther, same⟩ := List.mem_map.1 (List.mem_of_find?_eq_some found)
  subst same
  rw [offers.only other (List.mem_of_mem_filter isOther) (of_decide_eq_true named)]

variable {opts : QueryOpts} (on : ∀ clause ∈ opts.clauses, clause.field = key)

include on

/-- The conditions on a field are those of the options, with values of its
type, unless it is omitted. -/
theorem filters_narrow : (opts.narrow resource table).filters =
    if field.omitted then [] else opts.filters.map fun filter => filter.coerce field := by
  have onKey := QueryOpts.field_of_mem_filters on
  have admitted : opts.filters.filterMap resource.admit? =
      if field.omitted then [] else opts.filters.map fun filter => filter.coerce field := by
    rw [List.filterMap_congr fun filter member => offers.admit?_eq (onKey filter member)]
    cases field.omitted with
    | true => simp
    | false => simp
  have known : ∀ filter ∈ opts.filters.filterMap resource.admit?,
      (SelectQuery.ofResource resource table).isKnown filter.field = true := by
    rw [admitted]
    cases omitted : field.omitted with
    | true => nofun
    | false =>
      intro filter member
      obtain ⟨raw, isRaw, same⟩ := List.mem_map.1 member
      have sameField : filter.field = key := same ▸ onKey raw isRaw
      rw [SelectQuery.isKnown, sameField, offers.column?_ofResource table omitted]
      exact Bool.or_true _
  rw [QueryOpts.narrow, QueryOpts.applyFor, QueryOpts.extend,
    SelectQuery.foldl_filter_of_known _ known, admitted]
  cases opts.orderBy with
  | none => rfl
  | some order => rfl

theorem fst_of_mem_comparands_narrow :
    ∀ comparand ∈ (opts.narrow resource table).comparands, comparand.1 = key := by
  intro comparand member
  obtain ⟨filter, isFilter, inside⟩ := List.mem_flatMap.1 member
  obtain ⟨value, _, same⟩ := List.mem_map.1 inside
  subst same
  rw [offers.filters_narrow table on] at isFilter
  split at isFilter
  · cases isFilter
  · obtain ⟨raw, isRaw, sameFilter⟩ := List.mem_map.1 isFilter
    subst sameFilter
    exact QueryOpts.field_of_mem_filters on raw isRaw

theorem comparands_narrow_eq_nil_iff : (opts.narrow resource table).comparands = [] ↔
    field.omitted = true ∨ ∀ filter ∈ opts.filters, filter.condition.values = [] := by
  rw [SelectQuery.comparands, offers.filters_narrow table on, List.flatMap_eq_nil_iff]
  simp only [List.map_eq_nil_iff]
  cases field.omitted with
  | true => simp
  | false => simp [Filter.coerce, Condition.values_coerce_eq_nil_iff]

omit on in
theorem castOf_narrow (kept : field.omitted = false) :
    (opts.narrow resource table).castOf key = field.type.sqlType? := by
  have columns := (QueryStep.extend_columns_order (.ofResource resource table)
    (opts.filters.filterMap resource.admit?) opts.orderBy).1
  have sameColumn : (opts.narrow resource table).column? key =
      (SelectQuery.ofResource resource table).column? key :=
    congrArg (List.find? fun column : Column => decide (column.name = key)) columns
  rw [SelectQuery.castOf, sameColumn, offers.column?_ofResource table kept]
  rfl

end Offers

end Resource

namespace SelectQuery

theorem whereText_params_eq_of_comparands_eq_nil {query other : SelectQuery}
    (nothing : query.comparands = []) (nothingToo : other.comparands = [])
    (equallyMany : query.filters.length = other.filters.length) :
    query.whereText = other.whereText ∧ query.params = other.params := by
  rw [whereText, whereText, wheres_of_comparands_eq_nil _ nothing,
    wheres_of_comparands_eq_nil _ nothingToo, equallyMany, params_eq, params_eq, nothing,
    nothingToo]
  exact ⟨rfl, rfl⟩

end SelectQuery

/-- Conditions on a key are the same after a relationship has taken the key over exactly if the key
is omitted, or nothing is compared with it. They are what the statements of the listings have
between their table and their order. -/
theorem TakesOver.conditions_eq_iff {schema : SchemaName} {key : String} {plain linked : Backend}
    (takes : TakesOver schema key plain linked) {opts : QueryOpts}
    (on : ∀ clause ∈ opts.clauses, clause.field = key) (name : String)
    (context : Option ContextName) (policy : NamingPolicy) (parent : Option String)
    (table : String) :
    let select (backend : Backend) : SelectQuery :=
      opts.narrow (.discover name backend schema context none policy parent) table
    (∀ backend, (select backend).sql =
      (select backend).openingText ++ (select backend).whereText ++ (select backend).closingText) ∧
    ((select linked).whereText = (select plain).whereText ∧
        (select linked).params = (select plain).params ↔
      policy.isOmitted key = true ∨ ∀ filter ∈ opts.filters, filter.condition.values = []) := by
  intro select
  refine ⟨fun backend => (select backend).sql_eq_append_whereText, ?_⟩
  obtain ⟨field, stored, filters, cast⟩ := takes.exists_plain name context policy parent
  obtain ⟨taken, storedToo, filtersToo, toOne⟩ := takes.exists_linked name context policy parent
  have omitted : field.omitted = policy.isOmitted key :=
    (Resource.flaggedBy_discover none key field stored).omitted
  have omittedToo : taken.omitted = policy.isOmitted key :=
    (Resource.flaggedBy_discover none key taken storedToo).omitted
  have offers := Resource.offers_discover stored filters
  have offersToo := Resource.offers_discover storedToo filtersToo
  have nothing := offers.comparands_narrow_eq_nil_iff table on
  have nothingToo := offersToo.comparands_narrow_eq_nil_iff table on
  rw [omitted] at nothing
  rw [omittedToo] at nothingToo
  constructor
  · rintro ⟨sameText, -⟩
    by_contra compared
    have kept : policy.isOmitted key = false := Bool.eq_false_iff.2 (not_or.1 compared).1
    obtain ⟨comparand, member⟩ := List.exists_mem_of_ne_nil _ (mt nothing.1 compared)
    -- What is compared without the relationship has a cast, and with it nothing has.
    have sameCasts := SelectQuery.casts_eq_of_whereText_eq sameText
    obtain ⟨other, isOther, sameCast⟩ := List.mem_map.1 (sameCasts ▸ List.mem_map_of_mem member)
    rw [offers.fst_of_mem_comparands_narrow table on comparand member,
      offers.castOf_narrow table (omitted.trans kept),
      offersToo.fst_of_mem_comparands_narrow table on other isOther,
      offersToo.castOf_narrow table (omittedToo.trans kept), toOne] at sameCast
    rw [← sameCast] at cast
    cases cast
  · intro concealed
    refine SelectQuery.whereText_params_eq_of_comparands_eq_nil (nothingToo.2 concealed)
      (nothing.2 concealed) ?_
    rw [offers.filters_narrow table on, offersToo.filters_narrow table on, omitted, omittedToo]
    cases policy.isOmitted key with
    | true => rfl
    | false => simp

def shelf (relationships : List Relationship) : Backend :=
  .simple { schemas := [
    { name := ⟨"Shop.Article"⟩
      fields := [
        { name := "name", nativeType := "string" },
        { name := "category_id", nativeType := "integer" }]
      associations := relationships }] }

def category : Relationship :=
  { name := "category", kind := .manyToOne, destination := ⟨"Shop.Category"⟩ }

theorem takesOver_category :
    TakesOver ⟨"Shop.Article"⟩ "category_id" (shelf []) (shelf [category]) where
  attributes := by decide +kernel
  listed := by decide +kernel
  cast := by decide +kernel
  spared := nofun
  relationships := ⟨[], category, [], by decide +kernel⟩

def shelfListing (relationships : List Relationship) (clauses : List WhereClause) : SelectQuery :=
  QueryOpts.narrow { clauses }
    (.discover "article" (shelf relationships) ⟨"Shop.Article"⟩ none none {} none) "articles"

/-- No category is among none, related or not, but one category is not compared in the same way. -/
theorem conditions_eq_shelf :
    let nothing : List WhereClause := [.compare "category_id" "in" (.array [])]
    let category3 : List WhereClause := [.compare "category_id" "eq" (.string "3")]
    ((shelfListing [category] nothing).whereText = (shelfListing [] nothing).whereText ∧
      (shelfListing [category] nothing).params = (shelfListing [] nothing).params) ∧
    ¬ ((shelfListing [category] category3).whereText = (shelfListing [] category3).whereText ∧
      (shelfListing [category] category3).params = (shelfListing [] category3).params) := by
  have conditions {opts : QueryOpts} (on : ∀ clause ∈ opts.clauses, clause.field = "category_id") :=
    (takesOver_category.conditions_eq_iff on "article" none {} none "articles").2
  refine ⟨(conditions ?_).2 (.inr ?_), fun same => ?_⟩
  · decide
  · decide
  · have concealed := (conditions (by decide)).1 same
    exact absurd concealed (by decide)

/-- The category that articles are related to is compared as a text. -/
theorem conditions_ne_shelf :
    let clauses : List WhereClause := [.compare "category_id" "eq" (.string "3")]
    TakesOver ⟨"Shop.Article"⟩ "category_id" (shelf []) (shelf [category]) ∧
      (shelfListing [] clauses).whereText = " WHERE \"category_id\" = $1::bigint" ∧
      (shelfListing [] clauses).params = [.number (.int 3)] ∧
      (shelfListing [category] clauses).whereText = " WHERE \"category_id\" = $1" ∧
      (shelfListing [category] clauses).params = [.string "3"] :=
  ⟨takesOver_category, by decide +kernel⟩

end Backoffice
