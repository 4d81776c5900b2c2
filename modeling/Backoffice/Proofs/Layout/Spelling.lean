import Backoffice.Layout.Declaration
import Backoffice.Proofs.Json.Ordered

/-!
The spellings of layouts.

An item can be written in full, and many items in shorter forms: a field as its name, a container as
its items, and what is empty or missing can be left out. Forms can be mixed at any depth. However an
item is spelled, it is read as the same item; objects that do not have a kind of item as their only
member are not read at all.
-/

namespace Backoffice

/-! ### Records with their members in any order -/

namespace Record

variable {members others : List (String × Document)} {names : List String}

theorem get?_eq_find? (record : Record) (name : String) :
    record.get? name = (record.find? (·.1 = name)).map (·.2) := by
  induction record with
  | nil => rfl
  | cons member rest inductionHypothesis =>
    obtain ⟨other, document⟩ := member
    rw [get?, List.find?_cons]
    by_cases same : other = name
    · simp [same]
    · simp [same, inductionHypothesis]

theorem get?_of_perm (perm : members.Perm others) (distinct : (others.map (·.1)).Nodup)
    (name : String) :
    get? members name = get? others name := by
  rw [get?_eq_find?, get?_eq_find?, find?_key_eq_of_perm perm.symm distinct]

/-- Members of different names make a record, whatever names it has. -/
theorem ofMembers?_of_perm (perm : members.Perm others) (distinct : (others.map (·.1)).Nodup) :
    ofMembers? names members = some members := by
  refine if_pos (List.all_eq_true.2 fun name _ => decide_eq_true ?_)
  have once : (members.map (·.1)).Nodup := (perm.map (·.1)).nodup_iff.2 distinct
  have counted : members.countP (fun member => member.1 = name) =
      (members.map (·.1)).count name := by
    rw [List.count, List.countP_map]
    rfl
  exact counted ▸ List.nodup_iff_count_le_one.1 once name

end Record

namespace LayoutItem

theorem itemsOf?_eq_get? (members : List (String × Document)) :
    itemsOf? members = (Record.get? members "items").bind fun
      | .array items => ofList? items
      | _ => none := by
  induction members with
  | nil => rfl
  | cons member rest inductionHypothesis =>
    obtain ⟨name, document⟩ := member
    rw [Record.get?]
    cases document with
    | array items =>
      rw [itemsOf?, inductionHypothesis]
      split
      · rfl
      · rfl
    | _ =>
      rw [itemsOf?, inductionHypothesis]
      · split
        · rfl
        · rfl
      · nofun

end LayoutItem

/-! ### Spellings -/

/-- The kinds of containers that have nothing but items and options. -/
inductive LayoutContainer where
  | stacked
  | inline
  | tabs

namespace LayoutContainer

def kind : LayoutContainer → String
  | stacked => "stacked"
  | inline => "inline"
  | tabs => "sections"

def item : LayoutContainer → List LayoutItem → Members → LayoutItem
  | stacked => .stacked
  | inline => .inline
  | tabs => .tabs

end LayoutContainer

namespace LayoutItem

/-- Options among the members of a record. Empty options may be left out. -/
inductive SpellsOpts : List (String × Document) → Members → Prop where
  | missing : SpellsOpts [] []
  | written {document : Document} {opts : Members} :
      document.members? = some opts → SpellsOpts [("opts", document)] opts

/-- The active flag among the members of a record. Without one it may be null or left out. -/
inductive SpellsActive : List (String × Document) → Option Bool → Prop where
  | missing : SpellsActive [] none
  | null : SpellsActive [("active", .null)] none
  | written (active : Bool) : SpellsActive [("active", .bool active)] (some active)

mutual

/-- The documents that an item can be written as. The members of a record may come in any order. -/
inductive Spells : Document → LayoutItem → Prop where
  | name (name : String) : Spells (.string name) (.field name [])
  | fieldName (name : String) : Spells (.object [("field", .string name)]) (.field name [])
  | field {name : String} {members written : List (String × Document)} {opts : Members} :
      SpellsOpts written opts → members.Perm (("name", .string name) :: written) →
      Spells (.object [("field", .object members)]) (.field name opts)
  | items (container : LayoutContainer) {documents : List Document} {items : List LayoutItem} :
      SpellsAll documents items →
        Spells (.object [(container.kind, .array documents)]) (container.item items [])
  | container (container : LayoutContainer) {documents : List Document} {items : List LayoutItem}
      {members written : List (String × Document)} {opts : Members} :
      SpellsAll documents items → SpellsOpts written opts →
        members.Perm (("items", .array documents) :: written) →
      Spells (.object [(container.kind, .object members)]) (container.item items opts)
  | group {title : String} {documents : List Document} {items : List LayoutItem}
      {members written : List (String × Document)} {opts : Members} :
      SpellsAll documents items → SpellsOpts written opts →
      members.Perm (("title", .string title) :: ("items", .array documents) :: written) →
      Spells (.object [("group", .object members)]) (.group title items opts)
  | tab {label : String} {documents : List Document} {items : List LayoutItem}
      {members flagged written : List (String × Document)} {active : Option Bool} {opts : Members} :
      SpellsAll documents items → SpellsActive flagged active → SpellsOpts written opts →
      members.Perm
        (("label", .string label) :: ("items", .array documents) :: (flagged ++ written)) →
      Spells (.object [("section", .object members)]) (.tab label active items opts)

/-- The documents that some items can be written as. -/
inductive SpellsAll : List Document → List LayoutItem → Prop where
  | nil : SpellsAll [] []
  | cons {document : Document} {item : LayoutItem} {documents : List Document}
    {items : List LayoutItem} :
      Spells document item → SpellsAll documents items →
        SpellsAll (document :: documents) (item :: items)

end

/-! ### Reading what is spelled -/

variable {members flagged written : List (String × Document)} {documents : List Document}
  {items : List LayoutItem} {active : Option Bool} {opts : Members}

theorem read?_eq_some_iff {document : Document} {item : LayoutItem} :
    read? document = some item ↔
      document.value?.isSome = true ∧ ofDocument? document = some item := by
  rw [read?]
  cases document.value? with
  | none => simp
  | some value => simp

theorem read?_of_perm {kind : String} {others : List (String × Document)}
    (perm : members.Perm others) (values : ∀ member ∈ others, member.2.value?.isSome = true)
    {item : LayoutItem} (body : ofBody? kind (.object members) = some item) :
    read? (.object [(kind, .object members)]) = some item := by
  refine read?_eq_some_iff.2 ⟨?_, body⟩
  have inside : (Document.object members).value?.isSome = true :=
    Document.isSome_value?_object_iff.2 fun member isMember =>
      values member (perm.mem_iff.1 isMember)
  exact Document.isSome_value?_object_iff.2 (List.forall_mem_singleton.2 inside)

namespace SpellsOpts

variable (spells : SpellsOpts written opts)

include spells

theorem sublist : (written.map (·.1)).Sublist ["opts"] := by
  cases spells with
  | missing => exact List.nil_sublist _
  | written read => exact List.Sublist.refl _

theorem values : ∀ member ∈ written, member.2.value?.isSome = true := by
  cases spells with
  | missing => nofun
  | written read => exact List.forall_mem_singleton.2 (Document.isSome_value?_of_members? read)

theorem opts?_of_perm {others : List (String × Document)} (perm : members.Perm others)
    (distinct : (others.map (·.1)).Nodup)
    (same : Record.get? others "opts" = Record.get? written "opts") :
    opts? members = some opts := by
  rw [opts?, Record.defaulted, Record.get?_of_perm perm distinct, same]
  cases spells with
  | missing => rfl
  | written read => exact read

end SpellsOpts

namespace SpellsActive

variable (spells : SpellsActive flagged active)

include spells

theorem sublist : (flagged.map (·.1)).Sublist ["active"] := by
  cases spells with
  | missing => exact List.nil_sublist _
  | _ => exact List.Sublist.refl _

theorem values : ∀ member ∈ flagged, member.2.value?.isSome = true := by
  cases spells with
  | missing => nofun
  | _ => exact List.forall_mem_singleton.2 rfl

theorem get?_append (name : String) (other : name ≠ "active") (record : Record) :
    Record.get? (flagged ++ record) name = record.get? name := by
  cases spells with
  | missing => rfl
  | _ => exact if_neg other.symm

theorem optional_eq {record : Record}
    (same : record.get? "active" = Record.get? (flagged ++ written) "active")
    (apart : Record.get? written "active" = none) :
    record.optional "active" Document.flag? = some active := by
  rw [Record.optional, same]
  cases spells with
  | missing => rw [List.nil_append, apart]
  | null => rfl
  | written active => rfl

end SpellsActive

/-- Whether documents are read as some items, one by one. -/
def ReadAs (documents : List Document) (items : List LayoutItem) : Prop :=
  List.Forall₂ (fun document item => read? document = some item) documents items

theorem ReadAs.ofList?_eq (read : ReadAs documents items) : ofList? documents = some items := by
  induction read with
  | nil => rw [ofList?]
  | cons head _ inductionHypothesis =>
    rw [ofList?, (read?_eq_some_iff.1 head).2, inductionHypothesis]
    rfl

theorem ReadAs.isSome_value? (read : ReadAs documents items) :
    (Document.array documents).value?.isSome = true := by
  refine Document.isSome_value?_array_iff.2 ?_
  induction read with
  | nil => nofun
  | cons head _ inductionHypothesis =>
    exact List.forall_mem_cons.2 ⟨(read?_eq_some_iff.1 head).1, inductionHypothesis⟩

theorem ReadAs.values (read : ReadAs documents items) {others : List (String × Document)}
    (values : ∀ member ∈ others, member.2.value?.isSome = true) :
    ∀ member ∈ ("items", .array documents) :: others, member.2.value?.isSome = true :=
  List.forall_mem_cons.2 ⟨read.isSome_value?, values⟩

theorem ReadAs.itemsOf?_eq (read : ReadAs documents items) {others : List (String × Document)}
    (perm : members.Perm others) (distinct : (others.map (·.1)).Nodup)
    (stored : Record.get? others "items" = some (.array documents)) :
    itemsOf? members = some items := by
  rw [itemsOf?_eq_get?, Record.get?_of_perm perm distinct, stored]
  exact read.ofList?_eq

-- One lemma for each kind of spelling.

theorem read?_field {name : String} (spells : SpellsOpts written opts)
    (perm : members.Perm (("name", .string name) :: written)) :
    read? (.object [("field", .object members)]) = some (.field name opts) := by
  have distinct : ((("name", Document.string name) :: written).map (·.1)).Nodup :=
    (spells.sublist.cons_cons "name").nodup (by decide)
  refine read?_of_perm perm (List.forall_mem_cons.2 ⟨rfl, spells.values⟩) ?_
  have named : Record.get? members "name" = some (.string name) :=
    Record.get?_of_perm perm distinct "name"
  have opted : opts? members = some opts := spells.opts?_of_perm perm distinct rfl
  simp only [ofBody?, fieldBody?, Record.ofMembers?_of_perm perm distinct, Record.required, named,
    opted, if_true, Option.bind_eq_bind, Option.bind_some, Document.text?]

theorem read?_items (container : LayoutContainer) (read : ReadAs documents items) :
    read? (.object [(container.kind, .array documents)]) = some (container.item items []) := by
  refine read?_eq_some_iff.2 ⟨?_, ?_⟩
  · exact Document.isSome_value?_object_iff.2 (List.forall_mem_singleton.2 read.isSome_value?)
  · cases container with
    | _ => simp [ofDocument?, LayoutContainer.kind, LayoutContainer.item, ofBody?, read.ofList?_eq]

theorem read?_container (container : LayoutContainer) (read : ReadAs documents items)
    (spells : SpellsOpts written opts)
    (perm : members.Perm (("items", .array documents) :: written)) :
    read? (.object [(container.kind, .object members)]) = some (container.item items opts) := by
  have distinct : ((("items", Document.array documents) :: written).map (·.1)).Nodup :=
    (spells.sublist.cons_cons "items").nodup (by decide)
  refine read?_of_perm perm (read.values spells.values) ?_
  have listed : itemsOf? members = some items := read.itemsOf?_eq perm distinct rfl
  have opted : opts? members = some opts := spells.opts?_of_perm perm distinct rfl
  cases container with
  | _ =>
    simp [LayoutContainer.kind, LayoutContainer.item, ofBody?,
      Record.ofMembers?_of_perm perm distinct, listed, opted]

theorem read?_group {title : String} (read : ReadAs documents items)
    (spells : SpellsOpts written opts)
    (perm : members.Perm (("title", .string title) :: ("items", .array documents) :: written)) :
    read? (.object [("group", .object members)]) = some (.group title items opts) := by
  have distinct :
      ((("title", Document.string title) :: ("items", .array documents) :: written).map
        (·.1)).Nodup :=
    ((spells.sublist.cons_cons "items").cons_cons "title").nodup (by decide)
  refine read?_of_perm perm (List.forall_mem_cons.2 ⟨rfl, read.values spells.values⟩) ?_
  have titled : Record.get? members "title" = some (.string title) :=
    Record.get?_of_perm perm distinct "title"
  have listed : itemsOf? members = some items := read.itemsOf?_eq perm distinct rfl
  have opted : opts? members = some opts := spells.opts?_of_perm perm distinct rfl
  simp [ofBody?, Record.ofMembers?_of_perm perm distinct, Record.required, titled, listed, opted,
    Document.text?]

theorem read?_tab {label : String} (read : ReadAs documents items)
    (flags : SpellsActive flagged active) (spells : SpellsOpts written opts)
    (perm : members.Perm
      (("label", .string label) :: ("items", .array documents) :: (flagged ++ written))) :
    read? (.object [("section", .object members)]) = some (.tab label active items opts) := by
  have distinct : ((("label", Document.string label) :: ("items", .array documents) ::
      (flagged ++ written)).map (·.1)).Nodup := by
    have both : ((flagged ++ written).map (·.1)).Sublist ["active", "opts"] := by
      rw [List.map_append]
      exact flags.sublist.append spells.sublist
    exact ((both.cons_cons "items").cons_cons "label").nodup (by decide)
  have values := read.values (List.forall_mem_append.2 ⟨flags.values, spells.values⟩)
  refine read?_of_perm perm (List.forall_mem_cons.2 ⟨rfl, values⟩) ?_
  have labeled : Record.get? members "label" = some (.string label) :=
    Record.get?_of_perm perm distinct "label"
  have listed : itemsOf? members = some items := read.itemsOf?_eq perm distinct rfl
  have opted : opts? members = some opts :=
    spells.opts?_of_perm perm distinct (flags.get?_append "opts" (by decide) written)
  have apart : Record.get? written "active" = none := by
    cases spells with
    | missing => rfl
    | written read => rfl
  have flag : Record.optional members "active" Document.flag? = some active :=
    flags.optional_eq (Record.get?_of_perm perm distinct "active") apart
  simp [ofBody?, Record.ofMembers?_of_perm perm distinct, Record.required, labeled, flag, listed,
    opted, Document.text?]

mutual

theorem read?_of_spells : ∀ {document : Document} {item : LayoutItem}, Spells document item →
    read? document = some item
  | _, _, .name _ | _, _, .fieldName _ => rfl
  | _, _, .field opts perm => read?_field opts perm
  | _, _, .items container all => read?_items container (readAs_of_spellsAll all)
  | _, _, .container container all opts perm =>
    read?_container container (readAs_of_spellsAll all) opts perm
  | _, _, .group all opts perm => read?_group (readAs_of_spellsAll all) opts perm
  | _, _, .tab all active opts perm => read?_tab (readAs_of_spellsAll all) active opts perm

theorem readAs_of_spellsAll :
    ∀ {documents : List Document} {items : List LayoutItem}, SpellsAll documents items →
    ReadAs documents items
  | _, _, .nil => .nil
  | _, _, .cons head rest => .cons (read?_of_spells head) (readAs_of_spellsAll rest)

end

/-! ### The long form -/

/-- In an ordered long form the items and the options of the item are ordered. -/
theorem isOrdered_of_toJson {item : LayoutItem} (ordered : item.toJson.isOrdered = true) :
    Json.areOrdered (listToJson item.items) = true ∧ (Json.object item.opts).isOrdered = true := by
  have body {kind : String} {body : Members}
      (ordered : (Json.object [(kind, .object body)]).isOrdered = true) : ∀ member ∈ body,
        member.2.isOrdered = true :=
    fun _ inside =>
      Json.isOrdered_of_mem (Json.isOrdered_of_mem ordered (List.mem_singleton_self _)) inside
  cases item with
  | field name opts =>
    rw [toJson] at ordered
    exact ⟨by rw [items, listToJson, Json.areOrdered],
      body ordered ("opts", .object opts) (by simp)⟩
  | stacked items opts | inline items opts | tabs items opts | group title items opts =>
    rw [toJson] at ordered
    exact ⟨body ordered ("items", .array (listToJson items)) (by simp),
      body ordered ("opts", .object opts) (by simp)⟩
  | tab label active items opts =>
    cases active with
    | _ =>
      rw [toJson] at ordered
      exact ⟨body ordered ("items", .array (listToJson items)) (by simp),
        body ordered ("opts", .object opts) (by simp)⟩

theorem spellsOpts_ofJson (ordered : (Json.object opts).isOrdered = true) :
    SpellsOpts [("opts", .ofJson (.object opts))] opts :=
  .written (Document.members?_ofJson_object ordered)

theorem spells_toJson_container (container : LayoutContainer)
    (all : SpellsAll (Document.ofItems (listToJson items)) items)
    (ordered : (Json.object opts).isOrdered = true) :
    Spells (.ofJson (container.item items opts).toJson) (container.item items opts) := by
  cases container with
  | stacked => exact .container .stacked all (spellsOpts_ofJson ordered) (.refl _)
  | inline => exact .container .inline all (spellsOpts_ofJson ordered) (.refl _)
  | tabs => exact .container .tabs all (spellsOpts_ofJson ordered) (.refl _)

-- The long form has the members of every record in the order of their names.

mutual

theorem spells_toJson :
    ∀ {item : LayoutItem}, item.toJson.isOrdered = true → Spells (.ofJson item.toJson) item
  | .field _ _, ordered => .field (spellsOpts_ofJson (isOrdered_of_toJson ordered).2) (.refl _)
  | .stacked _ _, ordered =>
    have inside := isOrdered_of_toJson ordered
    spells_toJson_container .stacked (spellsAll_listToJson inside.1) inside.2
  | .inline _ _, ordered =>
    have inside := isOrdered_of_toJson ordered
    spells_toJson_container .inline (spellsAll_listToJson inside.1) inside.2
  | .tabs _ _, ordered =>
    have inside := isOrdered_of_toJson ordered
    spells_toJson_container .tabs (spellsAll_listToJson inside.1) inside.2
  | .group _ _ _, ordered =>
    have inside := isOrdered_of_toJson ordered
    .group (spellsAll_listToJson inside.1) (spellsOpts_ofJson inside.2)
      (@List.perm_append_comm _ [_, _] _)
  | .tab _ none _ _, ordered =>
    have inside := isOrdered_of_toJson ordered
    .tab (spellsAll_listToJson inside.1) .null (spellsOpts_ofJson inside.2)
      ((List.reverse_perm [_, _, _]).append_right _)
  | .tab _ (some active) _ _, ordered =>
    have inside := isOrdered_of_toJson ordered
    .tab (spellsAll_listToJson inside.1) (.written active) (spellsOpts_ofJson inside.2)
      ((List.reverse_perm [_, _, _]).append_right _)

theorem spellsAll_listToJson :
    ∀ {items : List LayoutItem}, Json.areOrdered (listToJson items) = true →
    SpellsAll (Document.ofItems (listToJson items)) items
  | [], _ => .nil
  | item :: rest, ordered => by
    rw [listToJson, Json.areOrdered, Bool.and_eq_true] at ordered
    exact .cons (spells_toJson ordered.1) (spellsAll_listToJson ordered.2)

end

/-! ### What is not read -/

def kinds : List String := ["field", "stacked", "inline", "group", "sections", "section"]

theorem ofBody?_eq_none {kind : String} (unknown : kind ∉ kinds) (body : Document) :
    ofBody? kind body = none := by
  simp only [kinds, List.mem_cons, List.not_mem_nil, or_false, not_or] at unknown
  cases body with
  | _ => simp [ofBody?, unknown]

theorem read?_object_eq_none (members : List (String × Document))
    (other : members.length ≠ 1 ∨ ∃ member ∈ members, member.1 ∉ kinds) :
    read? (.object members) = none := by
  refine Option.bind_eq_none_iff.2 fun _ _ => ?_
  match members with
  | [] => rfl
  | [(kind, body)] =>
    obtain ⟨member, inside, unknown⟩ := other.resolve_left fun long => long rfl
    rw [List.mem_singleton.1 inside] at unknown
    exact ofBody?_eq_none unknown body
  | _ :: _ :: _ => rfl

/-- However an item is spelled, it is read as the same item; its long form is one of its spellings.
Objects that do not have a kind of item as their only member are not read. -/
theorem read?_spelled :
    (∀ item : LayoutItem, item.toJson.isOrdered = true →
      Spells (.ofJson item.toJson) item ∧ read? (.ofJson item.toJson) = some item) ∧
    (∀ (document : Document) (item : LayoutItem), Spells document item →
      read? document = some item) ∧
    ∀ members : List (String × Document),
      (members.length ≠ 1 ∨ ∃ member ∈ members, member.1 ∉ kinds) →
      read? (.object members) = none := by
  refine ⟨?_, fun _ _ => read?_of_spells, read?_object_eq_none⟩
  intro item ordered
  have spelled := spells_toJson ordered
  exact ⟨spelled, read?_of_spells spelled⟩

def stockTab : LayoutItem :=
  .tabs [
    .tab "Stock" (some true) [
      .group "Prices" [.field "cost" [], .field "msrp" [("readonly", .bool true)]] [],
      .stacked [.inline [.field "stock" []] []] [("x", .number (.int 1))]] []] []

def writtenStockTab : Document :=
  .object [("sections", .array [
    .object [("section", .object [
      ("items", .array [
        .object [("group", .object [
          ("title", .string "Prices"),
          ("items", .array [
            .string "cost",
            .object [("field", .object [
              ("opts", .object [("readonly", .bool true)]),
              ("name", .string "msrp")])]])])],
        .object [("stacked", .object [
          ("opts", .object [("x", .number (.int 1))]),
          ("items",
            .array [.object [("inline", .array [.object [("field", .string "stock")]])]])])]]),
      ("active", .bool true),
      ("label", .string "Stock")])]])]

theorem spells_writtenStockTab : Spells writtenStockTab stockTab := by
  refine .items .tabs (.cons (.tab (.cons ?prices (.cons ?stock .nil)) (.written true) .missing
    (@List.perm_append_comm _ [_, _] _)) .nil)
  case prices =>
    exact .group (.cons (.name "cost") (.cons (.field (.written rfl) (.swap _ _ _)) .nil))
      .missing (.refl _)
  case stock =>
    exact .container .stacked (.cons (.items .inline (.cons (.fieldName "stock") .nil)) .nil)
      (.written rfl) (.swap _ _ _)

theorem read?_stockTab :
    stockTab.toJson.isOrdered = true ∧ read? (.ofJson stockTab.toJson) = some stockTab ∧
      Spells writtenStockTab stockTab ∧ read? writtenStockTab = some stockTab ∧
      read? (.object [("tabs", .array [])]) = none := by
  have ordered : stockTab.toJson.isOrdered = true := by decide +kernel
  refine ⟨ordered, (read?_spelled.1 stockTab ordered).2, spells_writtenStockTab, ?_, ?_⟩
  · exact read?_spelled.2.1 writtenStockTab stockTab spells_writtenStockTab
  · exact read?_spelled.2.2 [("tabs", .array [])] (.inr ⟨_, List.mem_singleton_self _, by decide⟩)

end LayoutItem

end Backoffice
