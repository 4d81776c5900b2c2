import Backoffice.Proofs.Layout.Mirroring

/-!
The options of a node: of an item and those around it, the innermost one that declares an option
counts, and nothing else does.
-/

namespace Backoffice

theorem Table.get?_merge_ofList {Value : Type} (inherited own : Table Value) (name : String) :
    (merge inherited own).get? name = ((ofList own).get? name).or (inherited.get? name) := by
  rw [get?_merge, ofList, get?_merge, get?_nil, Option.or_none]

namespace LayoutItem

def opt? (item : LayoutItem) (name : String) : Option Json :=
  (Table.ofList item.opts).get? name

theorem get?_nestedOpts (nested : List LayoutItem) (name : String) :
    (nestedOpts nested).get? name = nested.findSome? (·.opt? name) := by
  induction nested with
  | nil => rfl
  | cons item around inductionHypothesis =>
    rw [nestedOpts, Table.get?_merge_ofList, inductionHypothesis, List.findSome?_cons, opt?]
    cases (Table.ofList item.opts).get? name with
    | none => rfl
    | some value => rfl

end LayoutItem

/-- Whether a node is that of an item and has exactly the options that the item or an item around it
declares, with the value of the innermost one that does. -/
def LayoutNode.Inherits (resource : Resource) (around : List LayoutItem) (item : LayoutItem)
    (node : LayoutNode) : Prop :=
  Depicts resource item node ∧
    ∀ name, node.opts.get? name = (item :: around).findSome? (·.opt? name)

theorem LayoutNode.Renders.inherits {resource : Resource} {around : List LayoutItem}
    {item : LayoutItem} {node : LayoutNode} (renders : Renders resource around item node) :
    Inherits resource around item node := by
  obtain ⟨depicts, opts⟩ := renders
  refine ⟨depicts, fun name => ?_⟩
  rw [opts, LayoutItem.get?_nestedOpts]

namespace LayoutTree

open LayoutNode

/-- The nearest declaration of an option counts at every node. In a view with details that is
one of the item of the node or of the items around it, in an index one of the column, the
index or the resource. -/
theorem nearest_opts_of_compile_eq_ok {resource : Resource} {view : View}
    {declared : Option LayoutDeclaration} {registry : Registry} {tree : LayoutTree}
    (compiled : compile resource view declared registry = .ok tree) :
    (∀ items, view ≠ .index → declared.bind (·.items? view) = some items →
      tree.root.opts = [] ∧
        ∃ child, tree.root.children = [child] ∧ Contents (Inherits resource) items child) ∧
    (∀ index, view = .index → declared.bind (·.index) = some index →
      (∀ name, tree.root.opts.get? name =
        ((Table.ofList index.opts).get? name).or (resource.opts.get? name)) ∧
      List.Forall₂ (fun (item : LayoutItem) (column : LayoutNode) =>
          Depicts resource item column ∧
            ∀ name, column.opts.get? name = (item.opt? name).or (tree.root.opts.get? name))
        index.columns tree.root.children) := by
  constructor
  · intro items details declares
    obtain ⟨child, root, contents⟩ := exists_contents_of_compile_eq_ok details compiled declares
    rw [root]
    exact ⟨rfl, child, rfl, contents.mono fun _ _ _ => Renders.inherits⟩
  · intro index isIndex declares
    subst isIndex
    obtain ⟨columns, root, mirrors⟩ := exists_columns_of_compile_eq_ok compiled declares
    rw [root]
    refine ⟨fun name => Table.get?_merge_ofList _ _ name,
      mirrors.imp fun item column mirrored => ?_⟩
    obtain ⟨⟨depicts, opts⟩, _, _⟩ := mirrored
    refine ⟨depicts, fun name => ?_⟩
    rw [opts, Table.get?_merge_ofList]
    rfl

/-- A form that makes its group read-only, and a row in it again, but not the title in that row. -/
def readOnlyForm : LayoutDeclaration where
  resource := "article"
  form := some [
    .group "Main" [
      .field "body" [],
      .inline [.field "title" [("readonly", .bool false)]] [("readonly", .bool true)]]
      [("readonly", .string "group"), ("rows", .bool true)]]

theorem nearest_opts_readOnlyForm : ∃ tree items,
    compile article .form (some readOnlyForm) {} = .ok tree ∧ readOnlyForm.form = some items ∧
      tree.root.opts = [] ∧
      ∃ child, tree.root.children = [child] ∧ Contents (Inherits article) items child := by
  obtain ⟨tree, compiled⟩ : ∃ tree, compile article .form (some readOnlyForm) {} = .ok tree :=
    ⟨_, rfl⟩
  exact ⟨tree, _, compiled, rfl, (nearest_opts_of_compile_eq_ok compiled).1 _ nofun rfl⟩

example : (compile article .form (some readOnlyForm) {}).toOption.map
    (fun tree => (tree.root.find? .field "title").map (·.opts)) =
      some (some [("readonly", .bool false), ("rows", .bool true)]) := by rfl

end LayoutTree

end Backoffice
