import Backoffice.Error

/-!
Layout trees: what a screen shows, ready to be walked by a renderer.

A node has a tag and a name, data of its tag, options, which it inherits from the nodes around
it, and the nodes inside it.
-/

namespace Backoffice

/-- What a node is. -/
inductive LayoutTag where
  | view (view : View)
  | field
  | stacked
  | inline
  | group
  | tabs
  | tab
  deriving DecidableEq, Repr

/-- The data that a node has beside its name, by its tag. -/
inductive NodeConfig where
  | none
  | view (resource : String)
  /-- The resource that the field leads to. -/
  | field (resource : Option String)
  | group (title : String)
  | tabs (sectionsId : String)
  | tab (label : String) (index : Nat) (tabId sectionsId : String) (active : Bool)
  deriving DecidableEq, Repr

/-- A node of a layout tree. -/
inductive LayoutNode where
  | mk (tag : LayoutTag) (name : String) (config : NodeConfig) (opts : Members)
    (children : List LayoutNode)
  deriving Repr

structure LayoutTree where
  resource : String
  view : View
  root : LayoutNode
  deriving Repr

namespace LayoutTag

def name : LayoutTag → String
  | .view shown => shown.name
  | field => "field"
  | stacked => "stacked"
  | inline => "inline"
  | group => "group"
  | tabs => "sections"
  | tab => "section"

def ofName? : String → Option LayoutTag
  | "field" => some field
  | "stacked" => some stacked
  | "inline" => some inline
  | "group" => some group
  | "sections" => some tabs
  | "section" => some tab
  | name => (View.ofName? name).map view

@[simp]
theorem ofName?_name (tag : LayoutTag) : ofName? tag.name = some tag := by
  cases tag with
  | view shown => cases shown <;> rfl
  | _ => rfl

end LayoutTag

namespace NodeConfig

def toJson : NodeConfig → Json
  | none => .object [("kind", .string "none")]
  | view resource => .object [("kind", .string "view"), ("resource", .string resource)]
  | field resource =>
    .object (("kind", .string "field") ::
      resource.toList.map fun resource => ("resource", .string resource))
  | group title => .object [("kind", .string "group"), ("title", .string title)]
  | tabs sectionsId =>
    .object [("kind", .string "sections"), ("sections_id", .string sectionsId)]
  | tab label index tabId sectionsId active =>
    .object [
      ("active", .bool active),
      ("kind", .string "section"),
      ("label", .string label),
      ("sections_id", .string sectionsId),
      ("tab_id", .string tabId),
      ("tab_index", Json.ofNat index)]

end NodeConfig

namespace LayoutNode

def tag : LayoutNode → LayoutTag
  | mk tag _ _ _ _ => tag

def name : LayoutNode → String
  | mk _ name _ _ _ => name

def config : LayoutNode → NodeConfig
  | mk _ _ config _ _ => config

def opts : LayoutNode → Members
  | mk _ _ _ opts _ => opts

def children : LayoutNode → List LayoutNode
  | mk _ _ _ _ children => children

mutual

/-- The node and all nodes inside it, each one before those inside it. -/
def nodes : LayoutNode → List LayoutNode
  | mk tag name config opts children =>
    mk tag name config opts children :: nodesOfList children

def nodesOfList : List LayoutNode → List LayoutNode
  | [] => []
  | node :: rest => nodes node ++ nodesOfList rest

end

def fieldNames (node : LayoutNode) : List String :=
  (node.nodes.filter (·.tag = .field)).map (·.name)

def find? (node : LayoutNode) (tag : LayoutTag) (name : String) : Option LayoutNode :=
  node.nodes.find? fun found => found.tag = tag && found.name = name

mutual

def toJson : LayoutNode → Json
  | mk tag name config opts children =>
    .object [
      ("config", config.toJson),
      ("inner_elements", .array (listToJson children)),
      ("name", .string name),
      ("opts", .object opts),
      ("tag", .string tag.name)]

def listToJson : List LayoutNode → List Json
  | [] => []
  | node :: rest => toJson node :: listToJson rest

end

end LayoutNode

namespace LayoutTree

def fieldNames (tree : LayoutTree) : List String := tree.root.fieldNames

def toJson (tree : LayoutTree) : Json :=
  .object [
    ("resource", .string tree.resource),
    ("root", tree.root.toJson),
    ("view", .string tree.view.name)]

end LayoutTree

end Backoffice
