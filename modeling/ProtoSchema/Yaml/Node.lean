import ProtoSchema.Yaml.Resolve

/-!
YAML documents as trees. An alias refers to the node that has its anchor, which may be a node
around the alias itself, so the nodes with anchors are kept beside the tree.
-/
namespace ProtoSchema.Yaml

/-- A node of a document with the line, counted from one, on which it starts. An alias has a
number of its own and the number of its anchor. -/
inductive Node where
  | scalar (line : Nat) (tag text : String)
  | sequence (line : Nat) (tag : String) (items : List Node)
  | mapping (line : Nat) (tag : String) (entries : List (Node × Node))
  | aliasOf (line : Nat) (name : String) (number anchor : Nat)
deriving Repr, Inhabited

/-- A document: its tree, the nodes with anchors by number, and how many aliases it has. -/
structure Document where
  root : Node
  anchored : List (Nat × Node)
  aliases : Nat
deriving Repr, Inhabited

namespace Node

/-- The line on which the node starts. -/
def line : Node → Nat
  | scalar line _ _ => line
  | sequence line _ _ => line
  | mapping line _ _ => line
  | aliasOf line _ _ _ => line

/-- The text of a scalar or the name of an alias. -/
def text : Node → String
  | scalar _ _ text => text
  | aliasOf _ name _ _ => name
  | _ => ""

/-- Whether two nodes count as the same key: same kind of node and same text. -/
def sameKey : Node → Node → Bool
  | scalar _ _ a, scalar _ _ b => a == b
  | sequence .., sequence .. => true
  | mapping .., mapping .. => true
  | aliasOf _ a _ _, aliasOf _ b _ _ => a == b
  | _, _ => false

/-- Whether the node is the key that merges another mapping. -/
def isMerge : Node → Bool
  | scalar _ tag text => text == "<<" && tag == Tag.merge
  | _ => false

/-- Whether the node is a mapping. -/
def isMapping : Node → Bool
  | mapping .. => true
  | _ => false

mutual

/-- The number of nested nodes on the longest way down. -/
def depth : Node → Nat
  | sequence _ _ items => depthItems items + 1
  | mapping _ _ entries => depthEntries entries + 1
  | _ => 1

/-- The greatest depth among items. -/
def depthItems : List Node → Nat
  | [] => 0
  | n :: r => max n.depth (depthItems r)

/-- The greatest depth among keys and values. -/
def depthEntries : List (Node × Node) → Nat
  | [] => 0
  | (k, v) :: r => max (max k.depth v.depth) (depthEntries r)

end

end Node

end ProtoSchema.Yaml
