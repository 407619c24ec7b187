import CommandManual.Value.SetOrder
import CommandManual.Yaml.Document
import CommandManual.Yaml.Leaf
import CommandManual.Yaml.Merge

/-!
# Cells: the values of YAML nodes

Every node gets a cell with its value, where the parts of a collection are again places of cells. So
a node that stands in several places has one cell, and a collection can be part of itself.

## Main definitions

* `Cell`: the cells.
* `Building`, `Builder`: the state of filling cells, and a step of it.
* `Builder.cells`: the cells of a document.

## Implementation notes

The cell of a collection is empty when the collection is met, and filled in the round after. So the
fault that is reported of several ones is the one nearest to the root, and of those in one
collection the first.
-/

namespace CommandManual

namespace Yaml

/-- The value of a node. -/
inductive Cell where
  | leaf (v : Value)
  /-- What is no number equals nothing but itself: that of a node, or the one that all fixed forms
  stand for. -/
  | nan (origin : Option Nat)
  | list (items : List Nat)
  | tuple (items : List Nat)
  | map (entries : List (Nat × Nat))
  | set (items : List Nat)

namespace Cell

/-- Can the cell be a key? Collections cannot. -/
def isKey : Cell → Bool
  | .leaf _ | .nan _ => true
  | _ => false

/-- Do two cells name the same entry of a mapping? -/
def sameKey : Cell → Cell → Bool
  | .leaf v, .leaf w => v.sameKey w
  | .nan a, .nan b => a == b
  | _, _ => false

/-- The value of a cell, if those of its parts are known. -/
def value? (order : SetOrder) (part : Nat → Option Value) : Cell → Option Value
  | .leaf v => some v
  | .nan _ => some (.float .nan)
  | .list is => (is.mapM part).map .list
  | .tuple is => (is.mapM part).map .tuple
  | .map es => (es.mapM fun (k, v) => do return (← part k, ← part v)).map .map
  | .set is => (is.mapM part).map fun vs => .set (order.list vs)

end Cell

/-- The text of a scalar. A mapping stands for the value of its key `=`. -/
def Graph.scalarText (g : Graph) : (fuel : Nat) → (i : Nat) → Except Fault Text
  | 0, _ => .error .endless
  | fuel + 1, i =>
    match g.node i with
    | .scalar _ t => .ok t
    | .mapping _ es =>
      match es.find? fun e => g.tag e.1 = .value with
      | some e => g.scalarText fuel e.2
      | none => .error .malformed
    | .sequence .. => .error .malformed

/-- The state of filling cells. -/
structure Building where
  graph : Graph
  /-- The cells of the nodes that are met, and behind them the pairs that are no nodes. -/
  cells : Array (Option Cell)
  /-- The collections whose cells are not filled, the last one first. -/
  waiting : List Nat := []

/-- The cell of a place, if its node is met. -/
def Building.cell? (s : Building) (i : Nat) : Option Cell := s.cells[i]?.join

/-- Set an entry: an existing one keeps its place and its key, a new one comes last. -/
def Building.put (s : Building) (key value : Nat) : List (Nat × Nat) → List (Nat × Nat)
  | [] => [(key, value)]
  | (k, v) :: es =>
    match s.cell? k, s.cell? key with
    | some c, some d => if c.sameKey d then (k, value) :: es else (k, v) :: s.put key value es
    | _, _ => (k, v) :: s.put key value es

/-- A step of filling cells, which can fail. -/
abbrev Builder (α : Type) := StateT Building (Except Fault) α

namespace Builder

/-- Write the cell of a node. -/
def write (i : Nat) (c : Cell) : Builder Unit :=
  modify fun s => { s with cells := s.cells.setIfInBounds i (some c) }

/-- Write a cell that belongs to no node, and give its place. -/
def writeNew (c : Cell) : Builder Nat := do
  let i := (← get).cells.size
  modify fun s => { s with cells := s.cells.push (some c) }
  return i

/-- The empty cell of a collection, to be filled later. -/
def opening (i : Nat) (c : Cell) : Builder Unit := do
  write i c
  modify fun s => { s with waiting := i :: s.waiting }

/-- The cell of a scalar. -/
def scalar (g : Graph) (i : Nat) (tag : Tag) : Except Fault Cell := do
  let t ← g.scalarText g.nodes.size i
  if tag = .timestamp && (g.node i).isMapping then .error .momentOfMapping
  match ← scalarValue tag t with
  | .float .nan => return .nan (if isStandingNan tag t then none else some i)
  | v => return .leaf v

/-- Meet a node: write its cell if it has none. -/
def meet (i : Nat) : Builder Unit := do
  let s ← get
  if (s.cell? i).isSome then return
  match s.graph.tag i with
  | .seq | .omap | .pairs => opening i (.list [])
  | .map => opening i (.map [])
  | .set => opening i (.set [])
  | .merge | .value | .other => throw .malformed
  | tag => write i (← scalar s.graph i tag)

/-- The pair of a mapping with one entry. -/
def pair (i : Nat) : Builder Nat := do
  match (← get).graph.entries i with
  | [(k, v)] =>
    meet k
    meet v
    writeNew (.tuple [k, v])
  | _ => throw .malformed

/-- The entries of a mapping with what is merged into it. -/
def entries (i : Nat) : Builder (List (Nat × Nat)) := do
  let g ← (← get).graph.flatten i
  modify fun s => { s with graph := g }
  let es := g.entries i
  es.forM fun (k, v) => do
    meet k
    if !((← get).cell? k).any Cell.isKey then throw .malformed
    meet v
  let s ← get
  return es.foldl (fun acc (k, v) => s.put k v acc) []

/-- Fill the cell of a collection. The form of the node has to be the one that its tag asks for. -/
def fill (i : Nat) : Builder Unit := do
  match (← get).graph.node i with
  | .sequence .seq items =>
    items.forM meet
    write i (.list items)
  | .sequence .omap items | .sequence .pairs items => write i (.list (← items.mapM pair))
  | .mapping .map _ => write i (.map (← entries i))
  | .mapping .set _ => write i (.set ((← entries i).map Prod.fst))
  | _ => throw .malformed

/-- Fill the cells that wait, then those that wait after that. A collection waits once at most. -/
def rounds : (fuel : Nat) → Builder Unit
  | 0 => return ()
  | fuel + 1 => do
    let next := (← get).waiting.reverse
    if !next.isEmpty then
      modify fun s => { s with waiting := [] }
      next.forM fill
      rounds fuel

/-- The cells of a document. -/
def cells (d : Document) : Except Fault (Array (Option Cell)) := do
  let n := d.graph.nodes.size
  let (_, s) ← (do meet d.root; rounds (n + 1) : Builder Unit).run
    { graph := d.graph, cells := Array.replicate n none }
  return s.cells

end Builder

end Yaml

end CommandManual
