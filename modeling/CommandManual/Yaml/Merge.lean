import CommandManual.Yaml.Fault
import CommandManual.Yaml.Graph

/-!
# Merging YAML mappings

An entry whose key has the tag for merging stands for the entries of another mapping, or of the
mappings of a sequence. They are put in front of the mapping's own entries, so that these win.

## Main definitions

* `Graph.takeMerge?`: the first entry that asks for merging, and the others.
* `Graph.flatten`: the graph with a mapping's entries merged into it.

## Implementation notes

A merged mapping is flattened itself before its entries are taken, and it can be the mapping that
asks for it. An entry that asks for merging leaves its mapping before what it names is looked at. So
every step leaves fewer of them in the graph, and their number bounds the steps.
-/

namespace CommandManual

namespace Yaml

namespace Graph

/-- The value of the first entry that asks for merging, and the other entries. -/
def takeMerge? (g : Graph) : List (Nat × Nat) → Option (Nat × List (Nat × Nat))
  | [] => none
  | e :: es =>
    if g.tag e.1 = .merge then some (e.2, es)
    else (g.takeMerge? es).map fun (v, rest) => (v, e :: rest)

/-- The number of entries that ask for merging. -/
def mergeCount (g : Graph) : Nat :=
  g.nodes.foldl (fun n x => n + x.entries.countP fun e => g.tag e.1 = .merge) 0

/-- The graph where the keys that stand for their mapping's value are plain texts. -/
def withPlainKeys (g : Graph) (es : List (Nat × Nat)) : Graph :=
  es.foldl (fun g e => if g.tag e.1 = .value then g.retag e.1 .str else g) g

/-- The graph with the entries of a mapping merged into it, behind those that are merged already. -/
def mergeInto : (fuel : Nat) → (i : Nat) → (merged : List (Nat × Nat)) → Graph → Except Fault Graph
  | 0, _, _, _ => .error .malformed
  | fuel + 1, i, merged, g =>
    match g.takeMerge? (g.entries i) with
    | none =>
      let es := merged ++ g.entries i
      .ok ((g.setEntries i es).withPlainKeys es)
    | some (v, rest) => do
      let g := g.setEntries i rest
      match g.node v with
      | .mapping .. => do
        let g ← mergeInto fuel v [] g
        mergeInto fuel i (merged ++ g.entries v) g
      | .sequence _ items => do
        let (g, es) ← items.foldlM (fun (g, later) n =>
          if (g.node n).isMapping then do
            let g ← mergeInto fuel n [] g
            return (g, g.entries n ++ later)
          else .error .malformed) (g, [])
        mergeInto fuel i (merged ++ es) g
      | .scalar .. => .error .malformed

/-- The graph with the entries of a mapping merged into it. -/
def flatten (g : Graph) (i : Nat) : Except Fault Graph :=
  if (g.takeMerge? (g.entries i)).isSome then g.mergeInto (g.mergeCount + 1) i []
  else .ok (g.withPlainKeys (g.entries i))

end Graph

end Yaml

end CommandManual
