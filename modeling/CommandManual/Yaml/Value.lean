import CommandManual.Yaml.Cell

/-!
# Values of a YAML text

The last step of reading a YAML text puts the cells of its nodes together to one value. Collections
that stand inside themselves, and those around them, are kept in a table.

## Main definitions

* `settled`: the values of the cells that do not lead back to themselves.
* `assembled`: the value of a cell.
* `read`: the value of a text.
-/

namespace CommandManual

namespace Yaml

/-- The values of cells, with those added whose parts have values already. The last cells come
first, because parts mostly stand behind the collection. -/
def settleOnce (order : SetOrder) (cells : Array (Option Cell)) (values : Array (Option Value)) :
    Array (Option Value) :=
  (List.range cells.size).foldr (fun i values =>
    if values[i]?.join.isSome then values
    else values.setIfInBounds i
      (cells[i]?.join.bind fun c => c.value? order fun p => values[p]?.join))
    values

/-- The values of cells, as far as every round adds one. -/
def settle (order : SetOrder) (cells : Array (Option Cell)) :
    (fuel : Nat) → Array (Option Value) → Array (Option Value)
  | 0, values => values
  | fuel + 1, values =>
    let next := settleOnce order cells values
    if next.countP Option.isSome = values.countP Option.isSome then values
    else settle order cells fuel next

/-- The values of the cells that do not lead back to themselves. -/
def settled (order : SetOrder) (cells : Array (Option Cell)) : Array (Option Value) :=
  settle order cells cells.size (Array.replicate cells.size none)

/-- The value of a cell. -/
def assembled (order : SetOrder) (cells : Array (Option Cell)) (root : Nat) : Value :=
  let values := settled order cells
  match values[root]?.join with
  | some v => v
  | none =>
    let places := (List.range cells.size).filter fun i =>
      cells[i]?.join.isSome && values[i]?.join.isNone
    let part (i : Nat) : Option Value :=
      values[i]?.join.or ((places.idxOf? i).map .member)
    .ring (places.map fun i => ((cells[i]?.join).bind (Cell.value? order part)).getD .null)
      (places.idxOf root)

/-- The value of a text, behind which bytes may stand that spell none; null if it has no document.
Sets are listed in an order. -/
def read (order : SetOrder) (t : Text) (broken : Option Utf8.Fault) : Except Fault Value := do
  match ← document (.ofText t broken) with
  | some d => return assembled order (← Builder.cells d) d.root
  | none => return .null

end Yaml

end CommandManual
