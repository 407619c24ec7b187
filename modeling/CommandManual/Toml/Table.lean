import CommandManual.Toml.Text
import CommandManual.Value.Basic

/-!
# Tables of a TOML text

A TOML text fills one table: entries are put under dotted keys, and headers open the tables and
the lists of tables that the entries behind them go into. The rules on what may be opened again
and what may not are kept here.

## Main definitions

* `Table`: the entries of a table.
* `Table.within?`, `Table.append?`: change the table behind a key, and add one to a list of tables.
* `Marks`: which keys are closed to headers and to changes.
-/

namespace CommandManual

namespace Toml

/-- The entries of a table. -/
abbrev Table := List (Value × Value)

namespace Table

/-- The value of a key. -/
def get? (t : Table) (k : Text) : Option Value := Value.lookup (.text k) t

/-- Set a key. -/
def set (t : Table) (k : Text) (v : Value) : Table := Value.put (.text k) v t

/-- Change the last value of a list. -/
def changeLast? (change : Value → Option Value) : List Value → Option (List Value)
  | [] => none
  | [v] => (change v).map fun w => [w]
  | v :: vs => (changeLast? change vs).map (v :: ·)

/-- Change the table behind a key, which is made if it is not there. Lists of tables stand for
their last table if `throughLists` says so. -/
def within? (throughLists : Bool) (change : Table → Option Table) : Key → Table → Option Table
  | [], t => change t
  | k :: ks, t =>
    match t.get? k with
    | none => (within? throughLists change ks []).map fun u => t.set k (.map u)
    | some (.map u) => (within? throughLists change ks u).map fun u => t.set k (.map u)
    | some (.list vs) =>
      if throughLists then
        (changeLast? (fun v =>
          match v with
          | .map u => (within? throughLists change ks u).map .map
          | _ => none) vs).map fun vs => t.set k (.list vs)
      else none
    | some _ => none

/-- Add a key that is not there yet. -/
def add? (k : Text) (v : Value) (t : Table) : Option Table :=
  if (t.get? k).isSome then none else some (t.set k v)

/-- Add an empty table to a list of tables, which is made if it is not there. -/
def append? (k : Text) (t : Table) : Option Table :=
  match t.get? k with
  | none => some (t.set k (.list [.map []]))
  | some (.list vs) => some (t.set k (.list (vs ++ [.map []])))
  | some _ => none

end Table

/-- Which keys are closed. -/
structure Marks where
  /-- Values written in one piece, to which nothing can be added. -/
  frozen : List Key := []
  /-- Tables that no header may open again. -/
  opened : List Key := []
  /-- Tables made by dotted keys, which no header behind the next one may open. -/
  pending : List Key := []

namespace Marks

/-- Does the key lead into a value that is written in one piece? -/
def isFrozen (m : Marks) (k : Key) : Bool := m.frozen.any (·.isPrefixOf k)

/-- May no header open the key? -/
def isOpened (m : Marks) (k : Key) : Bool := m.opened.contains k

/-- Freeze a key. -/
def freeze (m : Marks) (k : Key) : Marks := { m with frozen := k :: m.frozen }

/-- Note that a key is open. -/
def opening (m : Marks) (k : Key) : Marks := { m with opened := k :: m.opened }

/-- Forget what is known of a key and the keys that lead through it. -/
def forget (m : Marks) (k : Key) : Marks :=
  { m with
    frozen := m.frozen.filter fun j => !k.isPrefixOf j
    opened := m.opened.filter fun j => !k.isPrefixOf j }

/-- A header begins: the tables made by dotted keys are closed. -/
def settle (m : Marks) : Marks := { m with opened := m.pending ++ m.opened, pending := [] }

end Marks

end Toml

end CommandManual
