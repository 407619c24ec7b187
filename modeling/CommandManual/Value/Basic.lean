import CommandManual.Number.Binary64
import CommandManual.Text.Blank
import CommandManual.Value.Moment

/-!
# Data values

What a definition or configuration file holds once it is read, and what a flag can have as its
default: a value of the data formats, not yet checked against what the library expects there.

## Main definitions

* `Value`: the values.
* `Value.opened`: a value whose kind and parts can be looked at.
* `Value.kindName`: the name of a value's kind, as messages give it.
* `Value.isTruthy`: is the value anything but null, false, zero or empty?
* `Value.sameKey`: do two values name the same entry of a mapping?
* `Value.lookup`, `Value.put`: reading and writing a mapping's entry.

## Implementation notes

A file can say that a collection stands inside itself. Such collections refer to each other by their
places in a table that each of them carries along, and `Value.opened` gives one layer of them.
-/

namespace CommandManual

/-- A value of the data formats. A mapping keeps its entries in order. -/
inductive Value where
  | null
  | bool (b : Bool)
  | int (n : Int)
  | float (x : Binary64)
  | text (t : Text)
  | list (vs : List Value)
  | tuple (vs : List Value)
  | map (entries : List (Value × Value))
  | set (vs : List Value)
  | moment (m : Moment)
  | bytes (bs : List UInt8)
  /-- A function, whose result is not known before it is called. -/
  | function
  /-- A collection that stands inside itself: the one in a place of a table of collections. -/
  | ring (table : List Value) (place : Nat)
  /-- The collection in a place of the table, for those that are in the table themselves. -/
  | member (place : Nat)
  deriving Inhabited

namespace Value

/-! ### Collections that stand inside themselves -/

/-- A part of a collection of a table, to be looked at on its own. -/
def outside (table : List Value) : Value → Value
  | .member p => .ring table p
  | v => v

/-- The value with its kind and its parts in the open. -/
def opened : Value → Value
  | .ring table p =>
    match table[p]? with
    | some (.list vs) => .list (vs.map (outside table))
    | some (.tuple vs) => .tuple (vs.map (outside table))
    | some (.map es) => .map (es.map fun e => (outside table e.1, outside table e.2))
    | some v => v
    | none => .null
  | v => v

/-! ### Kinds -/

/-- The name of a kind. -/
def openKindName : Value → Text
  | .null => "NoneType".toList
  | .bool _ => "bool".toList
  | .int _ => "int".toList
  | .float _ => "float".toList
  | .text _ => "str".toList
  | .list _ => "list".toList
  | .tuple _ => "tuple".toList
  | .map _ => "dict".toList
  | .set _ => "set".toList
  | .moment (.date _) => "date".toList
  | .moment (.clock _) => "time".toList
  | .moment (.stamp ..) => "datetime".toList
  | .bytes _ => "bytes".toList
  | .function => "function".toList
  | .ring .. | .member _ => []

/-- The name of a value's kind. -/
def kindName (v : Value) : Text := v.opened.openKindName

/-- Is the value anything but null, false, zero or empty? -/
def isTruthy : Value → Bool
  | .null => false
  | .bool b => b
  | .int n => n != 0
  | .float x => !x.isZero
  | .text t => !t.isEmpty
  | .list vs | .tuple vs | .set vs => !vs.isEmpty
  | .map es => !es.isEmpty
  | .moment _ => true
  | .bytes bs => !bs.isEmpty
  | .function | .ring .. | .member _ => true

/-- The text that a value is, if it is one. -/
def text? : Value → Option Text
  | .text t => some t
  | _ => none

/-- The whole number a value counts as: truth values count as one and zero. -/
def asInt? : Value → Option Int
  | .bool b => some (if b then 1 else 0)
  | .int n => some n
  | .float x => x.toInt?
  | _ => none

mutual

/-- Do two values name the same entry of a mapping? Numbers do when they are equal, whatever
their kind, and moments when they are the same point of time. -/
def sameKey : Value → Value → Bool
  | .null, .null => true
  | .text s, .text t => s == t
  | .tuple vs, .tuple ws => sameKeys vs ws
  | .moment m, .moment n => m.same n
  | .bytes bs, .bytes cs => bs == cs
  | .float x, .float y => x.equals y
  | v, w =>
    match v.asInt?, w.asInt? with
    | some m, some n => m == n
    | _, _ => false

/-- Do two tuples agree item by item? -/
def sameKeys : List Value → List Value → Bool
  | [], [] => true
  | v :: vs, w :: ws => sameKey v w && sameKeys vs ws
  | _, _ => false

end

/-- The value of the first entry with a key. -/
def lookup (key : Value) : List (Value × Value) → Option Value
  | [] => none
  | (k, v) :: es => if sameKey k key then some v else lookup key es

/-- Set an entry: an existing one keeps its place and its key, a new one comes last. -/
def put (key value : Value) : List (Value × Value) → List (Value × Value)
  | [] => [(key, value)]
  | (k, v) :: es => if sameKey k key then (k, value) :: es else (k, v) :: put key value es

/-- The entries with later ones replacing earlier ones of the same key. -/
def dedupe (entries : List (Value × Value)) : List (Value × Value) :=
  entries.foldl (fun acc e => put e.1 e.2 acc) []

mutual

/-- Can the value be a key? Lists, mappings and sets cannot, nor can a tuple that holds one. -/
def isKey : Value → Bool
  | .list _ | .map _ | .set _ | .ring .. | .member _ => false
  | .tuple vs => areKeys vs
  | _ => true

/-- Can all of the values be keys? -/
def areKeys : List Value → Bool
  | [] => true
  | v :: vs => isKey v && areKeys vs

end

end Value

end CommandManual
