import CommandManual.Toml.Number
import CommandManual.Toml.Table

/-!
# Values of a TOML text

A TOML text is a list of statements: entries, headers that open a table, and headers that add a
table to a list. Reading one carries the table filled so far along with the marks of its keys.

## Main definitions

* `value`: a value, with what follows it.
* `Reading`, `statement`: the state of reading, and one statement.
* `read`: the table of a text.
-/

namespace CommandManual

namespace Toml

/-- What can be read, or the fault that it cannot. -/
def orMalformed {α : Type} : Option α → Except Fault α
  | some a => .ok a
  | none => .error .malformed

/-- A value that is neither a list nor a table. -/
def simpleValue (t : Text) : Except Fault (Value × Text) :=
  match t with
  | '"' :: _ | '\'' :: _ => (orMalformed (string? true t)).map fun r => (.text r.1, r.2)
  | _ =>
    if t.startsWith "true".toList then .ok (.bool true, t.drop 4)
    else if t.startsWith "false".toList then .ok (.bool false, t.drop 5)
    else do
      match ← moment? t with
      | some r => return r
      | none => orMalformed (← number? t)

/-- How deep values may stand in each other, where a list counts twice and a table in curly brackets
three times. -/
def maxDepth : Nat := 986

/-- What is left of the room around a value when it takes some of it. -/
def roomFor (taken room : Nat) : Except Fault Nat :=
  if room < taken then .error .tooDeep else .ok (room - taken)

mutual

/-- A value, and what follows it. -/
def value : (fuel : Nat) → (room : Nat) → Text → Except Fault (Value × Text)
  | 0, _, _ => .error .malformed
  | fuel + 1, room, t =>
    match t with
    | '[' :: u => do
      let room ← roomFor 2 room
      let u ← orMalformed (skipLines? u)
      (items fuel room u).map fun r => (.list r.1, r.2)
    | '\x7b' :: u => do
      let room ← roomFor 3 room
      match skipBlanks u with
      | '\x7d' :: rest => return (.map [], rest)
      | u => (fields fuel room [] {} u).map fun r => (.map r.1, r.2)
    | _ => simpleValue t

/-- The items of a list from one on, and what follows the closing bracket. -/
def items : (fuel : Nat) → (room : Nat) → Text → Except Fault (List Value × Text)
  | 0, _, _ => .error .malformed
  | fuel + 1, room, t =>
    match t with
    | ']' :: rest => .ok ([], rest)
    | _ => do
      let (v, t) ← value fuel room t
      match ← orMalformed (skipLines? t) with
      | ']' :: rest => return ([v], rest)
      | ',' :: u =>
        let (vs, rest) ← items fuel room (← orMalformed (skipLines? u))
        return (v :: vs, rest)
      | _ => throw .malformed

/-- The entries of a table in curly brackets from one on, and what follows the closing bracket. -/
def fields (fuel room : Nat) (table : Table) (marks : Marks) (t : Text) :
    Except Fault (Table × Text) :=
  match fuel with
  | 0 => .error .malformed
  | fuel + 1 => do
    let (key, v, t) ← entry fuel room t
    if marks.isFrozen key then throw .malformed
    let add := Table.add? (key.getLast?.getD []) v
    let table ← orMalformed (table.within? false add key.dropLast)
    match skipBlanks t with
    | '\x7d' :: rest => return (table, rest)
    | ',' :: u =>
      let marks := match v with
        | .map _ | .list _ => marks.freeze key
        | _ => marks
      fields fuel room table marks (skipBlanks u)
    | _ => throw .malformed

/-- A key, an equals sign and a value. -/
def entry : (fuel : Nat) → (room : Nat) → Text → Except Fault (Key × Value × Text)
  | 0, _, _ => .error .malformed
  | fuel + 1, room, t => do
    match ← orMalformed (key? t) with
    | (key, '=' :: u) =>
      let (v, rest) ← value fuel room (skipBlanks u)
      return (key, v, rest)
    | _ => throw .malformed

end

/-- The state of reading statements. -/
structure Reading where
  table : Table := []
  marks : Marks := {}
  /-- The key of the header that the next entries stand under. -/
  header : Key := []

/-- Put an entry under the header. -/
def Reading.put (r : Reading) (key : Key) (v : Value) : Except Fault Reading := do
  let parts := (List.range (key.length - 1)).map fun i => r.header ++ key.take (i + 1)
  if parts.any r.marks.isOpened then throw .malformed
  let parent := r.header ++ key.dropLast
  if r.marks.isFrozen parent then throw .malformed
  let add := Table.add? (key.getLast?.getD []) v
  let table ← orMalformed (r.table.within? true add parent)
  let marks := { r.marks with pending := parts ++ r.marks.pending }
  let marks := match v with
    | .map _ | .list _ => marks.freeze (r.header ++ key)
    | _ => marks
  return { r with table, marks }

/-- Open a table. -/
def Reading.openTable (r : Reading) (key : Key) : Except Fault Reading := do
  let marks := r.marks.settle
  if marks.isOpened key || marks.isFrozen key then throw .malformed
  let table ← orMalformed (r.table.within? true some key)
  return { table, marks := marks.opening key, header := key }

/-- Add a table to a list of tables. -/
def Reading.openListed (r : Reading) (key : Key) : Except Fault Reading := do
  let marks := r.marks.settle
  if marks.isFrozen key then throw .malformed
  let append := Table.append? (key.getLast?.getD [])
  let table ← orMalformed (r.table.within? true append key.dropLast)
  return { table, marks := (marks.forget key).opening key, header := key }

/-- One statement that begins with a character, and what follows it. -/
def statement (r : Reading) (t : Text) : Except Fault (Reading × Text) :=
  match t with
  | '[' :: '[' :: u => do
    match ← orMalformed (key? (skipBlanks u)) with
    | (key, ']' :: ']' :: rest) => return (← r.openListed key, rest)
    | _ => throw .malformed
  | '[' :: u => do
    match ← orMalformed (key? (skipBlanks u)) with
    | (key, ']' :: rest) => return (← r.openTable key, rest)
    | _ => throw .malformed
  | '#' :: _ => .ok (r, t)
  | _ => do
    let (key, v, rest) ← entry (2 * t.length + 2) maxDepth t
    return (← r.put key v, rest)

/-- Read statements up to the end, at most `fuel` of them. -/
def statements : (fuel : Nat) → Reading → Text → Except Fault Table
  | 0, r, _ => .ok r.table
  | fuel + 1, r, t =>
    match skipBlanks t with
    | [] => .ok r.table
    | '\n' :: u => statements fuel r u
    | u => do
      let (r, u) ← statement r u
      match ← orMalformed (skipComment? (skipBlanks u)) with
      | [] => return r.table
      | '\n' :: rest => statements fuel r rest
      | _ => throw .malformed

/-- The table of a text. -/
def read (t : Text) : Except Fault Table :=
  let t := Text.normalizeReturns t
  statements (t.length + 1) {} t

end Toml

end CommandManual
