import CommandManual.Yaml.Graph
import CommandManual.Yaml.Token

/-!
# The document of a YAML text

The tokens of a text are put together to the graph of its nodes. Tokens are taken one by one, so
that a fault in the text behind them is met only where a reader comes to it.

## Main definitions

* `Reading`, `Reader`: the state of reading tokens, and a step of it.
* `Document`: a graph and its root. `document`: the only document of a source, if it has one.

## Implementation notes

A collection has its place in the table before its parts are read, and an anchor marks that place.
So an alias inside a collection can stand for the collection itself.
-/

namespace CommandManual

namespace Yaml

/-- The greatest number of collections that may stand around a node. -/
def maxDepth : Nat := 485

/-- The state of reading tokens. -/
structure Reading where
  tokens : List Token
  /-- The fault of asking for more than these tokens. -/
  fault : Option Fault := none
  /-- What the handles of tags stand for. -/
  handles : List (Text × Text) := []
  graph : Graph := {}
  /-- The places that anchors mark. -/
  anchors : List (Text × Nat) := []
  /-- The number of collections around the node that is read. -/
  depth : Nat := 0

/-- A step of reading tokens, which can fail. -/
abbrev Reader (α : Type) := StateT Reading (Except Fault) α

namespace Reader

/-- The tokens do not go together. -/
def refuse {α : Type} : Reader α := throw .malformed

/-- The next token; none at the end. -/
def peek : Reader (Option Token) := do
  let s ← get
  match s.tokens, s.fault with
  | t :: _, _ => return some t
  | [], some f => throw f
  | [], none => return none

/-- Go past the next token. -/
def skip : Reader Unit := modify fun s => { s with tokens := s.tokens.tail }

/-- Is the next token one of these? -/
def sees (ts : List Token) : Reader Bool := do return (← peek).any ts.contains

/-- Go past a token if it is the next one. -/
def accept (t : Token) : Reader Bool := do
  if ← sees [t] then skip; return true
  else return false

/-- Go past a token, which has to be the next one. -/
def expect (t : Token) : Reader Unit := do
  if !(← accept t) then refuse

/-- The place that an anchor marks. -/
def marked (name : Text) : Reader Nat := do
  match (← get).anchors.lookup name with
  | some i => return i
  | none => refuse

/-- Add a node, marked by an anchor if it has one. The name of an anchor must be new. -/
def add (anchor : Option Text) (n : Node) : Reader Nat := do
  let s ← get
  let i := s.graph.nodes.size
  if let some name := anchor then
    if (s.anchors.lookup name).isSome then refuse
  let anchors := (anchor.map fun name => (name, i)).toList ++ s.anchors
  modify fun s => { s with graph := s.graph.add n, anchors }
  return i

/-- The full name of a tag. -/
def fullName : TagName → Reader Text
  | .full uri => return uri
  | .short handle rest => do
    match (← get).handles.lookup handle with
    | some uri => return uri ++ rest
    | none => refuse

/-- The anchor in front of a node. -/
def anchor? : Reader (Option Text) := do
  match ← peek with
  | some (.anchor name) => skip; return some name
  | _ => return none

/-- The tag in front of a node. -/
def tag? : Reader (Option TagName) := do
  match ← peek with
  | some (.tag t) => skip; return some t
  | _ => return none

/-- The anchor and the tag in front of a node, in either order. -/
def properties : Reader (Option Text × Option TagName) := do
  match ← anchor? with
  | some a => return (some a, ← tag?)
  | none =>
    let t ← tag?
    if t.isSome then return (← anchor?, t) else return (none, none)

/-- The tag of a collection: the one that is written, else the one of its form. -/
def collectionTag (form : Tag) : Option Text → Tag
  | none => form
  | some uri => if uri = ['!'] then form else .ofUri uri

/-- The tag of a scalar. The tag `!` asks for the tag of a plain scalar. -/
def scalarTag (isPlain : Bool) (t : Text) : Option Text → Tag
  | none => if isPlain then .ofPlain t else .str
  | some uri => if uri = ['!'] then .ofPlain t else .ofUri uri

/-- Read the parts of a collection, whose place is taken before. -/
def collection (anchor : Option Text) (read : Reader Node) : Reader Nat := do
  let i ← add anchor .empty
  modify fun s => { s with depth := s.depth + 1 }
  let n ← read
  modify fun s => { s with graph := s.graph.set i n, depth := s.depth - 1 }
  return i

mutual

/-- A node with its anchor and tag. Collections of blocks are allowed only if `block` says so, and
a sequence without an indentation of its own only if `flush` does. -/
def node (block flush : Bool) : (fuel : Nat) → Reader Nat
  | 0 => refuse
  | fuel + 1 => do
    if maxDepth < (← get).depth then throw .tooDeep
    match ← peek with
    | some (.alias name) => skip; marked name
    | _ =>
      let (anchor, written) ← properties
      let tag ← written.mapM fullName
      let sequence (items : Reader (List Nat)) : Reader Nat :=
        collection anchor do return .sequence (collectionTag .seq tag) (← items)
      let mapping (entries : Reader (List (Nat × Nat))) : Reader Nat :=
        collection anchor do return .mapping (collectionTag .map tag) (← entries)
      match ← peek with
      | some (.scalar t isPlain) => skip; add anchor (.scalar (scalarTag isPlain t tag) t)
      | some .openSequence => skip; sequence (flowItems true fuel)
      | some .openMapping => skip; mapping (flowEntries true fuel)
      | some .openBlockSequence =>
        if !block then refuse
        skip; sequence (blockItems fuel)
      | some .openBlockMapping =>
        if !block then refuse
        skip; mapping (blockEntries fuel)
      | next =>
        if next = some .item && flush then sequence (flushItems fuel)
        else if anchor.isSome || tag.isSome then
          add anchor (.scalar (scalarTag true [] tag) [])
        else refuse

/-- A node, or nothing in front of one of some tokens. -/
def nodeUnless (stops : List Token) (block flush : Bool) : (fuel : Nat) → Reader Nat
  | 0 => refuse
  | fuel + 1 => do
    if ← sees stops then add none .empty
    else node block flush fuel

/-- The items of a block. -/
def blockItems : (fuel : Nat) → Reader (List Nat)
  | 0 => refuse
  | fuel + 1 => do
    if ← accept .item then
      let n ← nodeUnless [.item, .closeBlock] true false fuel
      return n :: (← blockItems fuel)
    else
      expect .closeBlock
      return []

/-- The items of a sequence without an indentation of its own. -/
def flushItems : (fuel : Nat) → Reader (List Nat)
  | 0 => refuse
  | fuel + 1 => do
    if ← accept .item then
      let n ← nodeUnless [.item, .key, .value, .closeBlock] true false fuel
      return n :: (← flushItems fuel)
    else return []

/-- The entries of a block. -/
def blockEntries : (fuel : Nat) → Reader (List (Nat × Nat))
  | 0 => refuse
  | fuel + 1 => do
    if ← accept .key then
      let k ← nodeUnless [.key, .value, .closeBlock] true true fuel
      let v ←
        if ← accept .value then nodeUnless [.key, .value, .closeBlock] true true fuel
        else add none .empty
      return (k, v) :: (← blockEntries fuel)
    else
      expect .closeBlock
      return []

/-- The items between square brackets. An item can be a single entry of a mapping. -/
def flowItems (first : Bool) : (fuel : Nat) → Reader (List Nat)
  | 0 => refuse
  | fuel + 1 => do
    if ← accept .closeSequence then return []
    if !first then
      expect .comma
      if ← accept .closeSequence then return []
    let n ←
      if ← accept .key then
        collection none do
          let k ← nodeUnless [.value, .comma, .closeSequence] false false fuel
          let v ←
            if ← accept .value then nodeUnless [.comma, .closeSequence] false false fuel
            else add none .empty
          return .mapping .map [(k, v)]
      else node false false fuel
    return n :: (← flowItems false fuel)

/-- The entries between curly brackets. A node alone is a key. -/
def flowEntries (first : Bool) : (fuel : Nat) → Reader (List (Nat × Nat))
  | 0 => refuse
  | fuel + 1 => do
    if ← accept .closeMapping then return []
    if !first then
      expect .comma
      if ← accept .closeMapping then return []
    let e ←
      if ← accept .key then
        let k ← nodeUnless [.value, .comma, .closeMapping] false false fuel
        let v ←
          if ← accept .value then nodeUnless [.comma, .closeMapping] false false fuel
          else add none .empty
        pure (k, v)
      else
        let k ← node false false fuel
        pure (k, ← add none .empty)
    return e :: (← flowEntries false fuel)

end

/-- The directives in front of a document, at most `fuel` of them. Each stands at most once, and
some set the handles of tags. -/
def directives (versioned : Bool) : (fuel : Nat) → Reader Unit
  | 0 => return ()
  | fuel + 1 => do
    match ← peek with
    | some (.directive d) => do
      skip
      match d with
      | .version major =>
        if versioned || major ≠ 1 then refuse
        directives true fuel
      | .handle handle uri =>
        if ((← get).handles.lookup handle).isSome then refuse
        modify fun s => { s with handles := (handle, uri) :: s.handles }
        directives versioned fuel
      | .other => directives versioned fuel
    | _ => return ()

/-- The directives of a document and the line that starts it. -/
def openDocument : Reader Unit := do
  modify fun s => { s with handles := [] }
  directives false ((← get).tokens.length + 1)
  expect .documentStart

/-- The handles that need no directive. -/
def standardHandles : List (Text × Text) :=
  [(['!'], ['!']), ("!!".toList, Tag.namespaceUri)]

/-- Go past the lines that end a document. -/
def skipEnds : (fuel : Nat) → Reader Unit
  | 0 => return ()
  | fuel + 1 => do if ← accept .documentEnd then skipEnds fuel

/-- The root of the only document of some tokens, if there is one. -/
def document (fuel : Nat) : Reader (Option Nat) := do
  let some first ← peek | return none
  let explicit := match first with
    | .directive _ | .documentStart => true
    | _ => false
  if explicit then openDocument
  modify fun s => { s with handles := s.handles ++ standardHandles }
  let next ← peek
  let isEmpty := match next with
    | none | some .documentStart | some .documentEnd | some (.directive _) => true
    | _ => false
  let root ← if explicit && isEmpty then add none .empty else node true false fuel
  skipEnds fuel
  if (← peek).isSome then openDocument; refuse
  return some root

end Reader

/-- A graph of nodes and the place of its root. -/
structure Document where
  graph : Graph
  root : Nat

/-- The only document of a source, if it has one. -/
def document (s : Source) : Except Fault (Option Document) := do
  let scanned := tokens s
  let (root, r) ← (Reader.document (4 * scanned.tokens.length + 4)).run
    { tokens := scanned.tokens, fault := scanned.fault }
  return root.map fun i => ⟨r.graph, i⟩

end Yaml

end CommandManual
