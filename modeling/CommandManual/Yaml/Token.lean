import CommandManual.Text.Utf8
import CommandManual.Yaml.Scalar
import CommandManual.Yaml.Source

/-!
# Tokens of a YAML text

A YAML text is first cut into tokens. Outside of brackets the indentation of lines opens and
closes collections, so the tokens include the beginnings and ends of blocks, which no character of
the text stands for.

## Main definitions

* `Token`, `TagName`, `Directive`: the tokens and their parts.
* `Layout`: the state of reading: the cursor, the open blocks and brackets, and the tokens so far.
* `Scanned`: tokens, and the fault behind them. `tokens`: those of a source.

## Implementation notes

That a scalar is a mapping's key shows only when a colon follows it. Where a key may begin, the
layout remembers a `Candidate`; the colon then puts the key's token, and perhaps the beginning of
a block, in front of what was read in between.

A fault is met only when a token behind it is asked for. The tokens in front of it that are certain
are given out before, so that a fault in how they follow one another comes first.
-/

namespace CommandManual

namespace Yaml

/-- A tag as it is written. -/
inductive TagName where
  | full (uri : Text)
  /-- A handle, which stands for the beginning of the tag, and the rest of it. -/
  | short (handle rest : Text)
  deriving DecidableEq, Repr

/-- A line in front of a document. -/
inductive Directive where
  | version (major : Nat)
  | handle (handle uri : Text)
  | other
  deriving DecidableEq, Repr

/-- A token of a YAML text. -/
inductive Token where
  | directive (d : Directive)
  | documentStart
  | documentEnd
  | openBlockSequence
  | openBlockMapping
  | closeBlock
  | openSequence
  | closeSequence
  | openMapping
  | closeMapping
  | comma
  | item
  | key
  | value
  | alias (name : Text)
  | anchor (name : Text)
  | tag (t : TagName)
  | scalar (t : Text) (isPlain : Bool)
  deriving DecidableEq, Repr, Inhabited

/-! ### Names, tags and directives -/

/-- A name that is not empty. -/
def name? (c : Cursor) : Option (Text × Cursor) :=
  match c.span isNameChar with
  | ([], _) => none
  | r => some r

/-- The name of an anchor or alias, the cursor behind its mark. -/
def anchorName? (c : Cursor) : Option (Text × Cursor) := do
  let (name, d) ← name? c
  let ends := endsItem d.peek || d.peek.any fun ch =>
    ch = '?' || ch = ':' || ch = ',' || ch = ']' || ch = '\x7d' || ch = '%' || ch = '@' || ch = '\x60'
  if ends then some (name, d) else none

/-- A character of a tag, percent signs aside. -/
def isUriChar (c : Char) : Bool := c.isAlphanum || "-;/?:@&=+$,_.!~*'()[]".toList.contains c

/-- The bytes that percent signs spell. -/
def percentBytes : Text → Option (List UInt8 × Text)
  | '%' :: a :: b :: t =>
    if isHexDigit a && isHexDigit b then
      (percentBytes t).map fun r => (UInt8.ofNat (hexNumber [a, b]) :: r.1, r.2)
    else none
  | '%' :: _ => none
  | t => some ([], t)

/-- The characters of a tag, at most `fuel` parts of it, and what follows them. -/
def uriFrom : (fuel : Nat) → Text → Option (Text × Text)
  | 0, t => some ([], t)
  | fuel + 1, t =>
    match t with
    | '%' :: _ => do
      let (bytes, rest) ← percentBytes t
      let part ← (Utf8.decode bytes).toOption
      (uriFrom fuel rest).map fun r => (part ++ r.1, r.2)
    | ch :: rest =>
      if isUriChar ch then (uriFrom fuel rest).map fun r => (ch :: r.1, r.2) else some ([], t)
    | [] => some ([], [])

/-- The characters of a tag, at least one. -/
def uri? (c : Cursor) : Option (Text × Cursor) := do
  let (uri, rest) ← uriFrom c.rest.length c.rest
  if rest.length = c.rest.length then none
  else some (uri, c.advance (c.rest.length - rest.length))

/-- A handle: an exclamation mark alone, or two with a name between them that may be empty. -/
def handle? (c : Cursor) : Option (Text × Cursor) :=
  if c.peek ≠ some '!' then none
  else if c.next.peek = some ' ' then some (['!'], c.next)
  else
    let (name, d) := c.next.span isNameChar
    if d.peek = some '!' then some ('!' :: name ++ ['!'], d.next) else none

/-- A tag, the cursor at its exclamation mark. -/
def tagName? (c : Cursor) : Option (TagName × Cursor) := do
  let (tag, d) ←
    if c.next.peek = some '<' then do
      let (uri, d) ← uri? (c.advance 2)
      if d.peek = some '>' then some (TagName.full uri, d.next) else none
    else if endsItem c.next.peek then some (TagName.full ['!'], c.next)
    else if (c.rest.tail.takeWhile fun ch => !endsWord (some ch)).contains '!' then do
      let (handle, d) ← handle? c
      let (rest, e) ← uri? d
      some (TagName.short handle rest, e)
    else do
      let (rest, d) ← uri? c.next
      some (TagName.short ['!'] rest, d)
  if endsWord d.peek then some (tag, d) else none

/-- A whole number. -/
def digits? (c : Cursor) : Option (Nat × Cursor) :=
  match c.span Char.isDigit with
  | ([], _) => none
  | (ds, d) => some (ds.foldl (fun n ch => 10 * n + (ch.toNat - 48)) 0, d)

/-- A directive, the cursor behind its percent sign. -/
def directive? (c : Cursor) : Option (Directive × Cursor) := do
  let (name, c) ← name? c
  if !endsWord c.peek then none
  let (directive, c) ←
    if name = "YAML".toList then do
      let (major, c) ← digits? c.skipSpaces
      if c.peek ≠ some '.' then none
      let (_, c) ← digits? c.next
      if !endsWord c.peek then none
      some (Directive.version major, c)
    else if name = "TAG".toList then do
      let (handle, c) ← handle? c.skipSpaces
      if c.peek ≠ some ' ' then none
      let (uri, c) ← uri? c.skipSpaces
      if !endsWord c.peek then none
      some (Directive.handle handle uri, c)
    else some (Directive.other, c.skipLine)
  let c := c.skipSpaces.skipComment
  if endsLine c.peek then some (directive, (c.lineBreak?.map Prod.snd).getD c) else none

/-! ### The state of reading -/

/-- A place where the key of a mapping may begin. -/
structure Candidate where
  /-- How many brackets are open there. -/
  depth : Nat
  /-- How many tokens stand in front of it. -/
  position : Nat
  /-- Nothing but a key can stand there. -/
  required : Bool
  cursor : Cursor

/-- The state of reading tokens. -/
structure Layout where
  cursor : Cursor
  /-- The fault of going on behind the text, if it does not end there. -/
  beyond : Option Fault := none
  tokens : Array Token := #[]
  /-- The column of the innermost open block; `-1` when none is open. -/
  indent : Int := -1
  /-- The columns of the blocks around it. -/
  outer : List Int := []
  /-- How many brackets are open. -/
  depth : Nat := 0
  /-- May a key begin at the cursor? -/
  keyAllowed : Bool := true
  /-- The places where a key may have begun, at most one for each depth. -/
  candidates : List Candidate := []

namespace Layout

/-- Add a token. -/
def emit (s : Layout) (t : Token) : Layout := { s with tokens := s.tokens.push t }

/-- Move the cursor. -/
def goTo (s : Layout) (c : Cursor) : Layout := { s with cursor := c }

/-- Allow a key at the cursor, or not. -/
def allowKey (s : Layout) (b : Bool) : Layout := { s with keyAllowed := b }

/-- Drop the candidates of a kind, none of which may be required. -/
def drop (s : Layout) (p : Candidate → Bool) : Except Fault Layout :=
  if s.candidates.any fun k => p k && k.required then .error .malformed
  else .ok { s with candidates := s.candidates.filter (!p ·) }

/-- Drop the candidates that are too far away: a key stands on one line and has at most 1024
characters. -/
def dropStale (s : Layout) : Except Fault Layout :=
  s.drop fun k => k.cursor.line ≠ s.cursor.line || 1024 < s.cursor.index - k.cursor.index

/-- Drop the candidate between the innermost brackets. -/
def dropCandidate (s : Layout) : Except Fault Layout := s.drop (·.depth = s.depth)

/-- Remember that a key may begin at the cursor. -/
def addCandidate (s : Layout) : Except Fault Layout :=
  if s.keyAllowed then do
    let s ← s.dropCandidate
    let k : Candidate :=
      { depth := s.depth, position := s.tokens.size, cursor := s.cursor
        required := s.depth = 0 && s.indent = s.cursor.column }
    return { s with candidates := k :: s.candidates }
  else .ok s

/-- Open a block at a column, if it lies to the right of the open ones. The token that says so
goes in front of the token numbered `position`. -/
def openBlock (s : Layout) (t : Token) (column position : Nat) : Layout :=
  if s.indent < column then
    { s with
      indent := column
      outer := s.indent :: s.outer
      tokens := s.tokens.insertIdxIfInBounds position t }
  else s

/-- Close the blocks to the right of a column. -/
def closeBlocksFrom (column : Int) (indent : Int) (tokens : Array Token) :
    List Int → Int × List Int × Array Token
  | [] => (indent, [], tokens)
  | outer :: rest =>
    if column < indent then closeBlocksFrom column outer (tokens.push .closeBlock) rest
    else (indent, outer :: rest, tokens)

/-- Close the blocks to the right of a column, unless a bracket is open. -/
def closeBlocks (s : Layout) (column : Int) : Layout :=
  if s.depth = 0 then
    let (indent, outer, tokens) := closeBlocksFrom column s.indent s.tokens s.outer
    { s with indent, outer, tokens }
  else s

/-- Skip spaces, comments and the ends of lines, after which a key may begin outside of brackets;
at most `fuel` lines. -/
def skipBlank : (fuel : Nat) → Layout → Layout
  | 0, s => s
  | fuel + 1, s =>
    let c := s.cursor.skipSpaces.skipComment
    match c.lineBreak? with
    | some (_, d) => skipBlank fuel { s with cursor := d, keyAllowed := s.keyAllowed || s.depth = 0 }
    | none => s.goTo c

/-- Go to the next token. A byte order mark in front of the text is skipped. -/
def seek (s : Layout) : Layout :=
  let c := s.cursor
  let c := if c.index = 0 && c.peek = some '\uFEFF' then c.next else c
  skipBlank (c.rest.length + 1) (s.goTo c)

/-! ### Reading one token -/

/-- What can be read, or the fault that it cannot. -/
def orMalformed {α : Type} : Option α → Except Fault α
  | some a => .ok a
  | none => .error .malformed

/-- A line that starts or ends a document, or a directive. -/
def outermost (s : Layout) (t : Token) (c : Cursor) : Except Fault Layout := do
  let s ← (s.closeBlocks (-1)).dropCandidate
  return ((s.allowKey false).goTo c).emit t

/-- An opening bracket. -/
def openBracket (s : Layout) (t : Token) : Except Fault Layout := do
  let s ← s.addCandidate
  return { (s.goTo s.cursor.next).emit t with depth := s.depth + 1, keyAllowed := true }

/-- A closing bracket. -/
def closeBracket (s : Layout) (t : Token) : Except Fault Layout :=
  if s.depth = 0 then .error .malformed
  else do
    let s ← s.dropCandidate
    return { (s.goTo s.cursor.next).emit t with depth := s.depth - 1, keyAllowed := false }

/-- A comma between brackets. -/
def comma (s : Layout) : Except Fault Layout := do
  let s ← s.dropCandidate
  return ((s.allowKey true).goTo s.cursor.next).emit .comma

/-- The mark of a sequence's item. -/
def item (s : Layout) : Except Fault Layout :=
  if s.depth = 0 && !s.keyAllowed then .error .malformed
  else do
    let s := if s.depth = 0 then s.openBlock .openBlockSequence s.cursor.column s.tokens.size else s
    let s ← s.dropCandidate
    return ((s.allowKey true).goTo s.cursor.next).emit .item

/-- The mark of a key. -/
def key (s : Layout) : Except Fault Layout :=
  if s.depth = 0 && !s.keyAllowed then .error .malformed
  else do
    let s := if s.depth = 0 then s.openBlock .openBlockMapping s.cursor.column s.tokens.size else s
    let s ← s.dropCandidate
    return ((s.allowKey (s.depth = 0)).goTo s.cursor.next).emit .key

/-- The mark of a value. If a key may have begun before it on the line, it did. -/
def value (s : Layout) : Except Fault Layout :=
  match s.candidates.find? (·.depth = s.depth) with
  | some k =>
    let s := { s with
      candidates := s.candidates.filter (·.depth ≠ s.depth)
      tokens := s.tokens.insertIdxIfInBounds k.position .key }
    let s := if s.depth = 0 then s.openBlock .openBlockMapping k.cursor.column k.position else s
    .ok (((s.allowKey false).goTo s.cursor.next).emit .value)
  | none =>
    if s.depth = 0 && !s.keyAllowed then .error .malformed
    else
      let s :=
        if s.depth = 0 then s.openBlock .openBlockMapping s.cursor.column s.tokens.size else s
      .ok (((s.allowKey (s.depth = 0)).goTo s.cursor.next).emit .value)

/-- A token that can begin a key: its mark has been looked at, and `c` is the place behind it. -/
def leaf (s : Layout) (read : Except Fault (Token × Cursor)) : Except Fault Layout := do
  let s ← s.addCandidate
  let (t, c) ← read
  return ((s.allowKey false).goTo c).emit t

/-- A literal or folded block. -/
def blockScalar (s : Layout) (folded : Bool) : Except Fault Layout := do
  let s ← (s.allowKey true).dropCandidate
  let (t, c) ← block folded s.indent s.cursor.next
  return (s.goTo c).emit (.scalar t false)

/-- A plain scalar. A key may begin behind it if the line ends there. -/
def plainScalar (s : Layout) : Except Fault Layout := do
  let s ← s.addCandidate
  let (t, crossesLine, c) := plain (s.depth ≠ 0) s.indent s.cursor
  return ((s.allowKey crossesLine).goTo c).emit (.scalar t true)

/-- Can a plain scalar begin with these characters? -/
def beginsPlain (flow : Bool) (ch : Char) (after : Option Char) : Bool :=
  !(endsItem (some ch) || "-?:,[]\x7b\x7d#&*!|>'\"%@\x60".toList.contains ch)
    || (!endsItem after && (ch = '-' || (!flow && (ch = '?' || ch = ':'))))

/-- Read the token that begins with a character. -/
def token (s : Layout) (ch : Char) : Except Fault Layout :=
  let c := s.cursor
  let flow := s.depth ≠ 0
  let ends := endsItem c.next.peek
  if ch = '%' && c.column = 0 then do
    let (d, c) ← orMalformed (directive? c.next)
    s.outermost (.directive d) c
  else if c.column = 0 && c.atTriple '-' then s.outermost .documentStart (c.advance 3)
  else if c.column = 0 && c.atTriple '.' then s.outermost .documentEnd (c.advance 3)
  else if ch = '[' then s.openBracket .openSequence
  else if ch = '\x7b' then s.openBracket .openMapping
  else if ch = ']' then s.closeBracket .closeSequence
  else if ch = '\x7d' then s.closeBracket .closeMapping
  else if ch = ',' then s.comma
  else if ch = '-' && ends then s.item
  else if ch = '?' && (flow || ends) then s.key
  else if ch = ':' && (flow || ends) then s.value
  else if ch = '*' then
    s.leaf (orMalformed ((anchorName? c.next).map fun r => (.alias r.1, r.2)))
  else if ch = '&' then
    s.leaf (orMalformed ((anchorName? c.next).map fun r => (.anchor r.1, r.2)))
  else if ch = '!' then s.leaf (orMalformed ((tagName? c).map fun r => (.tag r.1, r.2)))
  else if ch = '|' && !flow then s.blockScalar false
  else if ch = '>' && !flow then s.blockScalar true
  else if ch = '\'' || ch = '"' then
    s.leaf ((quoted (s.beyond.getD .malformed) (ch = '"') c.next).map fun r =>
      (.scalar r.1 false, r.2))
  else if beginsPlain flow ch c.next.peek then s.plainScalar
  else .error .malformed

/-- The tokens that are certain: those in front of all places where a key may have begun. -/
def certain (s : Layout) : List Token :=
  s.tokens.toList.take ((s.candidates.map (·.position)).foldl min s.tokens.size)

/-- A step up to the next token, or to the end of the text if there is none. -/
def step (s : Layout) : Except Fault (Layout × Bool) := do
  let s ← s.seek.dropStale
  match s.cursor.peek, s.beyond with
  | none, some f => throw f
  | none, none => return (← (s.closeBlocks (-1)).dropCandidate, true)
  | some ch, beyond =>
    let s ← (s.closeBlocks s.cursor.column).token ch
    match beyond with
    | some f => if s.cursor.rest.length ≤ 1 then throw f
    | none => pure ()
    return (s, false)

end Layout

/-- Tokens, and the fault of asking for more than these. -/
structure Scanned where
  tokens : List Token
  fault : Option Fault := none

/-- Read tokens up to the end of the text, at most `fuel` of them. -/
def Layout.run : (fuel : Nat) → Layout → Scanned
  | 0, s => ⟨s.certain, some .malformed⟩
  | fuel + 1, s =>
    match s.step with
    | .error f => ⟨s.certain, some f⟩
    | .ok (s, true) => ⟨s.tokens.toList, none⟩
    | .ok (s, false) => run fuel s

/-- The tokens of a source that has no carriage returns. -/
def tokens (s : Source) : Scanned :=
  Layout.run (s.text.length + 1) { cursor := { rest := s.text }, beyond := s.fault }

end Yaml

end CommandManual
