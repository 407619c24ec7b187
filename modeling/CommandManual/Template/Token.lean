import CommandManual.Text.Blank
import CommandManual.Text.Identifier

/-!
# Tokens of a template

A template is plain text with tags in it: `\x7b\x7b … \x7d\x7d` around an expression,
`\x7b% … %\x7d` around a statement and `\x7b# … #\x7d` around a comment. A hyphen inside a tag's
mark removes the blanks on the other side of it.

## Main definitions

* `Token`, `Located`: a token, and one with the line it begins on.
* `tokens`: the tokens of a template.

## Implementation notes

Where no token can be read, the list ends with `Token.invalid`. A reader of tokens so meets an
earlier fault of its own first.
-/

namespace CommandManual

namespace Template

/-- A token of a template. -/
inductive Token where
  /-- Text outside of tags. -/
  | data (t : Text)
  | openPrint
  | closePrint
  | openBlock
  | closeBlock
  | name (t : Text)
  | string (t : Text)
  | int (n : Nat)
  | sign (t : Text)
  /-- A place where no token can be read. -/
  | invalid
  /-- The end of the template. -/
  | stop
  deriving DecidableEq, Repr

/-- A token and the line that it begins on. -/
structure Located where
  line : Nat
  token : Token
  deriving DecidableEq, Repr

/-- The number of newlines in a text. -/
def newlines (t : Text) : Nat := t.count '\n'

/-! ### Outside of tags -/

/-- The kinds of tag. -/
inductive Tag where
  | print
  | block
  | comment
  deriving DecidableEq, Repr

/-- The tag that the second character of a mark names. -/
def Tag.ofChar? (c : Char) : Option Tag :=
  if c = '\x7b' then some .print
  else if c = '%' then some .block
  else if c = '#' then some .comment
  else none

/-- The text in front of the first tag, the tag, and what follows its mark. -/
def splitTag : Text → Text × Option (Tag × Text)
  | [] => ([], none)
  | c :: t =>
    match if c = '\x7b' then t.head?.bind Tag.ofChar? else none with
    | some tag => ([], some (tag, t.tail))
    | none => let r := splitTag t; (c :: r.1, r.2)

/-- The hyphen or plus sign that may follow a mark: does it remove blanks, and what follows. -/
def splitModifier : Text → Bool × Text
  | '-' :: t => (true, t)
  | '+' :: t => (false, t)
  | t => (false, t)

/-- What follows the end of a comment, and the newlines up to there. -/
def skipComment : Text → Option (Nat × Text)
  | [] => none
  | c :: t =>
    if c = '#' && t.head? = some '\x7d' then some (0, t.tail)
    else if c = '-' && t.head? = some '#' && t.tail.head? = some '\x7d' then
      let after := t.tail.tail
      some (newlines (after.takeWhile isBlank), after.dropWhile isBlank)
    else (skipComment t).map fun r => (r.1 + (if c = '\n' then 1 else 0), r.2)

/-! ### Inside of tags -/

/-- The body of a quoted text and what follows its closing quote. A backslash keeps the character
behind it from closing the text. -/
def splitString (quote : Char) : Text → Option (Text × Text)
  | [] => none
  | '\\' :: c :: t => (splitString quote t).map fun r => ('\\' :: c :: r.1, r.2)
  | c :: t => if c = quote then some ([], t) else (splitString quote t).map fun r => (c :: r.1, r.2)

/-- A quoted text without the backslashes of its escapes. -/
def unescape : Text → Text
  | '\\' :: 'n' :: t => '\n' :: unescape t
  | '\\' :: 't' :: t => '\t' :: unescape t
  | '\\' :: c :: t => c :: unescape t
  | c :: t => c :: unescape t
  | [] => []

/-- The signs, longer ones first. -/
def signs : List Text :=
  ["//", "**", "==", "!=", ">=", "<=", "+", "-", "/", "*", "%", "~", "[", "]", "(", ")", "\x7b",
    "\x7d", ">", "<", "=", ".", ":", "|", ",", ";"].map String.toList

/-- The mark that closes a tag, and what follows it with the blanks that it removes. The mark of a
statement may have a plus sign, which removes nothing. -/
def splitClose (tag : Tag) (t : Text) : Option (Text × Text) :=
  let mark : Text := if tag = .print then ['\x7d', '\x7d'] else ['%', '\x7d']
  if t.startsWith mark then some (mark, t.drop 2)
  else if tag = .block && t.startsWith ('+' :: mark) then some ('+' :: mark, t.drop 3)
  else if t.startsWith ('-' :: mark) then
    let after := t.drop 3
    some ('-' :: mark ++ after.takeWhile isBlank, after.dropWhile isBlank)
  else none

/-- The closing bracket that an opening bracket asks for. -/
def closingOf (c : Text) : Option Text :=
  if c = ['('] then some [')']
  else if c = ['['] then some [']']
  else if c = ['\x7b'] then some ['\x7d']
  else none

/-- Is the sign a closing bracket? -/
def isClosing (c : Text) : Bool := c = [')'] || c = [']'] || c = ['\x7d']

/-- Where the reader of a template stands. -/
inductive Place where
  | outside
  /-- Inside a tag, with the closing brackets that are owed. -/
  | inside (tag : Tag) (owed : List Text)

/-- One step of the reader: tokens, and unless the template ends here the new place, the line and
the rest of the template. -/
structure Step where
  tokens : List Located
  next : Option (Place × Nat × Text)

/-- A step outside of tags. A comment has to end, unless the template ends where it begins. -/
def stepOutside (line : Nat) (t : Text) : Step :=
  match splitTag t with
  | (before, none) => ⟨if before.isEmpty then [] else [⟨line, .data before⟩], none⟩
  | (before, some (tag, after)) =>
    let (strips, rest) := splitModifier after
    let kept := if strips then Text.trimEnd isBlank before else before
    let data : List Located := if kept.isEmpty then [] else [⟨line, .data kept⟩]
    let line := line + newlines before
    match tag with
    | .print => ⟨data ++ [⟨line, .openPrint⟩], some (.inside .print [], line, rest)⟩
    | .block => ⟨data ++ [⟨line, .openBlock⟩], some (.inside .block [], line, rest)⟩
    | .comment =>
      match skipComment rest with
      | none => ⟨data ++ (if rest.isEmpty then [] else [⟨line, .invalid⟩]), none⟩
      | some (n, rest) => ⟨data, some (.outside, line + n, rest)⟩

/-- A step inside a tag, at a character that is not blank. -/
def stepToken (tag : Tag) (owed : List Text) (line : Nat) (t : Text) : Step :=
  match (if owed.isEmpty then splitClose tag t else none) with
  | some (mark, rest) =>
    let close := if tag = .print then Token.closePrint else .closeBlock
    ⟨[⟨line, close⟩], some (.outside, line + newlines mark, rest)⟩
  | none =>
    let stay (owed : List Text) (tok : Token) (used rest : Text) : Step :=
      ⟨[⟨line, tok⟩], some (.inside tag owed, line + newlines used, rest)⟩
    let word := t.takeWhile isNameChar
    match t with
    | [] => ⟨[], none⟩
    | c :: rest =>
      if c.isDigit then
        let ds := t.takeWhile Char.isDigit
        stay owed (.int (ds.foldl (fun n d => 10 * n + (d.toNat - 48)) 0)) ds (t.drop ds.length)
      else if !word.isEmpty then
        if Text.isIdentifier word then stay owed (.name word) word (t.drop word.length)
        else ⟨[⟨line, .invalid⟩], none⟩
      else if c = '\'' || c = '"' then
        match splitString c rest with
        | some (body, after) => stay owed (.string (unescape body)) body after
        | none => ⟨[⟨line, .invalid⟩], none⟩
      else match signs.find? fun s => t.startsWith s with
        | none => ⟨[⟨line, .invalid⟩], none⟩
        | some s =>
          if isClosing s then
            if owed.head? = some s then stay owed.tail (.sign s) s (t.drop s.length)
            else ⟨[⟨line, .invalid⟩], none⟩
          else stay ((closingOf s).toList ++ owed) (.sign s) s (t.drop s.length)

/-- The tokens from a place on. Every step shortens the template, so as many steps as it has
characters, and one more, suffice. -/
def tokensFrom : (steps : Nat) → Place → (line : Nat) → Text → List Located
  | 0, _, line, _ => [⟨line, .invalid⟩]
  | steps + 1, place, line, t =>
    let step := match place with
      | .outside => stepOutside line t
      | .inside tag owed =>
        let blanks := t.takeWhile isBlank
        stepToken tag owed (line + newlines blanks) (t.drop blanks.length)
    match step.next with
    | none => step.tokens
    | some (place, line, rest) => step.tokens ++ tokensFrom steps place line rest

/-- Every spelling of a line end becomes the newline. -/
def normalizeLineEnds : Text → Text
  | '\r' :: '\n' :: t => '\n' :: normalizeLineEnds t
  | '\r' :: t => '\n' :: normalizeLineEnds t
  | c :: t => c :: normalizeLineEnds t
  | [] => []

/-- The tokens of a template. The last one is `Token.stop`, on the line of the token before it, or
`Token.invalid`. -/
def tokens (template : Text) : List Located :=
  let t := normalizeLineEnds template
  let ts := tokensFrom (t.length + 1) .outside 1 t
  let line := (ts.getLast?.map (·.line)).getD 1
  if ts.getLast?.map (·.token) = some .invalid then ts else ts ++ [⟨line, .stop⟩]

end Template

end CommandManual
