import CommandManual.Text.Quoted

/-!
# Texts and keys of a TOML text

The four ways to write a text, in single or double quotes and on one line or several, and the
dotted keys of entries and tables. Every reader gives back what it has read and what follows.

## Main definitions

* `string?`: a text in quotes.
* `key?`: a dotted key.
* `skipBlanks`, `skipComment?`, `skipLines?`: what may stand between things.
-/

namespace CommandManual

namespace Toml

/-- A space or a tab. -/
def isGap (c : Char) : Bool := c = ' ' || c = '\t'

/-- A control character that may not occur in texts and comments. -/
def isControl (c : Char) : Bool := (c.toNat < 0x20 && c ≠ '\t') || c.toNat = 0x7F

/-- The text behind spaces and tabs. -/
def skipBlanks (t : Text) : Text := t.dropWhile isGap

/-- The text behind a comment, if one begins here. -/
def skipComment? : Text → Option Text
  | '#' :: t =>
    if (t.takeWhile (· ≠ '\n')).any isControl then none else some (t.dropWhile (· ≠ '\n'))
  | t => some t

/-- The text behind blanks, newlines and comments; `inComment` says whether a comment has begun. -/
def skipLinesFrom? : (inComment : Bool) → Text → Option Text
  | _, [] => some []
  | inComment, c :: t =>
    if c = '\n' then skipLinesFrom? false t
    else if inComment then if isControl c then none else skipLinesFrom? true t
    else if isGap c then skipLinesFrom? false t
    else if c = '#' then skipLinesFrom? true t
    else some (c :: t)

/-- The text behind blanks, newlines and comments. -/
def skipLines? (t : Text) : Option Text := skipLinesFrom? false t

/-! ### Texts in quotes -/

/-- The character that a letter behind a backslash stands for. -/
def simpleEscape? : Char → Option Char
  | 'b' => some '\x08'
  | 't' => some '\t'
  | 'n' => some '\n'
  | 'f' => some '\x0c'
  | 'r' => some '\r'
  | '"' => some '"'
  | '\\' => some '\\'
  | _ => none

/-- The character with a code point of `n` hexadecimal digits. -/
def codePoint? (n : Nat) (t : Text) : Option (Char × Text) :=
  let ds := t.take n
  if ds.length = n && ds.all isHexDigit then
    let code := hexNumber ds
    if code.isValidChar then some (Char.ofNat code, t.drop n) else none
  else none

/-- What an escape stands for; the text begins behind the backslash. Between triple quotes a
backslash at the end of a line joins the lines. -/
def escape? (multiline : Bool) (t : Text) : Option (Text × Text) :=
  match t with
  | [] => none
  | c :: rest =>
    if multiline && (isGap c || c = '\n') then
      match skipBlanks t with
      | [] => some ([], [])
      | '\n' :: u => some ([], u.dropWhile fun c => isGap c || c = '\n')
      | _ => none
    else if c = 'u' then (codePoint? 4 rest).map fun r => ([r.1], r.2)
    else if c = 'U' then (codePoint? 8 rest).map fun r => ([r.1], r.2)
    else (simpleEscape? c).map fun r => ([r], rest)

/-- The rest of a text in double quotes, at most `fuel` parts of it. -/
def basicFrom (multiline : Bool) : (fuel : Nat) → Text → Option (Text × Text)
  | 0, _ => none
  | fuel + 1, t =>
    match t with
    | [] => none
    | c :: rest =>
      let andThen (part rest : Text) : Option (Text × Text) :=
        (basicFrom multiline fuel rest).map fun r => (part ++ r.1, r.2)
      if c = '"' then
        if !multiline then some ([], rest)
        else match rest with
          | '"' :: '"' :: u => some ([], u)
          | _ => andThen [c] rest
      else if c = '\\' then (escape? multiline rest).bind fun r => andThen r.1 r.2
      else if isControl c && !(multiline && c = '\n') then none
      else andThen [c] rest

/-- The rest of a text in single quotes. -/
def literalFrom : Text → Option (Text × Text)
  | [] => none
  | c :: t =>
    if c = '\'' then some ([], t)
    else if isControl c then none
    else (literalFrom t).map fun r => (c :: r.1, r.2)

/-- The rest of a text in triple single quotes. -/
def literalLinesFrom : Text → Option (Text × Text)
  | '\'' :: '\'' :: '\'' :: t => some ([], t)
  | c :: t =>
    if isControl c && c ≠ '\n' then none
    else (literalLinesFrom t).map fun r => (c :: r.1, r.2)
  | [] => none

/-- Up to two more quotes behind closing triple quotes belong to the text. -/
def absorbQuotes (mark : Char) (r : Text × Text) : Text × Text :=
  let extra := (r.2.take 2).takeWhile (· = mark)
  (r.1 ++ extra, r.2.drop extra.length)

/-- The text without a newline in front. -/
def skipNewline : Text → Text
  | '\n' :: t => t
  | t => t

/-- A text in quotes; triple quotes are read only if `triple` says so. -/
def string? (triple : Bool) : Text → Option (Text × Text)
  | '"' :: t =>
    match triple, t with
    | true, '"' :: '"' :: u =>
      (basicFrom true (u.length + 1) (skipNewline u)).map (absorbQuotes '"')
    | _, _ => basicFrom false (t.length + 1) t
  | '\'' :: t =>
    match triple, t with
    | true, '\'' :: '\'' :: u => (literalLinesFrom (skipNewline u)).map (absorbQuotes '\'')
    | _, _ => literalFrom t
  | _ => none

/-! ### Keys -/

/-- The parts of a dotted key. -/
abbrev Key := List Text

/-- A character of a key without quotes. -/
def isBare (c : Char) : Bool := c.isAlphanum || c = '-' || c = '_'

/-- A part of a key, bare or in quotes. -/
def keyPart? (t : Text) : Option (Text × Text) :=
  match t.takeWhile isBare with
  | [] => string? false t
  | k => some (k, t.drop k.length)

/-- A dotted key of at most `fuel` parts. -/
def keyFrom : (fuel : Nat) → Text → Option (Key × Text)
  | 0, _ => none
  | fuel + 1, t => do
    let (k, t) ← keyPart? t
    match skipBlanks t with
    | '.' :: u => (keyFrom fuel (skipBlanks u)).map fun r => (k :: r.1, r.2)
    | u => some ([k], u)

/-- A dotted key, and what follows the blanks behind it. -/
def key? (t : Text) : Option (Key × Text) := keyFrom (t.length + 1) t

end Toml

end CommandManual
