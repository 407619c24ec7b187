import CommandManual.Text.Hexadecimal

/-!
# Places in a YAML text

The layout of a YAML text carries meaning, so its reader keeps track of lines and columns. A
cursor is the text that is still to be read together with the place where that text begins.

## Main definitions

* `isPrintable`, `isBreak`: the characters that may occur, and those that end a line.
* `Cursor`: a place and what follows it.
* `Cursor.next`, `Cursor.advance`, `Cursor.skip`, `Cursor.span`: moving on.
* `Cursor.lineBreak?`: reading the end of a line.
* `Cursor.atMarker`: does a line begin that separates documents?

## Implementation notes

The end of the text is the empty rest. Classes that contain the end of the text are predicates on
`Option Char`, whose `none` is the end.
-/

namespace CommandManual

namespace Yaml

/-! ### Classes of characters -/

/-- A character that may occur in a YAML text. -/
def isPrintable (c : Char) : Bool :=
  let n := c.toNat
  c = '\t' || c = '\n' || c = '\r' || (0x20 ≤ n && n ≤ 0x7E) || n = 0x85
    || (0xA0 ≤ n && n ≤ 0xFFFD) || 0x10000 ≤ n

/-- A character that ends a line. Carriage returns are gone before reading starts. -/
def isBreak (c : Char) : Bool := c = '\n' || c = '\x85' || c = '\u2028' || c = '\u2029'

/-- The end of a line, or of the text. -/
def endsLine : Option Char → Bool
  | none => true
  | some c => isBreak c

/-- A space, the end of a line, or of the text. -/
def endsWord : Option Char → Bool
  | none => true
  | some c => c = ' ' || isBreak c

/-- A space, a tab, the end of a line, or of the text. -/
def endsItem : Option Char → Bool
  | none => true
  | some c => c = ' ' || c = '\t' || isBreak c

/-- A letter, a digit, a hyphen or an underscore, all of ASCII. -/
def isNameChar (c : Char) : Bool := c.isAlphanum || c = '-' || c = '_'

/-! ### Cursors -/

/-- A place in a text and what follows it. -/
structure Cursor where
  rest : Text
  line : Nat := 0
  column : Nat := 0
  /-- The number of characters in front. -/
  index : Nat := 0
  deriving Repr

namespace Cursor

/-- The next character. -/
def peek (c : Cursor) : Option Char := c.rest.head?

/-- The character after `n` others. -/
def peekAt (c : Cursor) (n : Nat) : Option Char := c.rest[n]?

/-- The place behind the next character. A byte order mark takes up no column. -/
def next (c : Cursor) : Cursor :=
  match c.rest with
  | [] => c
  | ch :: rest =>
    if isBreak ch then { rest, line := c.line + 1, column := 0, index := c.index + 1 }
    else
      { c with rest, column := if ch = '\uFEFF' then c.column else c.column + 1
               index := c.index + 1 }

theorem rest_next (c : Cursor) : c.next.rest = c.rest.tail := by
  unfold next
  split
  · simp [*]
  · split <;> simp [*]

/-- The place behind the next `n` characters. -/
def advance (c : Cursor) : Nat → Cursor
  | 0 => c
  | n + 1 => c.next.advance n

/-- The place in front of the first character outside of a class. -/
def skip (p : Char → Bool) (c : Cursor) : Cursor := c.advance (c.rest.takeWhile p).length

/-- The characters of a class that come next, and the place behind them. -/
def span (p : Char → Bool) (c : Cursor) : Text × Cursor :=
  let t := c.rest.takeWhile p
  (t, c.advance t.length)

/-- The place behind the spaces that come next. -/
def skipSpaces (c : Cursor) : Cursor := c.skip (· = ' ')

/-- The place at the end of the line. -/
def skipLine (c : Cursor) : Cursor := c.skip (!isBreak ·)

/-- The place at the end of the line, if a comment begins here. -/
def skipComment (c : Cursor) : Cursor := if c.peek = some '#' then c.skipLine else c

/-- The end of a line as the text it stands for, and the place behind it. The two separators of
Unicode stand for themselves. -/
def lineBreak? (c : Cursor) : Option (Char × Cursor) :=
  match c.rest with
  | ch :: _ => if isBreak ch then some (if ch = '\x85' then '\n' else ch, c.next) else none
  | [] => none

/-- Do three of a character stand here, with a blank or the end of the text behind? -/
def atTriple (ch : Char) (c : Cursor) : Bool :=
  [ch, ch, ch].isPrefixOf c.rest && endsItem (c.peekAt 3)

/-- Does a line begin here that starts or ends a document? -/
def atMarker (c : Cursor) : Bool := c.atTriple '-' || c.atTriple '.'

theorem length_rest_advance (c : Cursor) (n : Nat) :
    (c.advance n).rest.length = c.rest.length - n := by
  induction n generalizing c with
  | zero => rfl
  | succ n ih => rw [advance, ih, rest_next, List.length_tail]; omega

theorem length_rest_skip_le (p : Char → Bool) (c : Cursor) :
    (c.skip p).rest.length ≤ c.rest.length := by
  rw [skip, length_rest_advance]; omega

theorem length_rest_lineBreak?_lt {c d : Cursor} {b : Char} (h : c.lineBreak? = some (b, d)) :
    d.rest.length < c.rest.length := by
  unfold lineBreak? at h
  split at h
  · next ch r hr =>
    split at h
    · simp only [Option.some.injEq, Prod.mk.injEq] at h
      rw [← h.2, rest_next, hr]
      simp
    · exact absurd h (by simp)
  · exact absurd h (by simp)

end Cursor

end Yaml

end CommandManual
