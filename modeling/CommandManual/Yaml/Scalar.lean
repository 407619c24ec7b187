import CommandManual.Yaml.Cursor
import CommandManual.Yaml.Fault

/-!
# Scalars of a YAML text

The five ways to write a text: plain, in single or double quotes, and as a literal or folded block
of lines. Each reader takes the cursor behind the character that announces its style and gives
back the text with the cursor behind it.

## Main definitions

* `plain`: an unquoted scalar, possibly of several lines.
* `quoted`: a scalar in quotes.
* `block`: a literal or folded block.

## Implementation notes

Inside plain and quoted scalars a line break that stands alone becomes a space; further ones stand
for themselves (`joined`). A folded block does the same between lines that begin with neither a
space nor a tab.
-/

namespace CommandManual

namespace Yaml

/-- What stands for a line break that is followed by further `breaks`. -/
def joined (b : Char) (breaks : Text) : Text :=
  if b ≠ '\n' then b :: breaks else if breaks.isEmpty then [' '] else breaks

/-! ### Plain scalars -/

/-- The brackets and the comma, which end a plain scalar inside brackets. -/
def isFlowMark (c : Char) : Bool :=
  c = ',' || c = '[' || c = ']' || c = '\x7b' || c = '\x7d'

/-- The part of a line that belongs to a plain scalar: up to a blank, to a colon that ends a key,
and inside brackets to a mark of theirs. -/
def plainChunk (flow : Bool) : Text → Text
  | [] => []
  | ch :: t =>
    let endsKey := ch = ':' && (endsItem t.head? || (flow && t.head?.any isFlowMark))
    if endsItem (some ch) || endsKey || (flow && (isFlowMark ch || ch = '?')) then []
    else ch :: plainChunk flow t

/-- The line breaks after the first one inside a plain scalar; none where a document ends. -/
def plainBreaks (c : Cursor) : Option Text × Cursor :=
  let d := c.skipSpaces
  match _h : d.lineBreak? with
  | none => (some [], d)
  | some (b, e) =>
    if e.atMarker then (none, e)
    else let r := plainBreaks e; (r.1.map (b :: ·), r.2)
termination_by c.rest.length
decreasing_by
  exact Nat.lt_of_lt_of_le (Cursor.length_rest_lineBreak?_lt _h) (Cursor.length_rest_skip_le _ _)

theorem length_rest_plainBreaks_le (c : Cursor) :
    (plainBreaks c).2.rest.length ≤ c.rest.length := by
  fun_induction plainBreaks c with
  | case1 c d h => exact Cursor.length_rest_skip_le _ _
  | case2 c d b e h hm =>
    have := Cursor.length_rest_lineBreak?_lt h
    have := Cursor.length_rest_skip_le (· = ' ') c
    simp only [d, Cursor.skipSpaces] at *
    omega
  | case3 c d b e h hm r ih =>
    have := Cursor.length_rest_lineBreak?_lt h
    have := Cursor.length_rest_skip_le (· = ' ') c
    simp only [d, r, Cursor.skipSpaces] at *
    omega

/-- What separates two parts of a plain scalar. -/
structure Gap where
  /-- What it stands for in the text; empty where the scalar ends. -/
  text : Text
  /-- Does it contain the end of a line? -/
  crossesLine : Bool

/-- The blanks behind a part of a plain scalar. -/
def plainGap (c : Cursor) : Gap × Cursor :=
  let (spaces, d) := c.span (· = ' ')
  match d.lineBreak? with
  | none => (⟨spaces, false⟩, d)
  | some (b, e) =>
    if e.atMarker then (⟨[], true⟩, e)
    else
      let (breaks, f) := plainBreaks e
      (⟨(breaks.map (joined b)).getD [], true⟩, f)

theorem length_rest_plainGap_le (c : Cursor) :
    (plainGap c).2.rest.length ≤ c.rest.length := by
  have hd : (c.span (· = ' ')).2.rest.length ≤ c.rest.length := by
    rw [Cursor.span, Cursor.length_rest_advance]; omega
  unfold plainGap
  split
  next spaces d hs =>
  rw [hs] at hd
  split
  · exact hd
  · next b e he =>
    have := Cursor.length_rest_lineBreak?_lt he
    have := length_rest_plainBreaks_le e
    split <;> dsimp only at * <;> omega

/-- A plain scalar that begins at a cursor: its text, whether a line ends behind it, and the place
behind it. Outside of brackets it goes on only on lines indented more than `indent`. -/
def plain (flow : Bool) (indent : Int) (c : Cursor) : Text × Bool × Cursor :=
  let chunk := plainChunk flow c.rest
  let gap := plainGap (c.advance chunk.length)
  let stops :=
    gap.1.text.isEmpty || gap.2.peek = some '#' || (!flow && (gap.2.column : Int) ≤ indent)
  if _h : chunk = [] then ([], false, c)
  else if stops then (chunk, gap.1.crossesLine, gap.2)
  else
    let more := plain flow indent gap.2
    if more.1.isEmpty then (chunk, gap.1.crossesLine, gap.2)
    else (chunk ++ gap.1.text ++ more.1, more.2)
termination_by c.rest.length
decreasing_by
  have h1 := length_rest_plainGap_le (c.advance chunk.length)
  have h2 := Cursor.length_rest_advance c chunk.length
  have h3 : 0 < chunk.length := List.length_pos_iff.2 _h
  have h4 : 0 < c.rest.length := by
    cases hr : c.rest with
    | nil => exact absurd (by simp [chunk, hr, plainChunk]) _h
    | cons a t => simp
  exact Nat.lt_of_le_of_lt h1 (by omega)

/-! ### Quoted scalars -/

/-- The line breaks after the first one inside quotes. Documents may not be separated there. -/
def quotedBreaks (c : Cursor) : Except Fault (Text × Cursor) :=
  if c.atMarker then .error .malformed
  else
    let d := c.skip fun ch => ch = ' ' || ch = '\t'
    match _h : d.lineBreak? with
    | none => .ok ([], d)
    | some (b, e) => (quotedBreaks e).map fun r => (b :: r.1, r.2)
termination_by c.rest.length
decreasing_by
  exact Nat.lt_of_lt_of_le (Cursor.length_rest_lineBreak?_lt _h) (Cursor.length_rest_skip_le _ _)

/-- The blanks inside quotes. -/
def quotedGap (c : Cursor) : Except Fault (Text × Cursor) :=
  let (blanks, d) := c.span fun ch => ch = ' ' || ch = '\t'
  match d.lineBreak? with
  | some (b, e) => (quotedBreaks e).map fun r => (joined b r.1, r.2)
  | none => .ok (blanks, d)

/-- The character that a backslash and a letter stand for. -/
def simpleEscape? : Char → Option Char
  | '0' => some '\x00'
  | 'a' => some '\x07'
  | 'b' => some '\x08'
  | 't' => some '\t'
  | '\t' => some '\t'
  | 'n' => some '\n'
  | 'v' => some '\x0b'
  | 'f' => some '\x0c'
  | 'r' => some '\r'
  | 'e' => some '\x1b'
  | ' ' => some ' '
  | '"' => some '"'
  | '\\' => some '\\'
  | '/' => some '/'
  | 'N' => some '\x85'
  | '_' => some '\xa0'
  | 'L' => some '\u2028'
  | 'P' => some '\u2029'
  | _ => none

/-- The number of hexadecimal digits that a letter announces. -/
def codeLength? : Char → Option Nat
  | 'x' => some 2
  | 'u' => some 4
  | 'U' => some 8
  | _ => none

/-- An escape: its text, and the place behind it. The cursor stands behind the backslash, and
`atEnd` is the fault of going on behind the text. A text holds characters only, so that an escape
for half of a surrogate pair is refused. -/
def escape (atEnd : Fault) (c : Cursor) : Except Fault (Text × Cursor) :=
  match c.peek with
  | none => .error atEnd
  | some ch =>
    match simpleEscape? ch, codeLength? ch, c.lineBreak? with
    | some r, _, _ => .ok ([r], c.next)
    | none, some n, _ =>
      let digits := (c.next.rest.take n).takeWhile isHexDigit
      if digits.length = n then
        let code := hexNumber digits
        if 0x10FFFF < code then .error (.codePoint code)
        else if 0xD800 ≤ code && code ≤ 0xDFFF then .error (.surrogate code)
        else .ok ([Char.ofNat code], c.next.advance n)
      else .error (if digits.length = c.next.rest.length then atEnd else .malformed)
    | none, none, some (_, d) => quotedBreaks d
    | none, none, none => .error .malformed

/-- The rest of a scalar in quotes, at most `fuel` parts of it. -/
def quotedFrom (atEnd : Fault) (double : Bool) :
    (fuel : Nat) → Cursor → Except Fault (Text × Cursor)
  | 0, _ => .error .malformed
  | fuel + 1, c =>
    let andThen (part : Text × Cursor) : Except Fault (Text × Cursor) :=
      (quotedFrom atEnd double fuel part.2).map fun r => (part.1 ++ r.1, r.2)
    match c.rest with
    | [] => .error atEnd
    | ch :: t =>
      if double && ch = '"' then .ok ([], c.next)
      else if double && ch = '\\' then escape atEnd c.next >>= andThen
      else if !double && ch = '\'' then
        if t.head? = some '\'' then andThen ([ch], c.advance 2) else .ok ([], c.next)
      else if endsItem (some ch) then quotedGap c >>= andThen
      else andThen ([ch], c.next)

/-- The rest of a scalar in quotes, and the place behind the closing quote. -/
def quoted (atEnd : Fault) (double : Bool) (c : Cursor) : Except Fault (Text × Cursor) :=
  quotedFrom atEnd double (c.rest.length + 1) c

/-! ### Blocks -/

/-- What becomes of the line breaks at the end of a block. -/
inductive Chomping where
  /-- One is kept. -/
  | clip
  /-- None is kept. -/
  | strip
  /-- All are kept. -/
  | keep
  deriving DecidableEq, Repr

/-- The way of chomping that a sign asks for. -/
def Chomping.ofChar? : Char → Option Chomping
  | '+' => some .keep
  | '-' => some .strip
  | _ => none

/-- The signs at the head of a block: the chomping, the indentation if it is given, and the place
behind them. -/
def blockSigns (c : Cursor) : Chomping × Option Nat × Cursor :=
  let digit? (c : Cursor) : Option Nat :=
    (c.peek.filter Char.isDigit).map fun ch => ch.toNat - 48
  match c.peek.bind Chomping.ofChar?, digit? c with
  | some chomping, _ =>
    match digit? c.next with
    | some n => (chomping, some n, c.next.next)
    | none => (chomping, none, c.next)
  | none, some n =>
    match c.next.peek.bind Chomping.ofChar? with
    | some chomping => (chomping, some n, c.next.next)
    | none => (.clip, some n, c.next)
  | none, none => (.clip, none, c)

/-- The empty lines in front of a block whose indentation is not given: their breaks, and the
greatest indentation among them and the first line. -/
def leadingBreaks (deepest : Nat) (c : Cursor) : Text × Nat × Cursor :=
  let d := c.skipSpaces
  let deepest := if c.index < d.index then max deepest d.column else deepest
  match _h : d.lineBreak? with
  | none => ([], deepest, d)
  | some (b, e) => let r := leadingBreaks deepest e; (b :: r.1, r.2)
termination_by c.rest.length
decreasing_by
  exact Nat.lt_of_lt_of_le (Cursor.length_rest_lineBreak?_lt _h) (Cursor.length_rest_skip_le _ _)

/-- The place behind the spaces that come next, at most at column `indent`. -/
def skipIndent (indent : Nat) (c : Cursor) : Cursor :=
  c.advance (min (indent - c.column) (c.rest.takeWhile (· = ' ')).length)

theorem length_rest_skipIndent_le (indent : Nat) (c : Cursor) :
    (skipIndent indent c).rest.length ≤ c.rest.length := by
  rw [skipIndent, Cursor.length_rest_advance]; omega

/-- The empty lines inside a block: their breaks, and the place where the next line begins. -/
def blockBreaks (indent : Nat) (c : Cursor) : Text × Cursor :=
  let d := skipIndent indent c
  match _h : d.lineBreak? with
  | none => ([], d)
  | some (b, e) => let r := blockBreaks indent e; (b :: r.1, r.2)
termination_by c.rest.length
decreasing_by
  exact Nat.lt_of_lt_of_le (Cursor.length_rest_lineBreak?_lt _h) (length_rest_skipIndent_le _ _)

theorem length_rest_blockBreaks_le (indent : Nat) (c : Cursor) :
    (blockBreaks indent c).2.rest.length ≤ c.rest.length := by
  fun_induction blockBreaks indent c with
  | case1 c d h => exact length_rest_skipIndent_le _ _
  | case2 c d b e h r ih =>
    have := Cursor.length_rest_lineBreak?_lt h
    have := length_rest_skipIndent_le indent c
    simp only [d, r] at *
    omega

/-- The lines of a block from one on. -/
structure BlockLines where
  /-- The text of the lines, joined. -/
  text : Text
  /-- The break that ends the last line, if one does. -/
  lastBreak : Text
  /-- The breaks of the empty lines behind it. -/
  trailing : Text
  /-- The place behind them. -/
  after : Cursor

/-- Is the character neither a space nor a tab? -/
def isFlush (c : Option Char) : Bool := c ≠ some ' ' && c ≠ some '\t'

/-- The lines of a block at column `indent`. -/
def blockLines (folded : Bool) (indent : Nat) (c : Cursor) : BlockLines :=
  match _hc : c.rest with
  | [] => ⟨[], [], [], c⟩
  | ch :: t =>
    let line := ch :: t.takeWhile (!isBreak ·)
    let d := c.advance line.length
    let ended := d.lineBreak?
    let e := (ended.map Prod.snd).getD d
    let br := (ended.map Prod.fst).toList
    let breaks := blockBreaks indent e
    if breaks.2.column = indent && !breaks.2.rest.isEmpty then
      let more := blockLines folded indent breaks.2
      let glue :=
        if folded && br = ['\n'] && isFlush (some ch) && isFlush breaks.2.peek then
          if breaks.1.isEmpty then [' '] else []
        else br
      { more with text := line ++ glue ++ breaks.1 ++ more.text }
    else ⟨line, br, breaks.1, breaks.2⟩
termination_by c.rest.length
decreasing_by
  have h1 := length_rest_blockBreaks_le indent e
  have h2 : e.rest.length ≤ d.rest.length := by
    show ((d.lineBreak?.map Prod.snd).getD d).rest.length ≤ _
    cases h : d.lineBreak? with
    | none => simp
    | some p => exact Nat.le_of_lt (Cursor.length_rest_lineBreak?_lt h)
  have h3 : d.rest.length = c.rest.length - line.length := Cursor.length_rest_advance _ _
  have h4 : 0 < c.rest.length := by simp [_hc]
  have h5 : 0 < line.length := by simp [line]
  exact Nat.lt_of_le_of_lt h1 (by omega)

/-- A block of lines, and the place behind it. The cursor stands behind the sign that announces
the block, and the lines have to be indented more than `indent`. -/
def block (folded : Bool) (indent : Int) (c : Cursor) : Except Fault (Text × Cursor) :=
  let (chomping, increment, c) := blockSigns c
  let d := c.skipSpaces.skipComment
  if increment = some 0 || !endsWord c.peek || !endsLine d.peek then .error .malformed
  else
    let start := (d.lineBreak?.map Prod.snd).getD d
    let least := (max (indent + 1) 1).toNat
    let (breaks, column, first) :=
      match increment with
      | some n =>
        let column := least + n - 1
        let r := blockBreaks column start
        (r.1, column, r.2)
      | none =>
        let r := leadingBreaks 0 start
        (r.1, max least r.2.1, r.2.2)
    let ls :=
      if first.column = column && !first.rest.isEmpty then
        let ls := blockLines folded column first
        { ls with text := breaks ++ ls.text }
      else ⟨[], [], breaks, first⟩
    let tail := match chomping with
      | .clip => ls.lastBreak
      | .strip => []
      | .keep => ls.lastBreak ++ ls.trailing
    .ok (ls.text ++ tail, ls.after)

end Yaml

end CommandManual
