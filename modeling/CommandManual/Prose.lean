import CommandManual.Text.Blank

/-!
# Free text inside a document

Usage texts are written for a terminal. Before they go into a Markdown document they are given a
form that cannot break it: a single line becomes a quotation, several lines a block indented by
four spaces, in which fences and headings are literal. Shorter texts go into headings and table
cells and are put on one line.

## Main definitions

* `indentBlock`, `usageBlock`: a text as an indented block, and as a block or a quotation.
* `oneLine`, `cell`: a text on one line, and one without its final stop.
* `tidy`: a document with at most one blank line in a row.
-/

namespace CommandManual

namespace Prose

/-! ### Usage texts -/

/-- The indentation of a literal block. -/
def blockIndent : Int := 4

/-- Every line, blank ones included, behind a number of spaces and ended by a newline. Nothing
stands for the empty text, and a negative number counts as none. -/
def indentBlock (indent : Int) (t : Text) : Text :=
  if t.isEmpty then []
  else Text.terminated ((Text.lines t).map fun l => List.replicate indent.toNat ' ' ++ l)

/-- The text without the newlines around it. -/
def trimNewlines (t : Text) : Text := Text.trim (· = '\n') t

/-- A usage text as a block of the document. -/
def usageBlock (indent : Int) (t : Text) : Text :=
  if t.isEmpty then []
  else
    let body := trimNewlines t
    if body.contains '\n' then indentBlock indent body else '>' :: body ++ ['\n']

/-- A summary on a line of its own, followed by a blank line when a block comes after it. -/
def summaryLine (usage block : Text) : Text :=
  if usage.isEmpty then []
  else usage ++ '\n' :: (if block.isEmpty then [] else ['\n'])

/-- The lines of a text that are not empty. -/
def inkedLines (t : Text) : List Text := (Text.lines t).filter (!·.isEmpty)

@[simp] theorem indentBlock_nil (n : Int) : indentBlock n [] = [] := rfl

@[simp] theorem usageBlock_nil (n : Int) : usageBlock n [] = [] := rfl

/-! ### Texts on one line -/

/-- The lines joined by spaces, without blanks at the ends. -/
def oneLine (t : Text) : Text := (Text.substitute '\n' [' '] t).strip

/-- Characters that a table cell does not end in. -/
def isCellTail (c : Char) : Bool := c = '.' || c = '\r' || c = '\n' || c = '\t'

/-- The text on one line, without stops at its end. -/
def cell (t : Text) : Text := Text.trimEnd isCellTail (oneLine t)

/-! ### Whole documents -/

/-- Newlines beyond the second of a run are dropped; `run` counts the newlines that stand directly
in front. -/
def squeezeFrom (run : Nat) : Text → Text
  | [] => []
  | c :: t =>
    if c = '\n' then if run < 2 then '\n' :: squeezeFrom (run + 1) t else squeezeFrom run t
    else c :: squeezeFrom 0 t

/-- Every run of two or more newlines is written as two. -/
def squeeze (t : Text) : Text := squeezeFrom 0 t

/-- The document with at most one blank line in a row, nothing blank around it, and one newline
at its end. -/
def tidy (t : Text) : Text :=
  Text.trim (fun c => c = ' ' || c = '\n') (squeeze t) ++ ['\n']

end Prose

end CommandManual
