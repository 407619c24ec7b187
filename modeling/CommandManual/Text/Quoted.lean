import CommandManual.Text.Hexadecimal
import CommandManual.Text.Printable

/-!
# Quoted text

Messages show a text between quotes, with everything that a terminal would not show written as an
escape. Single quotes are used unless the text has a single quote and no double quote.

## Main definitions

* `Text.quoted`: the quoted form of a text.
* `quotedBytes`: the quoted form of a sequence of bytes.
-/

namespace CommandManual

namespace Text

/-- The quote mark that needs the fewer escapes. -/
def quoteMark (t : Text) : Char :=
  if t.contains '\'' && !t.contains '"' then '"' else '\''

/-- A character between quote marks. -/
def quoteChar (mark c : Char) : Text :=
  if c = mark || c = '\\' then ['\\', c]
  else if c = '\t' then ['\\', 't']
  else if c = '\n' then ['\\', 'n']
  else if c = '\r' then ['\\', 'r']
  else if isPrintable c then [c]
  else if c.toNat ≤ 0xFF then '\\' :: 'x' :: hexDigits 2 c.toNat
  else if c.toNat ≤ 0xFFFF then '\\' :: 'u' :: hexDigits 4 c.toNat
  else '\\' :: 'U' :: hexDigits 8 c.toNat

/-- The quoted form of a text. -/
def quoted (t : Text) : Text :=
  let mark := quoteMark t
  mark :: t.flatMap (quoteChar mark) ++ [mark]

@[simp] theorem quoted_nil : quoted [] = ['\'', '\''] := by decide

end Text

/-- A byte between quote marks: bytes beyond ASCII are always escaped. -/
def quoteByte (mark : Char) (b : UInt8) : Text :=
  if b < 0x80 then Text.quoteChar mark (Char.ofNat b.toNat)
  else '\\' :: 'x' :: hexDigits 2 b.toNat

/-- The quoted form of a sequence of bytes. -/
def quotedBytes (bs : List UInt8) : Text :=
  let mark := if bs.contains 39 && !bs.contains 34 then '"' else '\''
  'b' :: mark :: bs.flatMap (quoteByte mark) ++ [mark]

end CommandManual
