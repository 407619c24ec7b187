import CommandManual.Text.Basic

/-!
# Escaped text of a manual page

In the source of a manual page a backslash begins an escape, a hyphen is a break point, and a full
stop or an apostrophe at the start of a line makes the line a request. Escaping makes all four
plain characters.

## Main definitions

* `Roff.escape`: a text that is set as it is.
* `Roff.looksLikeRequest`: does a line begin with a character that makes it a request?
-/

namespace CommandManual

namespace Roff

/-- One character in the source of a page. -/
def escapeChar (c : Char) : Text :=
  if c = '\\' then ['\\', 'e'] else if c = '-' then ['\\', '-'] else [c]

/-- Does the line begin with a character that makes it a request? -/
def looksLikeRequest (t : Text) : Bool :=
  match t with
  | c :: _ => c = '.' || c = '\''
  | [] => false

/-- A text in the source of a page. -/
def escape (t : Text) : Text :=
  let body := t.flatMap escapeChar
  if looksLikeRequest body then '\\' :: '&' :: body else body

@[simp] theorem escape_nil : escape [] = [] := rfl

end Roff

end CommandManual
