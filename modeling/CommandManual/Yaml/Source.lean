import CommandManual.Yaml.Cursor
import CommandManual.Yaml.Fault

/-!
# How far a YAML text can be read

A text is read in pieces of some thousand characters. A piece with a character that may not occur,
or one whose bytes spell no text, cannot be read at all; but it is a fault only when reading comes
to it, and what is wrong in the pieces in front is found before.

## Main definitions

* `Source`: the part of a text that can be read, and the fault of going on behind it.
* `Source.ofText`: the source of a text.
-/

namespace CommandManual

namespace Yaml

/-- The part of a text that can be read, and the fault of going on behind it. Without a fault the
text ends there. -/
structure Source where
  text : Text
  fault : Option Fault := none

namespace Source

/-- The number of characters in a piece. -/
def pieceLength : Nat := 4096

/-- The place where the piece of a character begins. The first piece is twice as long as the others.
-/
def pieceStart (i : Nat) : Nat := if i < 2 * pieceLength then 0 else i / pieceLength * pieceLength

/-- The source of a text behind which there may be a fault. -/
def ofLoaded (t : Text) (fault : Option Fault) : Source :=
  match t.findIdx? (!isPrintable ·) with
  | some i => ⟨t.take (pieceStart i), some .malformed⟩
  | none => ⟨t, fault⟩

/-- The source of a text; behind it there may be bytes that spell none. -/
def ofText (t : Text) (broken : Option Utf8.Fault := none) : Source :=
  ofLoaded (if broken.isSome then t.take (pieceStart t.length) else t) (broken.map .encoding)

end Source

end Yaml

end CommandManual
