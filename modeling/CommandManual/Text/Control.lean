import CommandManual.Text.Basic

/-!
# Control sequences

A terminal takes some characters as orders: to change the colour, to move, to clear a line. An order
begins with the escape character and an opening bracket; parameters, intermediate characters and a
final character follow. Output that no terminal reads goes out without such orders.

## Main definitions

* `Text.controlLength?`: the length of the control sequence that a text begins with.
* `Text.withoutControls`: a text without its control sequences.
-/

namespace CommandManual

/-- The character that a control sequence begins with. -/
abbrev escapeChar : Char := '\x1b'

/-- A character that is a parameter of a control sequence, or stands between two. -/
def isParameter (c : Char) : Bool := 0x30 ≤ c.toNat && c.toNat ≤ 0x3F

/-- A character between the parameters of a control sequence and its final character. -/
def isIntermediate (c : Char) : Bool := 0x20 ≤ c.toNat && c.toNat ≤ 0x2F

/-- A character that ends a control sequence. -/
def isFinal (c : Char) : Bool := 0x40 ≤ c.toNat && c.toNat ≤ 0x7E

namespace Text

/-- The length of the control sequence that a text begins with. -/
def controlLength? : Text → Option Nat
  | c :: '[' :: t =>
    let parameters := t.takeWhile isParameter
    let between := (t.drop parameters.length).takeWhile isIntermediate
    let length := parameters.length + between.length
    if c = escapeChar && (t[length]?).any isFinal then some (length + 3) else none
  | _ => none

/-- The text behind `skip` characters without its control sequences. -/
def withoutControlsFrom : (skip : Nat) → Text → Text
  | _, [] => []
  | skip + 1, _ :: t => withoutControlsFrom skip t
  | 0, c :: t =>
    match controlLength? (c :: t) with
    | some n => withoutControlsFrom (n - 1) t
    | none => c :: withoutControlsFrom 0 t

/-- The text without its control sequences. -/
def withoutControls (t : Text) : Text := withoutControlsFrom 0 t

@[simp] theorem withoutControls_nil : withoutControls [] = [] := rfl

end Text

end CommandManual
