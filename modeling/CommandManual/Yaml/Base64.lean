import CommandManual.Text.Basic

/-!
# Base 64

Bytes written with sixty-four characters, four of them for three bytes. Characters that have no
place in the notation are skipped, and reading ends where the padding is complete.

## Main definitions

* `Base64.decode?`: the bytes of a text, unless the last group is incomplete.
-/

namespace CommandManual

namespace Base64

/-- The value of a character of the notation. -/
def digit? (c : Char) : Option Nat :=
  if 'A' ≤ c && c ≤ 'Z' then some (c.toNat - 65)
  else if 'a' ≤ c && c ≤ 'z' then some (c.toNat - 71)
  else if c.isDigit then some (c.toNat + 4)
  else if c = '+' then some 62
  else if c = '/' then some 63
  else none

/-- Read on after `filled` characters of a group, whose bits that make no byte yet are `left`;
`pads` of the padding have been read. -/
def decodeFrom (filled left pads : Nat) (done : List UInt8) : Text → Option (List UInt8)
  | [] => if filled = 0 then some done.reverse else none
  | c :: t =>
    if c = '=' then
      if 2 ≤ filled then
        if 4 ≤ filled + pads + 1 then some done.reverse
        else decodeFrom filled left (pads + 1) done t
      else decodeFrom filled left pads done t
    else
      match digit? c with
      | none => decodeFrom filled left pads done t
      | some d =>
        match filled with
        | 0 => decodeFrom 1 d 0 done t
        | 1 => decodeFrom 2 (d % 16) 0 (UInt8.ofNat (left * 4 + d / 16) :: done) t
        | 2 => decodeFrom 3 (d % 4) 0 (UInt8.ofNat (left * 16 + d / 4) :: done) t
        | _ => decodeFrom 0 0 0 (UInt8.ofNat (left * 64 + d) :: done) t

/-- The bytes of a text. -/
def decode? (t : Text) : Option (List UInt8) := decodeFrom 0 0 0 [] t

end Base64

end CommandManual
