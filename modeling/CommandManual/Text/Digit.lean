import CommandManual.Text.Blank

/-!
# Decimal digits

Every script has its own ten decimal digits, and numbers may be written in any of them. The digits
of a script stand in one run, from the digit for zero to the digit for nine.

## Main definitions

* `digitZeros`: the code points of the digits for zero.
* `Text.plainDigits`: a text with its digits in ASCII.
* `Text.numeral`: the same without blanks around it, as numbers are read.
-/

namespace CommandManual

/-- The digits for zero outside ASCII, in ascending order. -/
def digitZeros : List Nat := [
  0x660, 0x6F0, 0x7C0, 0x966, 0x9E6, 0xA66, 0xAE6, 0xB66, 0xBE6, 0xC66, 0xCE6, 0xD66, 0xDE6,
  0xE50, 0xED0, 0xF20, 0x1040, 0x1090, 0x17E0, 0x1810, 0x1946, 0x19D0, 0x1A80, 0x1A90, 0x1B50,
  0x1BB0, 0x1C40, 0x1C50, 0xA620, 0xA8D0, 0xA900, 0xA9D0, 0xA9F0, 0xAA50, 0xABF0, 0xFF10,
  0x104A0, 0x10D30, 0x11066, 0x110F0, 0x11136, 0x111D0, 0x112F0, 0x11450, 0x114D0, 0x11650,
  0x116C0, 0x11730, 0x118E0, 0x11950, 0x11C50, 0x11D50, 0x11DA0, 0x16A60, 0x16AC0, 0x16B50,
  0x1D7CE, 0x1D7D8, 0x1D7E2, 0x1D7EC, 0x1D7F6, 0x1E140, 0x1E2F0, 0x1E950, 0x1FBF0]

/-- The value of a decimal digit outside ASCII. -/
def foreignDigit? (c : Char) : Option Nat :=
  (digitZeros.find? fun z => z ≤ c.toNat && c.toNat < z + 10).map (c.toNat - ·)

/-- The text with its decimal digits written in ASCII. -/
def Text.plainDigits (t : Text) : Text :=
  t.map fun c =>
    if c.toNat < 0x80 then c
    else match foreignDigit? c with
      | some d => Char.ofNat (48 + d)
      | none => c

/-- The text of a number with its digits in ASCII and without the blanks around it. -/
def Text.numeral (t : Text) : Text := Text.trim isNumberBlank (Text.plainDigits t)

end CommandManual
