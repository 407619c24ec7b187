import CommandManual.Text.Basic

/-!
# Hexadecimal digits

Escapes and byte values are written in hexadecimal: in lower case, with a fixed number of digits.
Both cases are read.

## Main definitions

* `hexDigits`: the last digits of a number.
* `isHexDigit`, `hexValue`, `hexNumber`: the digits, their values, and the number that they make.
-/

namespace CommandManual

/-- One lower-case hexadecimal digit. -/
def hexDigit (n : Nat) : Char := Nat.digitChar (n % 16)

/-- The last `width` hexadecimal digits of a number. -/
def hexDigits : (width : Nat) → Nat → Text
  | 0, _ => []
  | w + 1, n => hexDigits w (n / 16) ++ [hexDigit n]

/-- A hexadecimal digit of either case. -/
def isHexDigit (c : Char) : Bool :=
  c.isDigit || ('a' ≤ c && c ≤ 'f') || ('A' ≤ c && c ≤ 'F')

/-- The value of a hexadecimal digit. -/
def hexValue (c : Char) : Nat :=
  if c.isDigit then c.toNat - 48 else if 'a' ≤ c then c.toNat - 87 else c.toNat - 55

/-- The number that some hexadecimal digits make. -/
def hexNumber (t : Text) : Nat := t.foldl (fun n c => 16 * n + hexValue c) 0

end CommandManual
