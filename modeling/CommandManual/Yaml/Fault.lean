import CommandManual.Text.Quoted
import CommandManual.Text.Utf8
import CommandManual.Value.Moment

/-!
# Faults of a YAML text

Most faults are of one kind: the text is not YAML, or it holds a construct that data files may not
use. The others are values that have the form of a number, a truth value or a date, or that are
tagged as one, and are none.

## Main definitions

* `Fault`: the faults.
* `Fault.message`: the wording of those that have one.
-/

namespace CommandManual

namespace Yaml

/-- Why a text holds no value. -/
inductive Fault where
  /-- The text is not YAML of the kind that is read. -/
  | malformed
  /-- An escape names a code point above the last one. -/
  | codePoint (n : Nat)
  /-- An escape names half of a surrogate pair, which is no character. -/
  | surrogate (n : Nat)
  /-- The text is no whole number in a base. -/
  | int (base : Nat) (t : Text)
  /-- A decimal number is too long to be read. -/
  | digits (count : Nat)
  /-- The text is no floating-point number. -/
  | float (t : Text)
  /-- A number has no digits at all. -/
  | emptyNumber
  /-- A digit of base sixty stands for more than the greatest floating-point number. -/
  | magnitude
  /-- The text is no truth value. -/
  | truth (t : Text)
  /-- The text has not the form of a date. -/
  | notMoment
  /-- A date or a time that does not exist. -/
  | moment (f : Moment.Fault)
  /-- A mapping stands for a date. -/
  | momentOfMapping
  /-- What a mapping stands for leads back to the mapping. -/
  | endless
  /-- Collections stand too deep in one another. -/
  | tooDeep
  /-- The bytes behind the part that is read spell no text. -/
  | encoding (f : Utf8.Fault)
  deriving DecidableEq

/-- How much of the quoted text of a whole number is shown. -/
def maxShown : Nat := 200

/-- The wording of a fault about a number or a date; the others have none. -/
def Fault.message : Fault → Text
  | .codePoint _ => "chr() arg not in range(0x110000)".toList
  | .int base t =>
    "invalid literal for int() with base ".toList ++ Text.ofNat base ++ ": ".toList
      ++ t.quoted.take maxShown
  | .digits n =>
    "Exceeds the limit (4300 digits) for integer string conversion: value has ".toList
      ++ Text.ofNat n ++ " digits; use sys.set_int_max_str_digits() to increase the limit".toList
  | .float t => "could not convert string to float: ".toList ++ t.quoted
  | .moment f => f.message
  | .encoding f => f.message
  | _ => []

end Yaml

end CommandManual
