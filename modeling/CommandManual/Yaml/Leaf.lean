import CommandManual.Number.Whole
import CommandManual.Text.Lowercase
import CommandManual.Value.Basic
import CommandManual.Yaml.Base64
import CommandManual.Yaml.Fault
import CommandManual.Yaml.Tag

/-!
# Values of YAML scalars

A scalar is a text, and its tag says how the text is read: as a number, a truth value, a date,
bytes, or as it is. A tag that is written out can claim what the text does not bear out.

## Main definitions

* `intOfText`, `floatOfText`, `truthOfText`, `momentOfText`, `bytesOfText`: reading by one tag.
* `scalarValue`: the value of a scalar.
* `isStandingNan`: is the scalar the fixed form of what is no number?
-/

namespace CommandManual

namespace Yaml

/-- The value of a digit in bases up to sixteen. -/
def baseDigit? (base : Nat) (c : Char) : Option Nat :=
  if isHexDigit c && hexValue c < base then some (hexValue c) else none

/-- The text without the mark of a base in front. -/
def withoutBaseMark (base : Nat) : Text → Text
  | '0' :: c :: t =>
    let l := c.toLower
    if (base = 2 && l = 'b') || (base = 8 && l = 'o') || (base = 16 && l = 'x') then t
    else '0' :: c :: t
  | t => t

/-- A whole number in a base, with a sign or not, blanks around it ignored. The length of a decimal
number is checked first. -/
def wholeNumber (base : Nat) (t : Text) : Except Fault Int :=
  let (negative, u) := Binary64.splitSign (Text.numeral t)
  let ds := withoutBaseMark base u
  let length := (ds.takeWhile Char.isDigit).length
  if base = 10 && maxDigits < length then .error (.digits length)
  else match ds.mapM (baseDigit? base) with
    | some (d :: values) =>
      let n := (d :: values).foldl (fun n d => base * n + d) 0
      .ok (if negative then -(n : Int) else n)
    | _ => .error (.int base t)

/-- A whole number as it is written in a scalar: in base two, eight, ten or sixteen, or with
digits of base sixty. -/
def intOfText (t : Text) : Except Fault Int :=
  let t := t.filter (· ≠ '_')
  let (negative, u) := Binary64.splitSign t
  let signed (n : Int) : Int := if negative then -n else n
  match u with
  | [] => .error .emptyNumber
  | ['0'] => .ok 0
  | '0' :: 'b' :: ds => (wholeNumber 2 ds).map signed
  | '0' :: 'x' :: ds => (wholeNumber 16 ds).map signed
  | '0' :: _ => (wholeNumber 8 u).map signed
  | _ =>
    if u.contains ':' then do
      let parts ← (Text.splitOn ':' u).mapM (wholeNumber 10)
      return signed (parts.foldl (fun n d => 60 * n + d) 0)
    else (wholeNumber 10 u).map signed

/-- A floating-point number without the notation's own forms. -/
def plainFloat (t : Text) : Except Fault Binary64 :=
  match Binary64.ofText? (Text.numeral t) with
  | some x => .ok x
  | none => .error (.float t)

/-- The sum of digits of base sixty, the last one first. Every digit is multiplied by the number
nearest to its power of sixty, which has to be finite. -/
def sixtySum (power : Nat) (sum : Binary64) : List Binary64 → Except Fault Binary64
  | [] => .ok sum
  | x :: xs =>
    match Binary64.ofNat? power with
    | some p => sixtySum (power * 60) (sum.add (x.mul p)) xs
    | none => .error .magnitude

/-- A floating-point number as it is written in a scalar. -/
def floatOfText (t : Text) : Except Fault Binary64 :=
  let t := Text.lowered (t.filter (· ≠ '_'))
  let (negative, u) := Binary64.splitSign t
  let signed (x : Binary64) : Binary64 := if negative then x.neg else x
  if t.isEmpty then .error .emptyNumber
  else if u = ".inf".toList then .ok (.infinite negative)
  else if u = ".nan".toList then .ok .nan
  else if u.contains ':' then do
    let parts ← (Text.splitOn ':' u).mapM plainFloat
    return signed (← sixtySum 1 .zero parts.reverse)
  else (plainFloat u).map signed

/-- A truth value as it is written in a scalar. -/
def truthOfText (t : Text) : Except Fault Bool :=
  let w := Text.lowered t
  if ["yes", "true", "on"].any (fun y => w = y.toList) then .ok true
  else if ["no", "false", "off"].any (fun n => w = n.toList) then .ok false
  else .error (.truth t)

/-- A date as it is written in a scalar. It has to exist. -/
def momentOfText (t : Text) : Except Fault Moment :=
  match Timestamp.ofText? (if t.getLast? = some '\n' then t.dropLast else t) with
  | none => .error .notMoment
  | some s =>
    match s.moment.check with
    | some f => .error (.moment f)
    | none => .ok s.moment

/-- The bytes that a scalar spells. -/
def bytesOfText (t : Text) : Except Fault (List UInt8) :=
  if t.all (·.toNat < 128) then
    match Base64.decode? t with
    | some bs => .ok bs
    | none => .error .malformed
  else .error .malformed

/-- The value of a scalar. -/
def scalarValue (tag : Tag) (t : Text) : Except Fault Value :=
  match tag with
  | .null => .ok .null
  | .bool => (truthOfText t).map .bool
  | .int => (intOfText t).map .int
  | .float => (floatOfText t).map .float
  | .binary => (bytesOfText t).map .bytes
  | .timestamp => (momentOfText t).map .moment
  | .str => .ok (.text t)
  | _ => .error .malformed

/-- Is the scalar the fixed form of what is no number? -/
def isStandingNan (tag : Tag) (t : Text) : Bool :=
  tag = .float && (Binary64.splitSign (Text.lowered (t.filter (· ≠ '_')))).2 = ".nan".toList

end Yaml

end CommandManual
