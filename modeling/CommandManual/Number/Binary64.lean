import CommandManual.Text.Basic

/-!
# Binary floating-point numbers

A number of the 64-bit binary format, as a sign, a whole significand and a power of two. Every
operation is exact arithmetic on whole numbers followed by one rounding to the nearest number of
the format, a tie going to the even significand.

## Main definitions

* `Binary64`: the numbers of the format.
* `Binary64.ofRatio`, `Binary64.ofDecimal`: the number nearest to a quotient or a decimal.
* `Binary64.ofNat?`: the number nearest to a whole number, if the format reaches that far.
* `Binary64.mul`, `Binary64.add`: the two operations that base-sixty notation needs.
* `Binary64.ofText?`: a number read from its usual decimal spelling.

## Implementation notes

A finite number keeps its significand below `2 ^ 53` and its exponent at `-1074` or above, and one
of the two is at its bound or the significand at least `2 ^ 52`. `ofRatio` establishes this; no
other function builds a finite number except by flipping a sign.
-/

namespace CommandManual

/-- A number of the 64-bit binary floating-point format. -/
inductive Binary64 where
  /-- `significand * 2 ^ exponent`, negated or not. -/
  | finite (negative : Bool) (significand : Nat) (exponent : Int)
  | infinite (negative : Bool)
  | nan
  deriving DecidableEq, Repr, Inhabited

namespace Binary64

/-- The quotient of two numbers rounded to the nearest whole number, a tie to the even one. -/
def roundedQuotient (num den : Nat) : Nat :=
  let q := num / den
  let r := num % den
  if 2 * r < den then q
  else if den < 2 * r then q + 1
  else if q % 2 == 0 then q else q + 1

/-- `num / den` in units of `2 ^ e`, as a numerator and a denominator. -/
def inUnits (num den : Nat) (e : Int) : Nat × Nat :=
  if e < 0 then (num * Nat.pow 2 e.natAbs, den) else (num, den * Nat.pow 2 e.natAbs)

/-- The least exponent of a finite number. -/
def minExponent : Int := -1074

/-- The greatest exponent of a finite number with a full significand. -/
def maxExponent : Int := 971

/-- The exponent at which the significand of `num / den` fills fifty-three bits, or the least
exponent if that is greater. -/
def exponentOf (num den : Nat) : Int :=
  let e : Int := (Nat.log2 num : Int) - (Nat.log2 den : Int) - 52
  let (n, d) := inUnits num den e
  max minExponent (if n / d < Nat.pow 2 52 then e - 1 else e)

/-- The number nearest to `num / den`. -/
def ofRatio (negative : Bool) (num den : Nat) : Binary64 :=
  if num = 0 then .finite negative 0 minExponent
  else
    let e := exponentOf num den
    let (n, d) := inUnits num den e
    let m := roundedQuotient n d
    let (m, e) := if m = Nat.pow 2 53 then (Nat.pow 2 52, e + 1) else (m, e)
    if maxExponent < e then .infinite negative else .finite negative m e

/-- Zero. -/
def zero : Binary64 := .finite false 0 minExponent

/-- The number nearest to `digits * 10 ^ exponent`. Far outside the range of the format the power
of ten is not computed. -/
def ofDecimal (negative : Bool) (digits : Nat) (exponent : Int) : Binary64 :=
  let length : Int := (Nat.toDigits 10 digits).length
  if digits = 0 then ofRatio negative 0 1
  else if 400 < exponent + length then .infinite negative
  else if exponent + length < -400 then ofRatio negative 0 1
  else if exponent < 0 then ofRatio negative digits (Nat.pow 10 exponent.natAbs)
  else ofRatio negative (digits * Nat.pow 10 exponent.natAbs) 1

/-- The number with the opposite sign. -/
def neg : Binary64 → Binary64
  | .finite s m e => .finite (!s) m e
  | .infinite s => .infinite (!s)
  | .nan => .nan

/-- Is the number equal to zero? -/
def isZero : Binary64 → Bool
  | .finite _ m _ => m == 0
  | _ => false

/-- The absolute value of a finite number as a quotient. -/
def magnitude (m : Nat) (e : Int) : Nat × Nat :=
  if e < 0 then (m, Nat.pow 2 e.natAbs) else (m * Nat.pow 2 e.natAbs, 1)

/-- The number nearest to a whole number, if it is finite. -/
def ofNat? (n : Nat) : Option Binary64 :=
  match ofRatio false n 1 with
  | .infinite _ => none
  | x => some x

/-- The product of two numbers. -/
def mul : Binary64 → Binary64 → Binary64
  | .finite s m e, .finite s' m' e' =>
    let (n, d) := magnitude m e
    let (n', d') := magnitude m' e'
    ofRatio (s != s') (n * n') (d * d')
  | .nan, _ => .nan
  | _, .nan => .nan
  | .infinite s, .infinite s' => .infinite (s != s')
  | .infinite s, .finite s' m _ => if m = 0 then .nan else .infinite (s != s')
  | .finite s m _, .infinite s' => if m = 0 then .nan else .infinite (s != s')

/-- The sum of two numbers. -/
def add : Binary64 → Binary64 → Binary64
  | .finite s m e, .finite s' m' e' =>
    let (n, d) := magnitude m e
    let (n', d') := magnitude m' e'
    let signed (s : Bool) (k : Nat) : Int := if s then -(k : Int) else k
    let sum := signed s (n * d') + signed s' (n' * d)
    ofRatio (if sum = 0 then s && s' else sum < 0) sum.natAbs (d * d')
  | .infinite s, .infinite s' => if s = s' then .infinite s else .nan
  | .nan, _ => .nan
  | _, .nan => .nan
  | .infinite s, _ => .infinite s
  | _, y => y

/-- The whole number that a finite number equals, if it equals one. -/
def toInt? : Binary64 → Option Int
  | .finite s m e =>
    let (n, d) := magnitude m e
    if n % d = 0 then some (if s then -(n / d : Nat) else (n / d : Nat)) else none
  | _ => none

/-- Is the number at most zero? Not-a-number is not. -/
def isNonpositive : Binary64 → Bool
  | .finite s m _ => s || m == 0
  | .infinite s => s
  | .nan => false

/-- Do two numbers compare equal? The two zeros do, and not-a-number differs from itself. -/
def equals : Binary64 → Binary64 → Bool
  | .finite s m e, .finite s' m' e' => (m == 0 && m' == 0) || (s == s' && m == m' && e == e')
  | .infinite s, .infinite s' => s == s'
  | _, _ => false

/-! ### Reading -/

/-- The value of some decimal digits. -/
def digitsValue (ds : Text) : Nat := ds.foldl (fun n c => 10 * n + (c.toNat - 48)) 0

/-- A sign, and what follows it. -/
def splitSign : Text → Bool × Text
  | '-' :: t => (true, t)
  | '+' :: t => (false, t)
  | t => (false, t)

/-- Digits in which single underscores may separate two digits; the underscores are dropped. -/
def ungroup : Text → Option Text
  | [] => some []
  | '_' :: _ => none
  | c :: '_' :: d :: t =>
    if c.isDigit && d.isDigit then (ungroup (d :: t)).map (c :: ·) else none
  | c :: t => if c.isDigit then (ungroup t).map (c :: ·) else none

/-- The exponent after a decimal: nothing, or an `e` with an optional sign and digits. -/
def exponent? : Text → Option Int
  | [] => some 0
  | c :: t =>
    if c = 'e' || c = 'E' then
      let (negative, ds) := splitSign t
      match ungroup ds with
      | some (d :: ds) =>
        some (if negative then -(digitsValue (d :: ds) : Int) else (digitsValue (d :: ds) : Int))
      | _ => none
    else none

/-- A number without a sign: digits, perhaps a point and more digits, perhaps an exponent. At
least one digit stands before or after the point. -/
def unsigned? (negative : Bool) (t : Text) : Option Binary64 :=
  let mark (c : Char) : Bool := c = 'e' || c = 'E'
  let whole := t.takeWhile fun c => c ≠ '.' && !mark c
  let rest := t.drop whole.length
  let fraction := match rest with
    | '.' :: r => r.takeWhile fun c => !mark c
    | _ => []
  let tail := match rest with
    | '.' :: r => r.drop fraction.length
    | r => r
  match ungroup whole, ungroup fraction, exponent? tail with
  | some ws, some fs, some e =>
    if ws.isEmpty && fs.isEmpty then none
    else some (ofDecimal negative (digitsValue (ws ++ fs)) (e - fs.length))
  | _, _, _ => none

/-- A number in its usual spelling, with a sign or not; the words for infinity and not-a-number
may be in capitals. -/
def ofText? (t : Text) : Option Binary64 :=
  let (negative, body) := splitSign t
  let word := body.map Char.toLower
  if word = "inf".toList || word = "infinity".toList then some (.infinite negative)
  else if word = "nan".toList then some .nan
  else unsigned? negative body

end Binary64

end CommandManual
