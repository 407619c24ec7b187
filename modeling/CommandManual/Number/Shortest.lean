import CommandManual.Number.Binary64

/-!
# The shortest decimal that reads back

The text of a floating-point number has the fewest digits that round to the number again, and of
those the nearest. It is positional while the decimal point falls between the fourth zero in front
of the digits and the sixteenth digit, and has an exponent of at least two digits otherwise.

## Main definitions

* `Binary64.shortest`: the digits of a positive number and the place of its decimal point.
* `Binary64.toText`: the text of a number.
-/

namespace CommandManual

namespace Binary64

/-- The quotients between which every number rounds to a given one, and the number itself, over a
common denominator. -/
structure Neighbourhood where
  low : Nat
  value : Nat
  high : Nat
  den : Nat
  /-- Do the ends themselves round to the number? -/
  closed : Bool

/-- The neighbourhood of `m * 2 ^ e`. Below a power of two the numbers lie closer together. -/
def neighbourhood (m : Nat) (e : Int) : Neighbourhood :=
  let below := if m = Nat.pow 2 52 && minExponent < e then 1 else 2
  let unit := if e - 2 < 0 then 1 else Nat.pow 2 (e - 2).natAbs
  let den := if e - 2 < 0 then Nat.pow 2 (e - 2).natAbs else 1
  ⟨(4 * m - below) * unit, 4 * m * unit, (4 * m + 2) * unit, den, m % 2 == 0⟩

/-- Does `c * 10 ^ k` round to the number of the neighbourhood? -/
def Neighbourhood.holds (h : Neighbourhood) (c : Nat) (k : Int) : Bool :=
  let point := if k < 0 then c * h.den else c * h.den * Nat.pow 10 k.natAbs
  let unit := if k < 0 then Nat.pow 10 k.natAbs else 1
  if h.closed then h.low * unit ≤ point && point ≤ h.high * unit
  else h.low * unit < point && point < h.high * unit

/-- The decimal with step `10 ^ k` that reads back: one of the number's two neighbours on that
grid, the nearer if both do, the even one if they are equally near. -/
def Neighbourhood.onGrid (h : Neighbourhood) (k : Int) : Option Nat :=
  let num := if k < 0 then h.value * Nat.pow 10 k.natAbs else h.value
  let den := if k < 0 then h.den else h.den * Nat.pow 10 k.natAbs
  let c := num / den
  match h.holds c k, h.holds (c + 1) k with
  | true, true => some (roundedQuotient num den)
  | true, false => some c
  | false, true => some (c + 1)
  | false, false => none

/-- The number of digits in front of the point; zero or less counts the zeros after it. -/
def Neighbourhood.magnitude (h : Neighbourhood) : Int :=
  ((Nat.toDigits 10 (h.value * Nat.pow 10 350 / h.den)).length : Int) - 350

/-- Look for the first grid with a decimal that reads back, from `n` digits on. -/
def Neighbourhood.search (h : Neighbourhood) (p : Int) : (fuel n : Nat) → Nat × Int
  | 0, n => (h.value / h.den, p - n)
  | fuel + 1, n =>
    match h.onGrid (p - n) with
    | some c => (c, p - n)
    | none => h.search p fuel (n + 1)

/-- The shortest digits of `m * 2 ^ e`, without zeros at the end, and the place of the point: the
number is `0.d₁d₂… * 10 ^ place`. Seventeen digits always suffice. -/
def shortest (m : Nat) (e : Int) : Text × Int :=
  let h := neighbourhood m e
  let (c, k) := h.search h.magnitude 17 1
  let ds := Nat.toDigits 10 c
  (Text.trimEnd (· = '0') ds, k + ds.length)

/-- Digits with the point at a place, positionally. -/
def positional (ds : Text) (place : Int) : Text :=
  if place ≤ 0 then '0' :: '.' :: List.replicate place.natAbs '0' ++ ds
  else
    let n := place.natAbs
    if ds.length ≤ n then ds ++ List.replicate (n - ds.length) '0' ++ ['.', '0']
    else ds.take n ++ '.' :: ds.drop n

/-- Digits with the point after the first and an exponent. -/
def scientific (ds : Text) (place : Int) : Text :=
  let e := place - 1
  let exponent := Text.ofNat e.natAbs
  let padded := if exponent.length < 2 then '0' :: exponent else exponent
  let mantissa := match ds with
    | [] => ['0']
    | [d] => [d]
    | d :: ds => d :: '.' :: ds
  mantissa ++ 'e' :: (if e < 0 then '-' else '+') :: padded

/-- The text of a number. -/
def toText : Binary64 → Text
  | .nan => "nan".toList
  | .infinite s => if s then "-inf".toList else "inf".toList
  | .finite s m e =>
    let body :=
      if m = 0 then "0.0".toList
      else
        let (ds, place) := shortest m e
        if -4 < place && place ≤ 16 then positional ds place else scientific ds place
    if s then '-' :: body else body

end Binary64

end CommandManual
