import CommandManual.Number.Binary64
import CommandManual.Toml.Text
import CommandManual.Value.Basic

/-!
# Numbers and dates of a TOML text

Whole numbers in four bases, floating-point numbers, dates and times. A reader takes the longest
text that has the form; what is wrong with the rest shows when the statement has to end.

## Main definitions

* `Fault`: why a text is not read.
* `number?`, `moment?`: a number, and a date or a time.
-/

namespace CommandManual

namespace Toml

/-- Why a text is not read. -/
inductive Fault where
  /-- The text is not TOML. -/
  | malformed
  /-- A decimal number is too long to be read. -/
  | digits (count : Nat)
  /-- Values stand too deep in each other. -/
  | tooDeep
  deriving DecidableEq, Repr

/-- The wording of a fault; a malformed text has none, nor has one that is too deep. -/
def Fault.message : Fault → Text
  | .malformed | .tooDeep => []
  | .digits n =>
    "Exceeds the limit (4300 digits) for integer string conversion: value has ".toList
      ++ Text.ofNat n ++ " digits; use sys.set_int_max_str_digits() to increase the limit".toList

/-! ### Numbers -/

/-- Digits of a class, and underscores with a digit behind them. -/
def digitTail (p : Char → Bool) : Text → Text
  | [] => []
  | c :: t => if p c || (c = '_' && t.head?.any p) then c :: digitTail p t else []

/-- Digits of a class; single underscores may separate two of them. -/
def digitRun (p : Char → Bool) (t : Text) : Text := if t.head?.any p then digitTail p t else []

/-- The value of digits in a base, underscores left out. -/
def valueIn (base : Nat) (ds : Text) : Nat :=
  (ds.filter (· ≠ '_')).foldl (fun n c => base * n + hexValue c) 0

/-- The class of digits and the base behind a zero and a letter. -/
def base? : Char → Option ((Char → Bool) × Nat)
  | 'x' => some (isHexDigit, 16)
  | 'b' => some (fun c => c = '0' || c = '1', 2)
  | 'o' => some (fun c => '0' ≤ c && c ≤ '7', 8)
  | _ => none

/-- A number with the mark of its base. -/
def basedNumber? : Text → Option (Int × Text)
  | '0' :: c :: t => do
    let (p, base) ← base? c
    match digitRun p t with
    | [] => none
    | ds => some ((valueIn base ds : Int), t.drop ds.length)
  | _ => none

/-- A fraction with its point, if there is one. -/
def fraction : Text → Text
  | '.' :: t => match digitRun Char.isDigit t with
    | [] => []
    | ds => '.' :: ds
  | _ => []

/-- An exponent with its letter, if there is one. -/
def exponent : Text → Text
  | e :: t =>
    if e = 'e' || e = 'E' then
      let sign := (t.take 1).takeWhile fun c => c = '+' || c = '-'
      match digitRun Char.isDigit (t.drop sign.length) with
      | [] => []
      | ds => e :: sign ++ ds
    else []
  | [] => []

/-- The digits of a decimal number: a zero alone, or digits that begin with none. -/
def decimalDigits (t : Text) : Text :=
  match t with
  | '0' :: _ => ['0']
  | _ => digitRun Char.isDigit t

/-- A decimal number, whole or with a fraction or an exponent. -/
def decimal? (t : Text) : Except Fault (Option (Value × Text)) :=
  let (negative, u) := Binary64.splitSign t
  match decimalDigits u with
  | [] => .ok none
  | whole =>
    let f := fraction (u.drop whole.length)
    let e := exponent (u.drop (whole.length + f.length))
    let rest := u.drop (whole.length + f.length + e.length)
    if f.isEmpty && e.isEmpty then
      let count := (whole.filter (· ≠ '_')).length
      if 4300 < count then .error (.digits count)
      else
        let n : Int := valueIn 10 whole
        .ok (some (.int (if negative then -n else n), rest))
    else
      let x := (Binary64.ofText? (whole ++ f ++ e)).getD .nan
      .ok (some (.float (if negative then x.neg else x), rest))

/-- One of the words for infinity and not-a-number. -/
def special? (t : Text) : Option (Value × Text) :=
  let (negative, u) := Binary64.splitSign t
  if u.startsWith "inf".toList then some (.float (.infinite negative), u.drop 3)
  else if u.startsWith "nan".toList then some (.float .nan, u.drop 3)
  else none

/-- A number. -/
def number? (t : Text) : Except Fault (Option (Value × Text)) :=
  match basedNumber? t with
  | some (n, rest) => .ok (some (.int n, rest))
  | none => do
    match ← decimal? t with
    | some r => return some r
    | none => return special? t

/-! ### Dates and times -/

/-- A number of exactly `n` digits between two bounds. -/
def fixed? (n low high : Nat) (t : Text) : Option (Nat × Text) :=
  let ds := t.take n
  let v := valueIn 10 ds
  if ds.length = n && ds.all Char.isDigit && low ≤ v && v ≤ high then some (v, t.drop n) else none

/-- What follows a character. -/
def after? (c : Char) : Text → Option Text
  | d :: t => if d = c then some t else none
  | [] => none

/-- A time of day. Digits of the fraction beyond the sixth are left out. -/
def clock? (t : Text) : Option (Clock × Text) := do
  let (hour, t) ← fixed? 2 0 23 t
  let (minute, t) ← fixed? 2 0 59 (← after? ':' t)
  let (second, t) ← fixed? 2 0 59 (← after? ':' t)
  let ds := ((after? '.' t).getD []).takeWhile Char.isDigit
  let six := ds.take 6
  let micro := valueIn 10 (six ++ List.replicate (6 - six.length) '0')
  if ds.isEmpty then some (⟨hour, minute, second, 0⟩, t)
  else some (⟨hour, minute, second, micro⟩, t.drop (ds.length + 1))

/-- An offset from universal time. -/
def zone? : Text → Option (Zone × Text)
  | [] => none
  | c :: t =>
    if c = 'Z' || c = 'z' then some (⟨0⟩, t)
    else if c = '+' || c = '-' then do
      let (hours, t) ← fixed? 2 0 23 t
      let (minutes, t) ← fixed? 2 0 59 (← after? ':' t)
      let total : Int := 60 * hours + minutes
      some (⟨if c = '-' then -total else total⟩, t)
    else none

/-- The time behind a date: a mark, a time of day, and perhaps an offset. -/
def dateTime? (t : Text) : Option (Clock × Option Zone × Text) :=
  match t with
  | c :: u =>
    if c = 'T' || c = 't' || c = ' ' then do
      let (clock, u) ← clock? u
      match zone? u with
      | some (z, u) => some (clock, some z, u)
      | none => some (clock, none, u)
    else none
  | [] => none

/-- A date, perhaps with a time. -/
def date? (t : Text) : Option (Moment × Text) := do
  let (year, t) ← fixed? 4 0 9999 t
  let (month, t) ← fixed? 2 1 12 (← after? '-' t)
  let (day, t) ← fixed? 2 1 31 (← after? '-' t)
  match dateTime? t with
  | some (c, z, t) => some (.stamp ⟨year, month, day⟩ c z, t)
  | none => some (.date ⟨year, month, day⟩, t)

/-- A date or a time of day; it has to exist. -/
def moment? (t : Text) : Except Fault (Option (Value × Text)) :=
  match date? t with
  | some (m, rest) =>
    if m.check.isSome then .error .malformed else .ok (some (.moment m, rest))
  | none => .ok ((clock? t).map fun r => (.moment (.clock r.1), r.2))

end Toml

end CommandManual
