import CommandManual.Value.Moment

/-!
# Dates and times in a YAML text

A date is written `2024-02-29`; a time of day may follow it, and an offset from universal time the
time of day. Where a time follows, or where a tag says that the scalar is a date, months and days
may have one digit.

## Main definitions

* `Timestamp`: the parts of a written date.
* `Timestamp.ofText?`: the parts of a text in this notation.
* `Timestamp.isTagless`: can the text be recognised without a tag?
* `Timestamp.moment`: the moment that the parts stand for.
-/

namespace CommandManual

namespace Yaml

/-- The parts of a written date. -/
structure Timestamp where
  date : Date
  /-- Have the month and the day two digits each? -/
  padded : Bool
  /-- The time of day with an offset. -/
  time : Option (Clock × Option Zone)
  deriving DecidableEq, Repr

namespace Timestamp

/-- The value of some digits. -/
def valueOf (ds : Text) : Nat := ds.foldl (fun n c => 10 * n + (c.toNat - 48)) 0

/-- Two digits, or one if `short` allows it: their number and value, and what follows. -/
def pair? (short : Bool) : Text → Option (Nat × Nat × Text)
  | a :: t =>
    match t with
    | b :: r =>
      if a.isDigit && b.isDigit then some (2, valueOf [a, b], r)
      else if a.isDigit && short then some (1, valueOf [a], t)
      else none
    | [] => if a.isDigit && short then some (1, valueOf [a], t) else none
  | [] => none

/-- What follows a character. -/
def after? (c : Char) : Text → Option Text
  | d :: t => if c = d then some t else none
  | [] => none

/-- A space or a tab. -/
def isGap (c : Char) : Bool := c = ' ' || c = '\t'

/-- The first six digits of a fraction as a number of millionths. -/
def micros (ds : Text) : Nat :=
  let six := ds.take 6
  valueOf (six ++ List.replicate (6 - six.length) '0')

/-- An offset at the end of a text. -/
def zone? (t : Text) : Option (Option Zone) :=
  match t.dropWhile isGap with
  | [] => if t.isEmpty then some none else none
  | ['Z'] => some (some ⟨0⟩)
  | s :: r => do
    if s ≠ '+' && s ≠ '-' then none
    let (_, hours, r) ← pair? true r
    let (minutes, r) ← match r with
      | [] => some (0, [])
      | _ => do
        let (_, m, r) ← pair? false (← after? ':' r)
        some (m, r)
    if !r.isEmpty then none
    let total : Int := 60 * hours + minutes
    some (some ⟨if s = '-' then -total else total⟩)

/-- A time of day with an offset, in front of which `T` or blanks stand. -/
def time? (t : Text) : Option (Clock × Option Zone) := do
  let t ← match t with
    | [] => none
    | c :: r =>
      if c = 'T' || c = 't' then some r
      else if isGap c then some (r.dropWhile isGap) else none
  let (_, hour, t) ← pair? true t
  let (_, minute, t) ← pair? false (← after? ':' t)
  let (_, second, t) ← pair? false (← after? ':' t)
  let (micro, t) := match after? '.' t with
    | some r => (micros (r.takeWhile Char.isDigit), r.dropWhile Char.isDigit)
    | none => (0, t)
  some (⟨hour, minute, second, micro⟩, ← zone? t)

/-- The parts of a date. -/
def ofText? (t : Text) : Option Timestamp := do
  let (_, y, t) ← pair? false t
  let (_, y', t) ← pair? false t
  let (m, month, t) ← pair? true (← after? '-' t)
  let (d, day, t) ← pair? true (← after? '-' t)
  let time ← if t.isEmpty then some none else (time? t).map some
  some { date := ⟨100 * y + y', month, day⟩, padded := m = 2 && d = 2, time := time }

/-- A date is recognised without a tag if a time follows it or month and day have two digits. -/
def isTagless (s : Timestamp) : Bool := s.padded || s.time.isSome

/-- The moment that the parts stand for. -/
def moment (s : Timestamp) : Moment :=
  match s.time with
  | none => .date s.date
  | some (c, z) => .stamp s.date c z

end Timestamp

end Yaml

end CommandManual
