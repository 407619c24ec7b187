import CommandManual.Text.Basic

/-!
# Dates and times

Definition and configuration files can hold a date, a time of day, or both with or without an
offset from universal time. The library checks that they exist in the calendar, compares them, and
writes them.

## Main definitions

* `Date`, `Clock`, `Zone`, `Moment`.
* `Moment.check`: the first part that does not exist, if there is one.
* `Moment.same`: are two moments the same point of time?
* `Moment.shown`, `Moment.quoted`: the plain text of a moment, and its text inside a container.
-/

namespace CommandManual

/-- A day of the calendar. -/
structure Date where
  year : Nat
  month : Nat
  day : Nat
  deriving DecidableEq, Repr

/-- A time of day, to the microsecond. -/
structure Clock where
  hour : Nat
  minute : Nat
  second : Nat
  micro : Nat
  deriving DecidableEq, Repr

/-- An offset from universal time, in minutes. -/
structure Zone where
  minutes : Int
  deriving DecidableEq, Repr

/-- A date, a time of day, or both. -/
inductive Moment where
  | date (d : Date)
  | clock (c : Clock)
  | stamp (d : Date) (c : Clock) (zone : Option Zone)
  deriving DecidableEq, Repr

namespace Moment

/-- Digits with zeros in front up to a width. -/
def padded (width n : Nat) : Text :=
  let ds := Text.ofNat n
  List.replicate (width - ds.length) '0' ++ ds

/-! ### The calendar -/

/-- Does the year have a leap day? -/
def isLeap (year : Nat) : Bool := year % 4 == 0 && (year % 100 != 0 || year % 400 == 0)

/-- The number of days in a month. -/
def daysIn (year month : Nat) : Nat :=
  if month = 2 then if isLeap year then 29 else 28
  else if month = 4 || month = 6 || month = 9 || month = 11 then 30
  else 31

/-- A part of a moment that does not exist. -/
inductive Fault where
  | year (n : Nat)
  | month
  | day
  | hour
  | minute
  | second
  | zone (z : Zone)
  deriving DecidableEq, Repr

/-- A length of time in minutes as days and seconds, the seconds not negative. -/
def spanText (minutes : Int) : Text :=
  let days := Int.fdiv minutes 1440
  let seconds := Int.fmod minutes 1440 * 60
  let parts := (if days = 0 then [] else ["days=".toList ++ Text.ofInt days])
    ++ (if seconds = 0 then [] else ["seconds=".toList ++ Text.ofInt seconds])
  let inner := if parts.isEmpty then ['0'] else Text.commaList parts
  "datetime.timedelta(".toList ++ inner ++ [')']

/-- The wording of a fault. -/
def Fault.message : Fault → Text
  | .year n => "year ".toList ++ Text.ofNat n ++ " is out of range".toList
  | .month => "month must be in 1..12".toList
  | .day => "day is out of range for month".toList
  | .hour => "hour must be in 0..23".toList
  | .minute => "minute must be in 0..59".toList
  | .second => "second must be in 0..59".toList
  | .zone z =>
    "offset must be a timedelta strictly between -timedelta(hours=24) and ".toList
      ++ "timedelta(hours=24), not ".toList ++ spanText z.minutes ++ ['.']

/-- The first part of a date that does not exist. -/
def checkDate (d : Date) : Option Fault :=
  if d.year < 1 || 9999 < d.year then some (.year d.year)
  else if d.month < 1 || 12 < d.month then some .month
  else if d.day < 1 || daysIn d.year d.month < d.day then some .day
  else none

/-- The first part of a time of day that does not exist. -/
def checkClock (c : Clock) : Option Fault :=
  if 23 < c.hour then some .hour
  else if 59 < c.minute then some .minute
  else if 59 < c.second then some .second
  else none

/-- The first part that does not exist: an offset of a day or more, then the date, then the
time. -/
def check : Moment → Option Fault
  | .date d => checkDate d
  | .clock c => checkClock c
  | .stamp d c zone =>
    match zone with
    | some z => if 1440 ≤ z.minutes.natAbs then some (.zone z) else (checkDate d).or (checkClock c)
    | none => (checkDate d).or (checkClock c)

/-! ### Comparing -/

/-- The number of days from the first day of the calendar to a date. -/
def dayNumber (d : Date) : Nat :=
  let years := d.year - 1
  let months := (List.range (d.month - 1)).map fun m => daysIn d.year (m + 1)
  365 * years + years / 4 - years / 100 + years / 400 + months.foldl (· + ·) 0 + (d.day - 1)

/-- The minutes of universal time from the first day of the calendar. -/
def minuteNumber (d : Date) (c : Clock) (z : Zone) : Int :=
  ((dayNumber d * 24 + c.hour) * 60 + c.minute : Nat) - z.minutes

/-- Are two moments the same point of time? Only those with an offset from universal time can be
written in more than one way. -/
def same : Moment → Moment → Bool
  | .stamp d c (some z), .stamp d' c' (some z') =>
    minuteNumber d c z == minuteNumber d' c' z' && c.second == c'.second && c.micro == c'.micro
  | m, n => m == n

/-! ### Writing -/

/-- The text of a date. -/
def dateText (d : Date) : Text :=
  padded 4 d.year ++ '-' :: padded 2 d.month ++ '-' :: padded 2 d.day

/-- The text of a time of day; a fraction is written only when there is one. -/
def clockText (c : Clock) : Text :=
  padded 2 c.hour ++ ':' :: padded 2 c.minute ++ ':' :: padded 2 c.second
    ++ if c.micro = 0 then [] else '.' :: padded 6 c.micro

/-- The text of an offset. -/
def zoneText (z : Zone) : Text :=
  (if z.minutes < 0 then '-' else '+') :: padded 2 (z.minutes.natAbs / 60)
    ++ ':' :: padded 2 (z.minutes.natAbs % 60)

/-- The plain text of a moment. -/
def shown : Moment → Text
  | .date d => dateText d
  | .clock c => clockText c
  | .stamp d c zone => dateText d ++ ' ' :: clockText c ++ (zone.map zoneText).getD []

/-- The parts of a time of day that are written in full: seconds and microseconds are left out
when they are zero. -/
def clockParts (c : Clock) : List Nat :=
  if c.micro ≠ 0 then [c.hour, c.minute, c.second, c.micro]
  else if c.second ≠ 0 then [c.hour, c.minute, c.second]
  else [c.hour, c.minute]

/-- The name of an offset. -/
def zoneName (z : Zone) : Text :=
  if z.minutes = 0 then "datetime.timezone.utc".toList
  else "datetime.timezone(".toList ++ spanText z.minutes ++ [')']

/-- The text of a moment inside a container: its kind, and its parts between parentheses. -/
def quoted : Moment → Text
  | .date d =>
    "datetime.date(".toList ++ Text.commaList ([d.year, d.month, d.day].map Text.ofNat) ++ [')']
  | .clock c =>
    "datetime.time(".toList ++ Text.commaList ((clockParts c).map Text.ofNat) ++ [')']
  | .stamp d c zone =>
    "datetime.datetime(".toList
      ++ Text.commaList (([d.year, d.month, d.day] ++ clockParts c).map Text.ofNat)
      ++ (match zone with
          | some z => ", tzinfo=".toList ++ zoneName z
          | none => []) ++ [')']

end Moment

end CommandManual
