/-!
# Dates and moments

Dates and moments that a catalog file may hold as plain values.

Main definitions:

- `Date`, `Moment`: a calendar date, and a time of day on one.
- `Date.fault?`, `Moment.fault?`: what keeps the parts from being a date or a time.
- `Date.text`, `Moment.text`: the usual written form.
- `Moment.instant`: the point of time that a moment names.
-/

namespace PageObjects

/-- A calendar date. -/
structure Date where
  year : Nat
  month : Nat
  day : Nat
deriving Repr, DecidableEq, BEq

/-- A time of day on a date, with the distance from universal time in minutes. -/
structure Moment where
  date : Date
  hour : Nat
  minute : Nat
  second : Nat
  micro : Nat
  offset : Option Int
deriving Repr, DecidableEq, BEq

/-- Zeros in front of a number up to a width. -/
def padded (width n : Nat) : String :=
  let digits := toString n
  String.ofList (List.replicate (width - digits.length) '0') ++ digits

/-- Whether a year has a leap day. -/
def isLeapYear (year : Nat) : Bool :=
  (year % 4 == 0 && year % 100 != 0) || year % 400 == 0

/-- The number of days of a month. -/
def daysIn (year month : Nat) : Nat :=
  if month == 2 then (if isLeapYear year then 29 else 28)
  else if month == 4 || month == 6 || month == 9 || month == 11 then 30 else 31

/-- What keeps the parts from being a date. -/
def Date.fault? (d : Date) : Option String :=
  if d.year < 1 || 9999 < d.year then some s!"year {d.year} is out of range"
  else if d.month < 1 || 12 < d.month then some "month must be in 1..12"
  else if d.day < 1 || daysIn d.year d.month < d.day then some "day is out of range for month"
  else none

/-- What keeps the parts from being a moment. -/
def Moment.fault? (m : Moment) : Option String :=
  match m.date.fault? with
  | some fault => some fault
  | none =>
    if 23 < m.hour then some "hour must be in 0..23"
    else if 59 < m.minute then some "minute must be in 0..59"
    else if 59 < m.second then some "second must be in 0..59"
    else none

/-- The number of days up to a date, counted from the first year on. -/
def Date.days (d : Date) : Nat :=
  let past := d.year - 1
  let months := (List.range d.month).map fun m => if m == 0 then 0 else daysIn d.year m
  past * 365 + past / 4 - past / 100 + past / 400 + months.foldl (· + ·) 0 + d.day

/-- The point of time that a moment names, in millionths of a second of universal
time.  A moment without a distance from it counts as if it had none. -/
def Moment.instant (m : Moment) : Int :=
  let minutes : Int := ((m.date.days * 24 + m.hour) * 60 + m.minute : Nat)
  (((minutes - m.offset.getD 0) * 60 + m.second) * 1000000) + m.micro

/-- Year, month and day between dashes. -/
def Date.text (d : Date) : String :=
  padded 4 d.year ++ "-" ++ padded 2 d.month ++ "-" ++ padded 2 d.day

/-- A distance from universal time as hours and minutes. -/
def offsetText (minutes : Int) : String :=
  let n := minutes.natAbs
  (if minutes < 0 then "-" else "+") ++ padded 2 (n / 60) ++ ":" ++ padded 2 (n % 60)

/-- Date, time and distance from universal time. -/
def Moment.text (m : Moment) : String :=
  m.date.text ++ " " ++ padded 2 m.hour ++ ":" ++ padded 2 m.minute ++ ":" ++ padded 2 m.second
    ++ (if m.micro == 0 then "" else "." ++ padded 6 m.micro)
    ++ (m.offset.map offsetText).getD ""

/-- The parts of a date in brackets. -/
def Date.inspect (d : Date) : String :=
  s!"datetime.date({d.year}, {d.month}, {d.day})"

/-- A distance from universal time by its days and seconds. -/
def offsetInspect (minutes : Int) : String :=
  if minutes == 0 then "datetime.timezone.utc"
  else
    let seconds := minutes * 60
    let days := Int.fdiv seconds 86400
    let rest := Int.fmod seconds 86400
    let parts := (if days == 0 then [] else [s!"days={days}"])
      ++ (if rest == 0 then [] else [s!"seconds={rest}"])
    "datetime.timezone(datetime.timedelta(" ++ ", ".intercalate parts ++ "))"

/-- The parts of a moment in brackets. -/
def Moment.inspect (m : Moment) : String :=
  let tail := if m.micro != 0 then s!", {m.second}, {m.micro}"
    else if m.second != 0 then s!", {m.second}" else ""
  let zone := (m.offset.map fun o => ", tzinfo=" ++ offsetInspect o).getD ""
  s!"datetime.datetime({m.date.year}, {m.date.month}, {m.date.day}, {m.hour}, {m.minute}"
    ++ tail ++ zone ++ ")"

end PageObjects
