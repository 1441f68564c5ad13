/-!
Dates and points in time, as YAML timestamps denote them: a calendar date of the proleptic
Gregorian calendar, and for a point in time a time of day to the microsecond with an optional
offset from UTC.

Two moments are equal as the values they denote are: dates by their fields; a date never
equals a point in time; two points in time without offset by their fields; two with offsets by
the instant they name; and a point in time with an offset never equals one without.

A moment prints as `2001-12-14` or `2001-12-14 21:59:43.100000-05:00`, and is quoted in messages
as the constructor call that builds it, `datetime.date(2001, 12, 14)`.
-/

namespace Courier

/-- A time of day, perhaps with an offset from UTC. -/
structure Clock where
  hour : Nat
  minute : Nat
  second : Nat
  microsecond : Nat
  offset : Option Int
  deriving Repr, BEq, Inhabited

/-- A calendar date, with a time of day when it is a point in time. -/
structure Moment where
  year : Nat
  month : Nat
  day : Nat
  clock : Option Clock
  deriving Repr, BEq, Inhabited

def isLeapYear (year : Nat) : Bool :=
  year % 4 == 0 && (year % 100 != 0 || year % 400 == 0)

/-- The number of days of a month; zero for a number that names no month. -/
def daysInMonth (year month : Nat) : Nat :=
  match month with
  | 1 | 3 | 5 | 7 | 8 | 10 | 12 => 31
  | 4 | 6 | 9 | 11 => 30
  | 2 => if isLeapYear year then 29 else 28
  | _ => 0

/-- The number of a day counted from 1 January of year 1. -/
def dayNumber (year month day : Nat) : Nat :=
  let y := year - 1
  let beforeYear := y * 365 + y / 4 - y / 100 + y / 400
  let beforeMonth := (List.range (month - 1)).foldl (fun acc m => acc + daysInMonth year (m + 1)) 0
  beforeYear + beforeMonth + day

/-- The first problem with the fields of a date, as the message that reports it. -/
def dateProblem? (year month day : Nat) : Option String :=
  if year < 1 || year > 9999 then some ("year " ++ toString year ++ " is out of range")
  else if month < 1 || month > 12 then some "month must be in 1..12"
  else if day < 1 || day > daysInMonth year month then some "day is out of range for month"
  else none

/-- The first problem with the fields of a time of day, as the message that reports it. -/
def clockProblem? (c : Clock) : Option String :=
  if c.hour > 23 then some "hour must be in 0..23"
  else if c.minute > 59 then some "minute must be in 0..59"
  else if c.second > 59 then some "second must be in 0..59"
  else if c.microsecond > 999999 then some "microsecond must be in 0..999999"
  else none

/-- The first problem with a moment's fields: its date's, then its time of day's. -/
def Moment.problem? (m : Moment) : Option String :=
  match dateProblem? m.year m.month m.day with
  | some p => some p
  | none => m.clock.bind clockProblem?

/-- The microseconds from the start of 1 January of year 1 to a point in time, read in UTC. -/
def Moment.utcMicros (m : Moment) (c : Clock) : Int :=
  let seconds : Int := (dayNumber m.year m.month m.day : Int) * 86400 +
    (c.hour * 3600 + c.minute * 60 + c.second : Nat) - c.offset.getD 0
  seconds * 1000000 + c.microsecond

/-- Whether two moments denote the same value. -/
def Moment.same (a b : Moment) : Bool :=
  match a.clock, b.clock with
  | none, none => a.year == b.year && a.month == b.month && a.day == b.day
  | some x, some y =>
    match x.offset, y.offset with
    | none, none => a == b
    | some _, some _ => a.utcMicros x == b.utcMicros y
    | _, _ => false
  | _, _ => false

def zeroPadded (width : Nat) (n : Nat) : String :=
  let ds := toString n
  String.ofList (List.replicate (width - ds.length) '0') ++ ds

/-- An offset from UTC as `+HH:MM`, with `:SS` when it has seconds. -/
def offsetText (offset : Int) : String :=
  let sign := if offset < 0 then "-" else "+"
  let s := offset.natAbs
  let base := sign ++ zeroPadded 2 (s / 3600) ++ ":" ++ zeroPadded 2 (s % 3600 / 60)
  if s % 60 == 0 then base else base ++ ":" ++ zeroPadded 2 (s % 60)

/-- The text a moment prints as: the date, then a space, the time, the microseconds when there
are any, and the offset when there is one. -/
def Moment.text (m : Moment) : String :=
  let date := zeroPadded 4 m.year ++ "-" ++ zeroPadded 2 m.month ++ "-" ++ zeroPadded 2 m.day
  match m.clock with
  | none => date
  | some c =>
    date ++ " " ++ zeroPadded 2 c.hour ++ ":" ++ zeroPadded 2 c.minute ++ ":" ++
      zeroPadded 2 c.second ++
      (if c.microsecond == 0 then "" else "." ++ zeroPadded 6 c.microsecond) ++
      (match c.offset with
       | some o => offsetText o
       | none => "")

/-- A span of seconds quoted as the constructor call that builds it: whole days (floored) and
the seconds left, each only when not zero, `datetime.timedelta(0)` for none. -/
def spanEcho (seconds : Int) : String :=
  let days := seconds / 86400
  let rest := seconds % 86400
  let parts := (if days == 0 then [] else ["days=" ++ toString days]) ++
    (if rest == 0 then [] else ["seconds=" ++ toString rest])
  "datetime.timedelta(" ++ (if parts.isEmpty then "0" else ", ".intercalate parts) ++ ")"

/-- A moment quoted as the constructor call that builds it. Trailing zero seconds and
microseconds are left out, and an offset shows as its time zone, UTC by name. -/
def Moment.echo (m : Moment) : String :=
  let date := [toString m.year, toString m.month, toString m.day]
  match m.clock with
  | none => "datetime.date(" ++ ", ".intercalate date ++ ")"
  | some c =>
    let time :=
      if c.microsecond != 0 then [c.hour, c.minute, c.second, c.microsecond]
      else if c.second != 0 then [c.hour, c.minute, c.second]
      else [c.hour, c.minute]
    let zone := match c.offset with
      | none => []
      | some 0 => ["tzinfo=datetime.timezone.utc"]
      | some o => ["tzinfo=datetime.timezone(" ++ spanEcho o ++ ")"]
    "datetime.datetime(" ++ ", ".intercalate (date ++ time.map toString ++ zone) ++ ")"

end Courier
