/-!
# Days and moments

The two kinds of calendar data a document can hold: a day, and a moment with an optional offset
from universal time.  Both have a plain text, used in messages, and a call-like literal, used
inside lists and maps.
-/

namespace AgentLint

/-- A day of the proleptic Gregorian calendar. -/
structure Day where
  /-- Year, from 1 to 9999. -/
  year : Nat
  /-- Month, from 1. -/
  month : Nat
  /-- Day of the month, from 1. -/
  day : Nat
  deriving DecidableEq, Repr

/-- A day and a time of day; `offset` is in minutes east of universal time. -/
structure Moment where
  /-- The local day. -/
  day : Day
  /-- Hour, 0 to 23. -/
  hour : Nat
  /-- Minute, 0 to 59. -/
  minute : Nat
  /-- Second, 0 to 59. -/
  second : Nat
  /-- Millionths of a second. -/
  micro : Nat
  /-- Minutes east of universal time, if known. -/
  offset : Option Int
  deriving DecidableEq, Repr

namespace Calendar

/-- A number padded with zeros to at least `width` digits. -/
def pad (width n : Nat) : String :=
  let ds := Nat.toDigits 10 n
  String.ofList (List.replicate (width - ds.length) '0' ++ ds)

/-- A leap year of the Gregorian calendar. -/
def isLeap (y : Nat) : Bool := y % 4 == 0 && (y % 100 != 0 || y % 400 == 0)

/-- Number of days of a month. -/
def daysIn (y m : Nat) : Nat :=
  if m == 2 then (if isLeap y then 29 else 28)
  else if m == 4 || m == 6 || m == 9 || m == 11 then 30 else 31

/-- Number of days before the first of the month, counted from a fixed origin. -/
def daysBefore (y m : Nat) : Nat :=
  let y' := y - 1
  365 * y' + y' / 4 - y' / 100 + y' / 400 +
    ((List.range (m - 1)).map fun i => daysIn y (i + 1)).foldl (· + ·) 0

end Calendar

open Calendar

/-- `2024-01-02`. -/
def Day.text (d : Day) : String := pad 4 d.year ++ "-" ++ pad 2 d.month ++ "-" ++ pad 2 d.day

/-- `datetime.date(2024, 1, 2)`. -/
def Day.literal (d : Day) : String :=
  "datetime.date(" ++ toString d.year ++ ", " ++ toString d.month ++ ", " ++ toString d.day ++ ")"

/-- An offset as sign, hours and minutes. -/
def offsetText (o : Int) : String :=
  (if o < 0 then "-" else "+") ++ pad 2 (o.natAbs / 60) ++ ":" ++ pad 2 (o.natAbs % 60)

/-- `2024-01-02T03:04:05.000006+01:00`, with `sep` between day and time; zero millionths are left
out. -/
def Moment.textWith (sep : String) (m : Moment) : String :=
  m.day.text ++ sep ++ pad 2 m.hour ++ ":" ++ pad 2 m.minute ++ ":" ++ pad 2 m.second ++
    (if m.micro == 0 then "" else "." ++ pad 6 m.micro) ++
    (match m.offset with
      | none => ""
      | some o => offsetText o)

/-- A span of minutes as days and seconds, the seconds never negative. -/
def spanLiteral (minutes : Int) : String :=
  let seconds := minutes * 60
  let days := seconds.fdiv 86400
  let rest := seconds.fmod 86400
  let parts := (if days == 0 then [] else ["days=" ++ toString days]) ++
    (if rest == 0 then [] else ["seconds=" ++ toString rest])
  "datetime.timedelta(" ++ (if parts.isEmpty then "0" else ", ".intercalate parts) ++ ")"

/-- The literal of an offset. -/
def zoneLiteral (o : Int) : String :=
  if o == 0 then "datetime.timezone.utc" else "datetime.timezone(" ++ spanLiteral o ++ ")"

/-- The literal of a moment; trailing zero fields are left out down to the minute. -/
def Moment.literal (m : Moment) : String :=
  let fields := [m.day.year, m.day.month, m.day.day, m.hour, m.minute] ++
    (if m.second == 0 && m.micro == 0 then [] else [m.second]) ++
    (if m.micro == 0 then [] else [m.micro])
  let zone := match m.offset with
    | none => ""
    | some o => ", tzinfo=" ++ zoneLiteral o
  "datetime.datetime(" ++ ", ".intercalate (fields.map fun (n : Nat) => toString n) ++ zone ++ ")"

/-- Millionths of a second since a fixed origin, in universal time where the offset is known. -/
def Moment.instant (m : Moment) : Int :=
  let days : Int := daysBefore m.day.year m.day.month + m.day.day
  let minutes : Int := (days * 24 + m.hour) * 60 + m.minute - m.offset.getD 0
  (minutes * 60 + m.second) * 1000000 + m.micro

/-- Two moments that denote the same point in time; one with an offset never equals one without. -/
def Moment.same (a b : Moment) : Bool :=
  a.offset.isSome == b.offset.isSome && a.instant == b.instant

end AgentLint
