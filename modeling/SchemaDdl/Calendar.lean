import SchemaDdl.Text.Digit

/-!
# Dates and moments

Dates are those of the proleptic Gregorian calendar in the years 1 to 9999.  A moment is a date with
a time of day in microseconds and, where it is known, an offset from universal time; two moments
with offsets are the same instant when they agree once the offsets are taken away.
-/

namespace SchemaDdl

namespace Calendar

def isLeap (year : Nat) : Bool :=
  year % 4 = 0 && (year % 100 != 0 || year % 400 = 0)

/-- The number of days of a month; none where there is no such month. -/
def daysInMonth (year month : Nat) : Nat :=
  match month with
  | 1 | 3 | 5 | 7 | 8 | 10 | 12 => 31
  | 4 | 6 | 9 | 11 => 30
  | 2 => if isLeap year then 29 else 28
  | _ => 0

end Calendar

structure Date where
  year : Nat
  month : Nat
  day : Nat
  inCalendar : 1 ≤ year ∧ year ≤ 9999 ∧ 1 ≤ day ∧ day ≤ Calendar.daysInMonth year month
  deriving DecidableEq

structure ClockTime where
  hour : Nat
  minute : Nat
  second : Nat
  microsecond : Nat
  inDay : hour < 24 ∧ minute < 60 ∧ second < 60 ∧ microsecond < 1000000
  deriving DecidableEq

/-- A difference from universal time in seconds, of less than one day. -/
structure Offset where
  seconds : Int
  belowDay : -86400 < seconds ∧ seconds < 86400
  deriving DecidableEq

/-- A date with a time of day, and the offset of that time where it is known. -/
structure Moment where
  date : Date
  time : ClockTime
  offset : Option Offset
  deriving DecidableEq

namespace Date

/-- The day with a given year, month and day of the month, if there is one. -/
def of? (year month day : Nat) : Option Date :=
  if inCalendar : 1 ≤ year ∧ year ≤ 9999 ∧ 1 ≤ day ∧ day ≤ Calendar.daysInMonth year month then
    some ⟨year, month, day, inCalendar⟩
  else
    none

def daysBeforeYear (year : Nat) : Nat :=
  (year - 1) * 365 + (year - 1) / 4 - (year - 1) / 100 + (year - 1) / 400

/-- The number of a day, counted from 1 January of the year 1 as day 1. -/
def ordinal (date : Date) : Nat :=
  (List.range' 1 (date.month - 1)).foldl
    (fun days month => days + Calendar.daysInMonth date.year month)
    (daysBeforeYear date.year) + date.day

/-- A date as year, month and day between hyphens. -/
def isoText (date : Date) : String :=
  Text.decimalPadded 4 date.year ++ "-" ++ Text.decimalPadded 2 date.month ++ "-" ++
    Text.decimalPadded 2 date.day

end Date

namespace ClockTime

/-- The time of day with given parts, if there is one. -/
def of? (hour minute second microsecond : Nat) : Option ClockTime :=
  if inDay : hour < 24 ∧ minute < 60 ∧ second < 60 ∧ microsecond < 1000000 then
    some ⟨hour, minute, second, microsecond, inDay⟩
  else
    none

def sinceMidnight (time : ClockTime) : Nat :=
  ((time.hour * 60 + time.minute) * 60 + time.second) * 1000000 + time.microsecond

/-- A time of day as hours, minutes and seconds between colons, with six decimals unless it is a
whole second. -/
def isoText (time : ClockTime) : String :=
  Text.decimalPadded 2 time.hour ++ ":" ++ Text.decimalPadded 2 time.minute ++ ":" ++
    Text.decimalPadded 2 time.second ++
    if time.microsecond = 0 then "" else "." ++ Text.decimalPadded 6 time.microsecond

end ClockTime

namespace Offset

/-- The offset of a number of seconds, if that is less than a day. -/
def of? (seconds : Int) : Option Offset :=
  if belowDay : -86400 < seconds ∧ seconds < 86400 then some ⟨seconds, belowDay⟩ else none

/-- The offset of universal time itself. -/
def zero : Offset := ⟨0, by decide⟩

/-- An offset as a sign with hours and minutes around a colon, and with seconds unless it is a whole
minute. -/
def isoText (offset : Offset) : String :=
  let size := offset.seconds.natAbs
  (if offset.seconds < 0 then "-" else "+") ++ Text.decimalPadded 2 (size / 3600) ++ ":" ++
    Text.decimalPadded 2 (size / 60 % 60) ++
    if size % 60 = 0 then "" else ":" ++ Text.decimalPadded 2 (size % 60)

end Offset

namespace Moment

/-- The microseconds from the start of the day 0 to the wall clock of a moment. -/
def wallClock (moment : Moment) : Int :=
  (moment.date.ordinal * 86400000000 + moment.time.sinceMidnight : Nat)

/-- The instant of a moment with an offset, as microseconds of universal time. -/
def instant? (moment : Moment) : Option Int :=
  moment.offset.map fun offset => moment.wallClock - offset.seconds * 1000000

/-- A moment as its date and time around a separator, followed by its offset. -/
def isoText (separator : String) (moment : Moment) : String :=
  moment.date.isoText ++ separator ++ moment.time.isoText ++
    match moment.offset with
    | none => ""
    | some offset => offset.isoText

end Moment

end SchemaDdl
