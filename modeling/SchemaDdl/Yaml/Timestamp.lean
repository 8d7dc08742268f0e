import SchemaDdl.Calendar
import SchemaDdl.Numeral

/-!
# Timestamps

A timestamp is a date, alone or with a time of day, a fraction of a second and a zone.  Months, days
and hours may have one digit.  A date alone is taken for a timestamp without being marked as one
only when month and day have two digits.
-/

namespace SchemaDdl

namespace Yaml

/-- A zone: universal time, or a sign with hours and minutes. -/
inductive Zone
  | universal
  | shifted (negative : Bool) (hours minutes : Nat)
  deriving DecidableEq

/-- A time of day as written, the fraction by its digits. -/
structure TimeParts where
  hour : Nat
  minute : Nat
  second : Nat
  fraction : List Char
  zone : Option Zone
  deriving DecidableEq

structure TimestampParts where
  year : Nat
  month : Nat
  day : Nat
  time : Option TimeParts
  deriving DecidableEq

namespace TimestampParts

/-- The value of some digits in front, at least and at most as many as given, and what follows
them. -/
def digits? (least most : Nat) (chars : List Char) : Option (Nat × List Char) :=
  let digits := (chars.take most).takeWhile Char.isDigit
  if digits.length < least then none
  else (Numeral.digitsValue? 10 0 digits).map fun value => (value, chars.drop digits.length)

def after? (c : Char) : List Char → Option (List Char)
  | first :: rest => if first = c then some rest else none
  | [] => none

def isGap (c : Char) : Bool :=
  c = ' ' || c = '\t'

/-- What follows the letter or the gap between a date and a time. -/
def afterDate? : List Char → Option (List Char)
  | [] => none
  | c :: rest =>
      if c = 'T' ∨ c = 't' then some rest
      else if isGap c then some (rest.dropWhile isGap)
      else none

def zone? (chars : List Char) : Option (Option Zone) :=
  if chars.isEmpty then
    some none
  else
    match chars.dropWhile isGap with
    | ['Z'] => some (some .universal)
    | sign :: rest =>
        if sign = '+' ∨ sign = '-' then do
          let (hours, rest) ← digits? 1 2 rest
          if rest.isEmpty then
            return some (.shifted (sign = '-') hours 0)
          let (minutes, rest) ← digits? 2 2 (← after? ':' rest)
          if rest.isEmpty then return some (.shifted (sign = '-') hours minutes) else none
        else
          none
    | [] => none

def time? (chars : List Char) : Option TimeParts := do
  let (hour, rest) ← digits? 1 2 chars
  let (minute, rest) ← digits? 2 2 (← after? ':' rest)
  let (second, rest) ← digits? 2 2 (← after? ':' rest)
  let (fraction, rest) :=
    match after? '.' rest with
    | some decimals => (decimals.takeWhile Char.isDigit, decimals.dropWhile Char.isDigit)
    | none => ([], rest)
  let zone ← zone? rest
  return { hour, minute, second, fraction, zone }

def of? (chars : List Char) : Option TimestampParts := do
  let (year, rest) ← digits? 4 4 chars
  let (month, rest) ← digits? 1 2 (← after? '-' rest)
  let (day, rest) ← digits? 1 2 (← after? '-' rest)
  if rest.isEmpty then
    return { year, month, day, time := none }
  let time ← time? (← afterDate? rest)
  return { year, month, day, time := some time }

/-- Whether a text is taken for a timestamp without being marked as one. -/
def isImplicit (chars : List Char) : Bool :=
  match of? chars with
  | none => false
  | some parts => parts.time.isSome || chars.length = 10

/-- The microseconds of a fraction of a second, further digits being cut off. -/
def microseconds (fraction : List Char) : Nat :=
  let digits := fraction.take 6
  (Numeral.digitsValue? 10 0 (digits ++ List.replicate (6 - digits.length) '0')).getD 0

/-- The offset of a zone; nothing where it is a day or more. -/
def offset? : Zone → Option Offset
  | .universal => some .zero
  | .shifted negative hours minutes =>
      let seconds : Int := (hours * 60 + minutes) * 60
      Offset.of? (if negative then -seconds else seconds)

/-- The time of day and the offset of its zone, if there are such. -/
def clock? (time : TimeParts) : Option (ClockTime × Option Offset) := do
  let offset ←
    match time.zone with
    | none => some none
    | some zone => (offset? zone).map some
  let clock ← ClockTime.of? time.hour time.minute time.second (microseconds time.fraction)
  return (clock, offset)

end TimestampParts

end Yaml

end SchemaDdl
