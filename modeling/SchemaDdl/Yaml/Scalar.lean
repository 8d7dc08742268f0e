import SchemaDdl.Value
import SchemaDdl.Yaml.Base64
import SchemaDdl.Yaml.Fault
import SchemaDdl.Yaml.Tag

/-!
# Values of scalars

The value for which the text of a scalar stands, by the type of the scalar.  Underscores in numbers
do not count, and numbers may be written in parts to the base of sixty.
-/

namespace SchemaDdl

namespace Yaml

namespace Scalar

/-- A numeral without underscores, its sign apart; there has to be one. -/
def signedNumeral (chars : List Char) : Except Fault (Bool × List Char) :=
  match chars.filter (· ≠ '_') with
  | [] => .error .emptyNumber
  | '-' :: rest => .ok (true, rest)
  | '+' :: rest => .ok (false, rest)
  | rest => .ok (false, rest)

def colonParts (chars : List Char) : List (List Char) :=
  chars.splitOn ':'

/-- A whole number with or without a minus sign. -/
def signed (negative : Bool) (value : Int) : Int :=
  if negative then -value else value

/-- The whole number that a numeral in a base stands for. -/
def integerIn (base : Nat) (chars : List Char) : Except Fault Int :=
  match Numeral.integer? base chars with
  | none => .error .invalidScalar
  | some value => .ok value

/-- The whole number that an unsigned numeral stands for: in base two, sixteen or eight by what it
begins with, in parts to the base of sixty, or in base ten. -/
def unsignedInteger (chars : List Char) : Except Fault Int :=
  match chars with
  | [] => .error .emptyNumber
  | ['0'] => .ok 0
  | '0' :: 'b' :: digits => integerIn 2 digits
  | '0' :: 'x' :: digits => integerIn 16 digits
  | '0' :: digits => integerIn 8 ('0' :: digits)
  | chars =>
      if chars.contains ':' then do
        let parts ← (colonParts chars).mapM (integerIn 10)
        return parts.foldl (fun value part => value * 60 + part) 0
      else
        integerIn 10 chars

def integer (chars : List Char) : Except Fault Int := do
  let (negative, chars) ← signedNumeral chars
  return signed negative (← unsignedInteger chars)

/-- The floating point number that a numeral stands for. -/
def floatOf (origin : Nat) (chars : List Char) : Except Fault Binary64 :=
  match Numeral.float? origin chars with
  | none => .error .invalidScalar
  | some value => .ok value

/-- The sum of parts to the base of sixty, the last part first. -/
def sumSixtieths (origin : Nat) (parts : List Binary64) : Binary64 :=
  (parts.foldl
    (fun (sum, base) part => (Binary64.add origin sum (part.scaleBy base), base * 60))
    (Binary64.zero false, 1)).1

/-- The origin of what is not a number and is written by its own word. -/
def sharedOrigin : Nat := 0

/-- The floating point number that a scalar stands for.  What is not a number is the same wherever
it is written by its own word; otherwise it comes from the given origin. -/
def float (origin : Nat) (chars : List Char) : Except Fault Binary64 := do
  let (negative, chars) ← signedNumeral (chars.map Char.toLower)
  let value ←
    if chars = ".inf".toList then pure (Binary64.infinite false)
    else if chars = ".nan".toList then return .nan sharedOrigin
    else if chars.contains ':' then do
      let parts ← (colonParts chars).mapM (floatOf origin)
      pure (sumSixtieths origin parts.reverse)
    else
      floatOf origin chars
  return if negative then value.negate else value

/-- The truth value that a word stands for, in letters of either case. -/
def truth (chars : List Char) : Except Fault Bool :=
  let word := String.ofList (chars.map Char.toLower)
  if ["yes", "true", "on"].contains word then .ok true
  else if ["no", "false", "off"].contains word then .ok false
  else .error .unknownTruthValue

/-- The value of a timestamp as written: a date, or a moment where there is a time. -/
def timestampOf (parts : TimestampParts) : Option Value := do
  match parts.time with
  | none => return .date (← Date.of? parts.year parts.month parts.day)
  | some time =>
      let (clock, offset) ← TimestampParts.clock? time
      let date ← Date.of? parts.year parts.month parts.day
      return .moment { date, time := clock, offset }

def timestamp (chars : List Char) : Except Fault Value :=
  match (Tag.spellings chars).findSome? TimestampParts.of? with
  | none => .error .unreadableTimestamp
  | some parts =>
      match timestampOf parts with
      | none => .error .invalidScalar
      | some value => .ok value

def octets (chars : List Char) : Except Fault (List UInt8) :=
  if chars.all fun c => c.toNat < 0x80 then
    match Base64.decode? chars with
    | none => .error .malformed
    | some octets => .ok octets
  else
    .error .malformed

/-- The value of a scalar of a type; `origin` is that of a result that is not a number. -/
def value (tag : Tag) (origin : Nat) (chars : List Char) : Except Fault Value :=
  match tag with
  | .null => .ok .null
  | .bool => (truth chars).map .bool
  | .int => (integer chars).map .int
  | .float => (float origin chars).map .float
  | .binary => (octets chars).map .bytes
  | .timestamp => timestamp chars
  | .text => .ok (.text (String.ofList chars))
  | .merge | .value | .sequence | .mapping | .set | .orderedMapping | .pairs | .unknown =>
      .error .malformed

end Scalar

end Yaml

end SchemaDdl
