/-!
# Binary floating point numbers of 64 bits

A finite number is a sign, a whole mantissa below `2 ^ 53` and a power of two.  A fraction is
rounded to the nearest number, a fraction halfway between two of them to the one with the even
mantissa.  Results that are not a number carry the place they come from: two of them are the same
only when they have one origin.
-/

namespace SchemaDdl

inductive Binary64
  | finite (negative : Bool) (mantissa : Nat) (exponent : Int)
  | infinite (negative : Bool)
  | nan (origin : Nat)
  deriving DecidableEq

namespace Binary64

/-- The least power of two that multiplies a mantissa. -/
def leastExponent : Int := -1074

/-- The greatest power of two that multiplies a mantissa. -/
def greatestExponent : Int := 971

def zero (negative : Bool) : Binary64 :=
  .finite negative 0 leastExponent

/-- A fraction divided by a power of two, as numerator and denominator. -/
def scaled (numerator denominator : Nat) (exponent : Int) : Nat × Nat :=
  match exponent with
  | .ofNat power => (numerator, denominator * Nat.pow 2 power)
  | .negSucc power => (numerator * Nat.pow 2 (power + 1), denominator)

/-- The whole number nearest to a fraction, the even one of two. -/
def roundHalfEven (numerator denominator : Nat) : Nat :=
  let quotient := numerator / denominator
  let twice := 2 * (numerator % denominator)
  if twice < denominator ∨ (twice = denominator ∧ quotient % 2 = 0) then quotient
  else quotient + 1

/-- The power of two that leaves a positive fraction at least `2 ^ 52` and below `2 ^ 53`, or the
least power where that one is smaller. -/
def mantissaExponent (numerator denominator : Nat) : Int :=
  let estimate : Int := (numerator.log2 : Int) - (denominator.log2 : Int) - 52
  let (top, bottom) := scaled numerator denominator estimate
  max leastExponent (if top < bottom * Nat.pow 2 52 then estimate - 1 else estimate)

def ofRatio (negative : Bool) (numerator denominator : Nat) : Binary64 :=
  if numerator = 0 ∨ denominator = 0 then
    zero negative
  else
    let exponent := mantissaExponent numerator denominator
    let (top, bottom) := scaled numerator denominator exponent
    let rounded := roundHalfEven top bottom
    let (mantissa, exponent) :=
      if rounded = Nat.pow 2 53 then (Nat.pow 2 52, exponent + 1) else (rounded, exponent)
    if greatestExponent < exponent then .infinite negative
    else .finite negative mantissa exponent

/-- Beyond this power of ten every decimal is infinite, and below its negative every decimal is
zero. -/
def decimalLimit : Int := 400

/-- The number nearest to whole digits times a power of ten. -/
def ofDecimal (negative : Bool) (digits : Nat) (exponent : Int) : Binary64 :=
  if digits = 0 then
    zero negative
  else
    let magnitude : Int := exponent + ((Nat.toDigits 10 digits).length : Nat)
    if decimalLimit < magnitude then .infinite negative
    else if magnitude < -decimalLimit then zero negative
    else
      match exponent with
      | .ofNat power => ofRatio negative (digits * Nat.pow 10 power) 1
      | .negSucc power => ofRatio negative digits (Nat.pow 10 (power + 1))

/-- The magnitude of mantissa and power of two as a fraction. -/
def ratio (mantissa : Nat) (exponent : Int) : Nat × Nat :=
  match exponent with
  | .ofNat power => (mantissa * Nat.pow 2 power, 1)
  | .negSucc power => (mantissa, Nat.pow 2 (power + 1))

def negate : Binary64 → Binary64
  | .finite negative mantissa exponent => .finite (!negative) mantissa exponent
  | .infinite negative => .infinite (!negative)
  | .nan origin => .nan origin

/-- A number times a positive whole number, which is itself rounded first. -/
def scaleBy (factor : Nat) : Binary64 → Binary64
  | .finite negative mantissa exponent =>
      match ofRatio false factor 1 with
      | .finite _ factorMantissa factorExponent =>
          let (top, bottom) := ratio (mantissa * factorMantissa) (exponent + factorExponent)
          ofRatio negative top bottom
      | other => if mantissa = 0 then .zero negative else other
  | other => other

/-- The sum of two numbers; that of opposite infinities is not a number and comes from the given
origin. -/
def add (origin : Nat) : Binary64 → Binary64 → Binary64
  | .nan first, _ => .nan first
  | _, .nan second => .nan second
  | .infinite first, .infinite second =>
      if first = second then .infinite first else .nan origin
  | .infinite first, _ => .infinite first
  | _, .infinite second => .infinite second
  | .finite firstNegative first firstExponent, .finite secondNegative second secondExponent =>
      let exponent := min firstExponent secondExponent
      let signed (negative : Bool) (mantissa : Nat) (own : Int) : Int :=
        let size : Nat := mantissa * Nat.pow 2 (own - exponent).toNat
        if negative then -size else size
      let total := signed firstNegative first firstExponent +
        signed secondNegative second secondExponent
      if total = 0 then
        zero (firstNegative && secondNegative)
      else
        let (top, bottom) := ratio total.natAbs exponent
        ofRatio (total < 0) top bottom

end Binary64

end SchemaDdl
