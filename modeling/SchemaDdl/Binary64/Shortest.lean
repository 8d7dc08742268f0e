import SchemaDdl.Binary64
import SchemaDdl.Text.Digit

/-!
# Shortest decimals

The text of a floating point number has the fewest digits that read back as the number.  The
decimals that round to it fill an interval around it; on the grid of the decimals with one, two and
up to seventeen digits, the two neighbours of the number are tried, and the first grid with a
neighbour in the interval decides.  Of two neighbours in the interval the nearer one is taken.  How
the digits are then set, with or without an exponent, is a `DecimalStyle`.
-/

namespace SchemaDdl

/-- Whole digits times a power of ten. -/
structure Decimal where
  digits : Nat
  exponent : Int
  deriving DecidableEq

/-- How decimals are written: the positions of the decimal point, counted from the first digit,
between which there is no exponent, the decimals of a whole number, the letter of an exponent and
the least number of its digits, and the words for what is not finite. -/
structure DecimalStyle where
  leastPoint : Int
  greatestPoint : Int
  wholeDecimals : String
  exponentMark : String
  exponentWidth : Nat
  infinityWord : String
  nanWord : String

namespace Binary64

/-- The magnitudes that round to a number, in quarters of its last binary place: the bounds, the
number itself between them, and whether the bounds belong to the interval. -/
structure RoundingInterval where
  lower : Nat
  centre : Nat
  upper : Nat
  exponent : Int
  closed : Bool

/-- The interval of the magnitudes that round to a finite number.  Below a power of two the numbers
lie closer together. -/
def roundingInterval (mantissa : Nat) (exponent : Int) : RoundingInterval where
  lower := 4 * mantissa -
    (if mantissa = Nat.pow 2 52 ∧ leastExponent < exponent then 1 else 2)
  centre := 4 * mantissa
  upper := 4 * mantissa + 2
  exponent := exponent - 2
  closed := mantissa % 2 = 0

def scaledByTen (numerator denominator : Nat) (exponent : Int) : Nat × Nat :=
  match exponent with
  | .ofNat power => (numerator, denominator * Nat.pow 10 power)
  | .negSucc power => (numerator * Nat.pow 10 (power + 1), denominator)

def RoundingInterval.contains (interval : RoundingInterval) (decimal : Decimal) : Bool :=
  let (lower, bottom) := ratio interval.lower interval.exponent
  let (upper, _) := ratio interval.upper interval.exponent
  let (lower, lowerBottom) := scaledByTen lower bottom decimal.exponent
  let (upper, upperBottom) := scaledByTen upper bottom decimal.exponent
  if interval.closed then
    lower ≤ decimal.digits * lowerBottom && decimal.digits * upperBottom ≤ upper
  else
    lower < decimal.digits * lowerBottom && decimal.digits * upperBottom < upper

/-- Of the two neighbours of a number on a decimal grid, the one in the interval; where both are,
the nearer one, and the even one of a tie. -/
def neighbour? (interval : RoundingInterval) (gridExponent : Int) : Option Decimal :=
  let (top, bottom) := ratio interval.centre interval.exponent
  let (top, bottom) := scaledByTen top bottom gridExponent
  let below : Decimal := ⟨top / bottom, gridExponent⟩
  let above : Decimal := ⟨top / bottom + 1, gridExponent⟩
  match interval.contains below, interval.contains above with
  | true, true => some (if roundHalfEven top bottom = below.digits then below else above)
  | true, false => some below
  | false, true => some above
  | false, false => none

/-- The first grid with a neighbour in the interval, from the coarsest down. -/
def searchGrids (interval : RoundingInterval) : Nat → Int → Option Decimal
  | 0, _ => none
  | grids + 1, gridExponent =>
      (neighbour? interval gridExponent).orElse fun _ =>
        searchGrids interval grids (gridExponent - 1)

/-- The power of ten of the first digit of a positive magnitude. -/
def leadingExponent (mantissa : Nat) (exponent : Int) : Int :=
  let estimate : Int := (((mantissa.log2 : Int) + exponent) * 1233).fdiv 4096
  let (top, bottom) := ratio mantissa exponent
  let reaches (power : Int) : Bool :=
    let (top, bottom) := scaledByTen top bottom power
    bottom ≤ top
  if reaches (estimate + 1) then estimate + 1
  else if reaches estimate then estimate
  else estimate - 1

/-- A decimal without zeros at the end of its digits; the count bounds how many are taken away. -/
def dropZeros : Nat → Decimal → Decimal
  | 0, decimal => decimal
  | count + 1, decimal =>
      if decimal.digits % 10 = 0 then
        dropZeros count ⟨decimal.digits / 10, decimal.exponent + 1⟩
      else
        decimal

/-- The shortest decimal that rounds to a positive magnitude. -/
def shortest (mantissa : Nat) (exponent : Int) : Decimal :=
  let interval := roundingInterval mantissa exponent
  match searchGrids interval 17 (leadingExponent mantissa exponent) with
  | some decimal => dropZeros 17 decimal
  | none => ⟨0, 0⟩

end Binary64

namespace DecimalStyle

/-- A positive decimal without an exponent, the point standing behind as many digits as given. -/
def positional (style : DecimalStyle) (digits : List Char) (point : Int) : String :=
  match point with
  | .ofNat whole =>
      if digits.length ≤ whole then
        String.ofList (digits ++ List.replicate (whole - digits.length) '0') ++
          style.wholeDecimals
      else if whole = 0 then
        "0." ++ String.ofList digits
      else
        String.ofList (digits.take whole) ++ "." ++ String.ofList (digits.drop whole)
  | .negSucc zeros =>
      "0." ++ String.ofList (List.replicate (zeros + 1) '0' ++ digits)

/-- A positive decimal with one digit before the point and an exponent. -/
def scientific (style : DecimalStyle) (digits : List Char) (point : Int) : String :=
  let fraction := digits.drop 1
  String.ofList (digits.take 1) ++
    (if fraction.isEmpty then "" else "." ++ String.ofList fraction) ++
    style.exponentMark ++ (if point - 1 < 0 then "-" else "+") ++
    Text.decimalPadded style.exponentWidth (point - 1).natAbs

/-- A decimal in a style; the point of zero stands behind its one digit. -/
def decimalText (style : DecimalStyle) (decimal : Decimal) : String :=
  let digits := Nat.toDigits 10 decimal.digits
  let point : Int := decimal.exponent + (digits.length : Nat)
  if style.leastPoint ≤ point ∧ point ≤ style.greatestPoint then
    style.positional digits point
  else
    style.scientific digits point

/-- A floating point number in a style, with the fewest digits that read back as the number. -/
def text (style : DecimalStyle) : Binary64 → String
  | .nan _ => style.nanWord
  | .infinite negative => (if negative then "-" else "") ++ style.infinityWord
  | .finite negative mantissa exponent =>
      (if negative then "-" else "") ++
        style.decimalText
          (if mantissa = 0 then ⟨0, 0⟩ else Binary64.shortest mantissa exponent)

end DecimalStyle

end SchemaDdl
