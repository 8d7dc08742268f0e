import SchemaDdl.Binary64
import SchemaDdl.Text.Blank
import SchemaDdl.Text.Digit

/-!
# Numerals

Texts that stand for numbers.  Blank characters at either end do not count, digits may be those of
any script, and a single underscore may stand between two digits.  Whole numbers are read in a base,
which a letter behind a leading zero may repeat; other numbers are read as decimals with an optional
exponent, or as the words for infinity and for what is not a number.
-/

namespace SchemaDdl

namespace Numeral

/-- Whether a character at the end of a numeral does not count: any blank one, but in a text of
ASCII not the information separators. -/
def isMargin (ascii : Bool) (c : Char) : Bool :=
  if ascii then c = ' ' || ('\t' ≤ c && c ≤ '\r') else Text.isBlank c

/-- A numeral with its digits written in ASCII, without blank ends. -/
def normalised (text : List Char) : List Char :=
  let margin := isMargin (text.all fun c => c.toNat < 0x80)
  (((text.dropWhile margin).reverse.dropWhile margin).reverse).map fun c =>
    match Text.digit? c with
    | some value => Text.hexDigit value
    | none => c

/-- The sign in front of a numeral, if any, and what follows it: whether it is negative, and the
rest. -/
def splitSign : List Char → Bool × List Char
  | '-' :: rest => (true, rest)
  | '+' :: rest => (false, rest)
  | rest => (false, rest)

/-- The letter that stands behind a leading zero for a base. -/
def baseLetter (base : Nat) : Option Char :=
  match base with
  | 2 => some 'b'
  | 8 => some 'o'
  | 16 => some 'x'
  | _ => none

/-- A numeral without the zero and letter that repeat its base; an underscore may follow them. -/
def dropBase (base : Nat) : List Char → List Char
  | '0' :: letter :: rest =>
      if some letter.toLower = baseLetter base then
        match rest with
        | '_' :: digits => digits
        | digits => digits
      else
        '0' :: letter :: rest
  | digits => digits

/-- The value of digits in a base, continuing from a value; there has to be a digit in front, and
one behind every underscore. -/
def digitsValue? (base : Nat) (value : Nat) : List Char → Option Nat
  | [] => none
  | [c] =>
      (Text.hexDigit? c).bind fun digit =>
        if digit < base then some (value * base + digit) else none
  | c :: next :: rest =>
      (Text.hexDigit? c).bind fun digit =>
        if base ≤ digit then none
        else if next = '_' then digitsValue? base (value * base + digit) rest
        else digitsValue? base (value * base + digit) (next :: rest)

/-- The whole number for which a text stands in a base, if it stands for one. -/
def integer? (base : Nat) (text : List Char) : Option Int :=
  let (negative, unsigned) := splitSign (normalised text)
  let digits := dropBase base unsigned
  if base = 10 ∧ Text.decimalDigitLimit < digits.countP (· ≠ '_') then
    none
  else
    (digitsValue? base 0 digits).map fun value =>
      if negative then -(value : Int) else value

/-- A text without the underscores between two digits; none where an underscore stands elsewhere. -/
def joinDigits? (previousDigit : Bool) : List Char → Option (List Char)
  | [] => some []
  | '_' :: next :: rest =>
      if previousDigit ∧ next.isDigit then
        (joinDigits? true rest).map (next :: ·)
      else
        none
  | c :: rest =>
      if c = '_' then none else (joinDigits? c.isDigit rest).map (c :: ·)

/-- The exponent at the end of a decimal, nought where nothing is left. -/
def exponent? : List Char → Option Int
  | [] => some 0
  | mark :: rest =>
      if mark = 'e' ∨ mark = 'E' then
        let (negative, digits) := splitSign rest
        if digits.isEmpty ∨ digits.any (fun c => !c.isDigit) then none
        else
          (digitsValue? 10 0 digits).map fun value => if negative then -(value : Int) else value
      else
        none

/-- The floating point number for which a text stands, if it stands for one; what is not a number
comes from the given origin. -/
def float? (origin : Nat) (text : List Char) : Option Binary64 :=
  (joinDigits? false (normalised text)).bind fun chars =>
    let (negative, unsigned) := splitSign chars
    let word := String.ofList (unsigned.map Char.toLower)
    if word = "inf" ∨ word = "infinity" then some (.infinite negative)
    else if word = "nan" then some (.nan origin)
    else
      let whole := unsigned.takeWhile Char.isDigit
      let (decimals, rest) :=
        match unsigned.dropWhile Char.isDigit with
        | '.' :: rest => (rest.takeWhile Char.isDigit, rest.dropWhile Char.isDigit)
        | rest => ([], rest)
      if whole.isEmpty ∧ decimals.isEmpty then none
      else
        (digitsValue? 10 0 (whole ++ decimals)).bind fun digits =>
          (exponent? rest).map fun exponent =>
            Binary64.ofDecimal negative digits (exponent - (decimals.length : Nat))

end Numeral

end SchemaDdl
