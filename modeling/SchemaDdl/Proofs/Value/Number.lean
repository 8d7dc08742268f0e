import SchemaDdl.Proofs.Binary64.Shortest
import SchemaDdl.Proofs.Text.Digits
import SchemaDdl.Value.Printer

/-!
# Numbers as they are written

The text of a whole or floating point number has digits, and may have a fraction behind a point and
a power of ten behind a letter.  What stands in front of a comma, of a parenthesis or of the end of
a text determines these parts, and they determine the number.
-/

namespace SchemaDdl

namespace Text

/-- Whether a literal in front of a text can end where it begins: at a comma, at a parenthesis or at
the end of the text. -/
def EndsLiteral (rest : List Char) : Prop :=
  ∀ c ∈ rest.head?, c = ',' ∨ c = ')'

@[simp]
theorem endsLiteral_nil : EndsLiteral [] := by
  simp [EndsLiteral]

@[simp]
theorem endsLiteral_cons {c : Char} {rest : List Char} :
    EndsLiteral (c :: rest) ↔ c = ',' ∨ c = ')' := by
  simp [EndsLiteral]

theorem EndsLiteral.endsNumber {rest : List Char} (ends : EndsLiteral rest) : EndsNumber rest := by
  intro c isHead
  rcases ends c isHead with rfl | rfl <;> rfl

end Text

/-- The parts of a number as it is written, without its sign: whole digits, digits behind the point,
and the digits of a power of ten with its sign. -/
structure WrittenNumber where
  whole : List Char
  fraction : Option (List Char)
  power : Option (Bool × List Char)
  nonempty : whole ≠ []
  areDigits : Text.IsDigits whole ∧ (∀ digits ∈ fraction, Text.IsDigits digits) ∧
    ∀ digits ∈ power, Text.IsDigits digits.2

namespace WrittenNumber

def fractionChars : Option (List Char) → List Char
  | none => []
  | some digits => '.' :: digits

def powerChars : Option (Bool × List Char) → List Char
  | none => []
  | some (negative, digits) => 'e' :: (if negative then '-' else '+') :: digits

def chars (number : WrittenNumber) : List Char :=
  number.whole ++ (fractionChars number.fraction ++ powerChars number.power)

def powerValue : Option (Bool × List Char) → Int
  | none => 0
  | some (negative, digits) =>
      if negative then -(Nat.ofDigitChars 10 digits 0 : Int) else Nat.ofDigitChars 10 digits 0

def value (number : WrittenNumber) : ℚ :=
  Nat.ofDigitChars 10 (number.whole ++ number.fraction.getD []) 0 *
    10 ^ (powerValue number.power - (number.fraction.getD []).length)

theorem powerChars_append_inj {power other : Option (Bool × List Char)}
    {rest otherRest : List Char} (areDigits : ∀ digits ∈ power, Text.IsDigits digits.2)
    (othersAreDigits : ∀ digits ∈ other, Text.IsDigits digits.2) (ends : Text.EndsLiteral rest)
    (otherEnds : Text.EndsLiteral otherRest)
    (same : powerChars power ++ rest = powerChars other ++ otherRest) :
    power = other ∧ rest = otherRest := by
  match power, other with
  | none, none => exact ⟨rfl, same⟩
  | none, some _ =>
      simp only [powerChars, List.nil_append, List.cons_append] at same
      rw [same] at ends
      simp at ends
  | some _, none =>
      simp only [powerChars, List.nil_append, List.cons_append] at same
      rw [← same] at otherEnds
      simp at otherEnds
  | some (negative, digits), some (otherNegative, otherDigits) =>
      simp only [powerChars, List.cons_append, List.cons.injEq, true_and] at same
      obtain ⟨sameSign, sameDigits⟩ := same
      obtain ⟨rfl, sameRest⟩ := (areDigits _ rfl).append_inj (othersAreDigits _ rfl)
        ends.endsNumber otherEnds.endsNumber sameDigits
      refine ⟨?_, sameRest⟩
      cases negative <;> cases otherNegative <;> simp_all

theorem endsNumber_powerChars {power : Option (Bool × List Char)} {rest : List Char}
    (ends : Text.EndsLiteral rest) : Text.EndsNumber (powerChars power ++ rest) := by
  cases power with
  | none => exact ends.endsNumber
  | some _ => exact Text.endsNumber_cons.mpr rfl

theorem endsNumber_fractionChars {fraction : Option (List Char)}
    {power : Option (Bool × List Char)} {rest : List Char} (ends : Text.EndsLiteral rest) :
    Text.EndsNumber (fractionChars fraction ++ (powerChars power ++ rest)) := by
  cases fraction with
  | none => exact endsNumber_powerChars ends
  | some _ => exact Text.endsNumber_cons.mpr rfl

theorem ne_point_powerChars {power : Option (Bool × List Char)} {rest digits : List Char}
    (ends : Text.EndsLiteral rest) : powerChars power ++ rest ≠ '.' :: digits := by
  intro same
  match power with
  | none =>
      rw [powerChars, List.nil_append] at same
      rw [same] at ends
      simp at ends
  | some _ => simp [powerChars] at same

/-- A number in front of a text is determined, with the text. -/
theorem chars_append_inj {number other : WrittenNumber} {rest otherRest : List Char}
    (ends : Text.EndsLiteral rest) (otherEnds : Text.EndsLiteral otherRest)
    (same : number.chars ++ rest = other.chars ++ otherRest) :
    number = other ∧ rest = otherRest := by
  obtain ⟨whole, fraction, power, _, areDigits⟩ := number
  obtain ⟨otherWhole, otherFraction, otherPower, _, othersAreDigits⟩ := other
  simp only [chars, List.append_assoc] at same
  obtain ⟨rfl, sameFraction⟩ := areDigits.1.append_inj othersAreDigits.1
    (endsNumber_fractionChars ends) (endsNumber_fractionChars otherEnds) same
  match fraction, otherFraction with
  | none, none =>
      obtain ⟨rfl, sameRest⟩ := powerChars_append_inj areDigits.2.2 othersAreDigits.2.2 ends
        otherEnds sameFraction
      exact ⟨rfl, sameRest⟩
  | none, some _ => exact absurd sameFraction (ne_point_powerChars ends)
  | some _, none => exact absurd sameFraction.symm (ne_point_powerChars otherEnds)
  | some digits, some otherDigits =>
      simp only [fractionChars, List.cons_append, List.cons.injEq, true_and] at sameFraction
      obtain ⟨rfl, samePower⟩ := (areDigits.2.1 _ rfl).append_inj (othersAreDigits.2.1 _ rfl)
        (endsNumber_powerChars ends) (endsNumber_powerChars otherEnds) sameFraction
      obtain ⟨rfl, sameRest⟩ := powerChars_append_inj areDigits.2.2 othersAreDigits.2.2 ends
        otherEnds samePower
      exact ⟨rfl, sameRest⟩

/-- Whether a number is written with a point or a power of ten. -/
def IsFractional (number : WrittenNumber) : Prop :=
  number.fraction.isSome = true ∨ number.power.isSome = true

/-- A text is that of a number with a point or a power of ten and with the value of a decimal. -/
def Writes (text : String) (decimal : Decimal) : Prop :=
  ∃ number : WrittenNumber, text.toList = number.chars ∧ number.value = decimal.value ∧
    number.IsFractional

/-- Digits with a point write a decimal if they are its digits up to zeros at the end. -/
theorem writes_point {whole fraction : List Char} {decimal : Decimal} (zeros : Nat)
    (nonempty : whole ≠ []) (wholeIsDigits : Text.IsDigits whole)
    (fractionIsDigits : Text.IsDigits fraction)
    (sameDigits : Nat.ofDigitChars 10 (whole ++ fraction) 0 = decimal.digits * 10 ^ zeros)
    (sameExponent : decimal.exponent = zeros - fraction.length) :
    Writes (String.ofList whole ++ "." ++ String.ofList fraction) decimal := by
  refine ⟨⟨whole, some fraction, none, nonempty, wholeIsDigits, ?_, ?_⟩, ?_, ?_, .inl rfl⟩
  · intro digits isFraction
    rwa [← Option.some.inj isFraction]
  · intro digits isPower
    exact absurd isPower (by simp)
  · simp [chars, fractionChars, powerChars]
  · rw [value, Decimal.value, sameExponent]
    simp only [Option.getD_some, sameDigits, powerValue]
    rw [zpow_sub₀ (by norm_num), zpow_sub₀ (by norm_num), zpow_natCast, zpow_natCast]
    push_cast
    ring

theorem isDigits_zero : Text.IsDigits ['0'] :=
  Text.isDigits_replicate_zero 1

theorem writes_positional (decimal : Decimal) :
    Writes (Value.floatStyle.positional (Nat.toDigits 10 decimal.digits)
      (decimal.exponent + (Nat.toDigits 10 decimal.digits).length)) decimal := by
  have areDigits := Text.isDigits_toDigits decimal.digits
  have isValue : Nat.ofDigitChars 10 (Nat.toDigits 10 decimal.digits) 0 = decimal.digits :=
    Nat.ofDigitChars_ten_toDigits
  have nonempty := Nat.toDigits_ne_nil (b := 10) (n := decimal.digits)
  generalize Nat.toDigits 10 decimal.digits = digits at *
  generalize point : decimal.exponent + (digits.length : Int) = position
  match position with
  | .ofNat whole =>
      rw [Int.ofNat_eq_natCast] at point
      rw [DecimalStyle.positional]
      split
      · rename_i short
        have tenths : Value.floatStyle.wholeDecimals = "." ++ String.ofList ['0'] := by decide
        rw [tenths, ← String.append_assoc]
        apply writes_point (whole - digits.length + 1) (by simp [nonempty])
          (areDigits.append (Text.isDigits_replicate_zero _)) isDigits_zero
        · simp [Nat.ofDigitChars_append, isValue, Nat.ofDigitChars_cons]
          ring
        · simp
          omega
      · rename_i long
        split
        · rename_i atStart
          have zeroPoint : "0." = String.ofList ['0'] ++ "." := by decide
          rw [zeroPoint]
          apply writes_point 0 (by simp) isDigits_zero areDigits
          · simpa [Nat.ofDigitChars_cons] using isValue
          · omega
        · rename_i notAtStart
          apply writes_point 0
          · simp [nonempty, notAtStart]
          · exact fun c isTaken => areDigits c (List.mem_of_mem_take isTaken)
          · exact fun c isDropped => areDigits c (List.mem_of_mem_drop isDropped)
          · rw [List.take_append_drop, isValue, Nat.pow_zero, Nat.mul_one]
          · rw [List.length_drop]
            omega
  | .negSucc zeros =>
      have zeroPoint : "0." = String.ofList ['0'] ++ "." := by decide
      rw [DecimalStyle.positional, zeroPoint]
      apply writes_point 0 (by simp) isDigits_zero
        ((Text.isDigits_replicate_zero _).append areDigits)
      · simp [Nat.ofDigitChars_cons, Nat.ofDigitChars_append, isValue]
      · simp
        omega
theorem powerValue_some (width : Nat) (power : Int) :
    powerValue (some (decide (power < 0), Text.paddedDigits width power.natAbs)) = power := by
  simp only [powerValue, Text.ofDigitChars_paddedDigits, decide_eq_true_eq]
  split <;> omega

theorem writes_scientific (decimal : Decimal) :
    Writes (Value.floatStyle.scientific (Nat.toDigits 10 decimal.digits)
      (decimal.exponent + (Nat.toDigits 10 decimal.digits).length)) decimal := by
  have areDigits := Text.isDigits_toDigits decimal.digits
  have isValue : Nat.ofDigitChars 10 (Nat.toDigits 10 decimal.digits) 0 = decimal.digits :=
    Nat.ofDigitChars_ten_toDigits
  have nonempty := Nat.toDigits_ne_nil (b := 10) (n := decimal.digits)
  generalize Nat.toDigits 10 decimal.digits = digits at *
  generalize point : decimal.exponent + (digits.length : Int) - 1 = power
  refine ⟨⟨digits.take 1, if (digits.drop 1).isEmpty then none else some (digits.drop 1),
    some (decide (power < 0), Text.paddedDigits 2 power.natAbs), ?_, ?_, ?_, ?_⟩, ?_, ?_,
    .inr rfl⟩
  · simp [nonempty]
  · exact fun c isTaken => areDigits c (List.mem_of_mem_take isTaken)
  · intro fraction isFraction
    split at isFraction
    · exact absurd isFraction (by simp)
    · rw [← Option.some.inj isFraction]
      exact fun c isDropped => areDigits c (List.mem_of_mem_drop isDropped)
  · intro digits isPower
    rw [← Option.some.inj isPower]
    exact Text.isDigits_paddedDigits 2 power.natAbs
  · have mark : Value.floatStyle.exponentMark.toList = ['e'] := by decide
    have width : Value.floatStyle.exponentWidth = 2 := rfl
    have fraction :
        (if (digits.drop 1).isEmpty then "" else "." ++ String.ofList (digits.drop 1)).toList =
          fractionChars (if (digits.drop 1).isEmpty then none else some (digits.drop 1)) := by
      split
      · rfl
      · simp [fractionChars]
    have sign : (if power < 0 then "-" else "+").toList = [if power < 0 then '-' else '+'] := by
      split <;> decide
    simp only [DecimalStyle.scientific, point, String.toList_append, String.toList_ofList, mark,
      width, Text.toList_decimalPadded, chars, fraction, sign, powerChars, decide_eq_true_eq,
      List.append_assoc, List.cons_append, List.nil_append]
  · have fraction :
        Option.getD (if (digits.drop 1).isEmpty then none else some (digits.drop 1)) [] =
          digits.drop 1 := by
      split
      · rename_i single
        exact (List.isEmpty_iff.mp single).symm
      · rfl
    have exponent : decimal.exponent = power - (digits.drop 1).length := by
      have lengthPositive := List.length_pos_iff.mpr nonempty
      rw [List.length_drop]
      omega
    rw [value, Decimal.value, exponent]
    simp only [fraction, List.take_append_drop, isValue, powerValue_some]

/-- The text of a decimal is that of a number with its value. -/
theorem writes_decimalText (decimal : Decimal) :
    Writes (Value.floatStyle.decimalText decimal) decimal := by
  rw [DecimalStyle.decimalText]
  split
  · exact writes_positional decimal
  · exact writes_scientific decimal

/-- A natural number is written with its digits alone. -/
def ofNatural (value : Nat) : WrittenNumber where
  whole := Nat.toDigits 10 value
  fraction := none
  power := none
  nonempty := Nat.toDigits_ne_nil
  areDigits := ⟨Text.isDigits_toDigits value, by simp, by simp⟩

theorem chars_ofNatural (value : Nat) : (ofNatural value).chars = Nat.toDigits 10 value := by
  simp [ofNatural, chars, fractionChars, powerChars]

theorem ofNatural_injective : Function.Injective ofNatural := by
  intro value other same
  have sameDigits := congrArg (fun number => Nat.ofDigitChars 10 number.whole 0) same
  simpa [ofNatural] using sameDigits

theorem not_isFractional_ofNatural (value : Nat) : ¬ (ofNatural value).IsFractional := by
  simp [ofNatural, IsFractional]

theorem exists_chars_eq_cons (number : WrittenNumber) :
    ∃ c rest, number.chars = c :: rest ∧ c.isDigit = true := by
  obtain ⟨c, whole, isWhole, isDigit⟩ := number.areDigits.1.exists_eq_cons number.nonempty
  exact ⟨c, _, by rw [chars, isWhole, List.cons_append], isDigit⟩

end WrittenNumber

/-- What is written behind the sign of a number. -/
inductive Magnitude
  | digits (number : WrittenNumber)
  | infinity
  | nan

namespace Magnitude

def chars : Magnitude → List Char
  | .digits number => number.chars
  | .infinity => ['i', 'n', 'f']
  | .nan => ['n', 'a', 'n']

def signed (negative : Bool) (size : Magnitude) : List Char :=
  if negative then '-' :: size.chars else size.chars

theorem exists_chars_eq_cons (size : Magnitude) :
    ∃ c rest, size.chars = c :: rest ∧ (c.isDigit = true ∨ c = 'i' ∨ c = 'n') := by
  cases size with
  | digits number =>
      obtain ⟨c, rest, isChars, isDigit⟩ := number.exists_chars_eq_cons
      exact ⟨c, rest, isChars, .inl isDigit⟩
  | infinity => exact ⟨'i', _, rfl, .inr (.inl rfl)⟩
  | nan => exact ⟨'n', _, rfl, .inr (.inr rfl)⟩

theorem digits_chars_append_ne {number : WrittenNumber} {c : Char} (notDigit : c.isDigit = false)
    (rest others : List Char) : number.chars ++ rest ≠ c :: others := by
  obtain ⟨first, behind, isChars, isDigit⟩ := number.exists_chars_eq_cons
  intro same
  rw [isChars, List.cons_append, List.cons.injEq] at same
  rw [same.1, notDigit] at isDigit
  exact absurd isDigit (by simp)

theorem chars_append_inj {size other : Magnitude} {rest otherRest : List Char}
    (ends : Text.EndsLiteral rest) (otherEnds : Text.EndsLiteral otherRest)
    (same : size.chars ++ rest = other.chars ++ otherRest) : size = other ∧ rest = otherRest := by
  match size, other with
  | .digits number, .digits otherNumber =>
      obtain ⟨rfl, sameRest⟩ := WrittenNumber.chars_append_inj ends otherEnds same
      exact ⟨rfl, sameRest⟩
  | .infinity, .infinity => exact ⟨rfl, List.append_cancel_left same⟩
  | .nan, .nan => exact ⟨rfl, List.append_cancel_left same⟩
  | .digits number, .infinity => exact absurd same (digits_chars_append_ne (by rfl) _ _)
  | .digits number, .nan => exact absurd same (digits_chars_append_ne (by rfl) _ _)
  | .infinity, .digits number => exact absurd same.symm (digits_chars_append_ne (by rfl) _ _)
  | .nan, .digits number => exact absurd same.symm (digits_chars_append_ne (by rfl) _ _)
  | .infinity, .nan => exact absurd same (by simp [chars])
  | .nan, .infinity => exact absurd same (by simp [chars])

theorem chars_append_ne_minus (size : Magnitude) (rest others : List Char) :
    size.chars ++ rest ≠ '-' :: others := by
  obtain ⟨c, behind, isChars, isFirst⟩ := size.exists_chars_eq_cons
  intro same
  rw [isChars, List.cons_append, List.cons.injEq] at same
  rw [same.1] at isFirst
  exact absurd isFirst (by decide)

/-- A number with its sign in front of a text is determined, with the text. -/
theorem signed_append_inj {negative otherNegative : Bool} {size other : Magnitude}
    {rest otherRest : List Char} (ends : Text.EndsLiteral rest)
    (otherEnds : Text.EndsLiteral otherRest)
    (same : size.signed negative ++ rest = other.signed otherNegative ++ otherRest) :
    negative = otherNegative ∧ size = other ∧ rest = otherRest := by
  match negative, otherNegative with
  | false, false => exact ⟨rfl, chars_append_inj ends otherEnds same⟩
  | true, true => exact ⟨rfl, chars_append_inj ends otherEnds (List.cons.inj same).2⟩
  | true, false => exact absurd same.symm (other.chars_append_ne_minus _ _)
  | false, true => exact absurd same (size.chars_append_ne_minus _ _)

theorem toList_decimalInt (value : Int) :
    (Text.decimalInt value).toList =
      signed (decide (value < 0)) (.digits (.ofNatural value.natAbs)) := by
  match value with
  | .ofNat value =>
      have nonnegative : ¬ Int.ofNat value < 0 := by simp
      simp only [Text.decimalInt, Text.toList_decimal, signed, nonnegative, decide_false, chars,
        WrittenNumber.chars_ofNatural]
      rfl
  | .negSucc value =>
      have negative : Int.negSucc value < 0 := Int.negSucc_lt_zero value
      simp only [Text.decimalInt, String.toList_append, Text.toList_decimal, signed, negative,
        decide_true, chars, WrittenNumber.chars_ofNatural]
      rfl

theorem decimalInt_append_inj {value other : Int} {rest otherRest : List Char}
    (ends : Text.EndsLiteral rest) (otherEnds : Text.EndsLiteral otherRest)
    (same : (Text.decimalInt value).toList ++ rest = (Text.decimalInt other).toList ++ otherRest) :
    value = other ∧ rest = otherRest := by
  rw [toList_decimalInt, toList_decimalInt] at same
  obtain ⟨sameSign, sameSize, sameRest⟩ := signed_append_inj ends otherEnds same
  rw [digits.injEq] at sameSize
  have sameAbs := WrittenNumber.ofNatural_injective sameSize
  rw [decide_eq_decide] at sameSign
  refine ⟨?_, sameRest⟩
  omega

end Magnitude

end SchemaDdl
