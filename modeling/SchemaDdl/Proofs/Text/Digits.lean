import SchemaDdl.Text.Digit

/-!
# Numbers in front of a text

Digits in front of a text that does not go on with a digit are all the digits it begins with, so the
text determines the number that they stand for and what follows it.  The same holds for a number
with zeros in front or with a sign, and for numbers behind commas.
-/

namespace SchemaDdl

namespace Text

/-- Whether digits in front of a text end where it begins. -/
def EndsNumber (rest : List Char) : Prop :=
  ∀ c ∈ rest.head?, c.isDigit = false

@[simp]
theorem endsNumber_nil : EndsNumber [] := by
  simp [EndsNumber]

@[simp]
theorem endsNumber_cons {c : Char} {rest : List Char} :
    EndsNumber (c :: rest) ↔ c.isDigit = false := by
  simp [EndsNumber]

def IsDigits (chars : List Char) : Prop :=
  ∀ c ∈ chars, c.isDigit = true

theorem IsDigits.append {digits others : List Char} (areDigits : IsDigits digits)
    (othersAreDigits : IsDigits others) : IsDigits (digits ++ others) :=
  List.forall_mem_append.mpr ⟨areDigits, othersAreDigits⟩

theorem IsDigits.exists_eq_cons {digits : List Char} (areDigits : IsDigits digits)
    (nonempty : digits ≠ []) : ∃ c rest, digits = c :: rest ∧ c.isDigit = true := by
  obtain ⟨c, rest, rfl⟩ := List.exists_cons_of_ne_nil nonempty
  exact ⟨c, rest, rfl, areDigits c List.mem_cons_self⟩

theorem isDigits_replicate_zero (count : Nat) : IsDigits (List.replicate count '0') := by
  intro c isZero
  rw [List.eq_of_mem_replicate isZero]
  rfl

theorem isDigits_toDigits (value : Nat) : IsDigits (Nat.toDigits 10 value) :=
  fun _ => Nat.isDigit_of_mem_toDigits (by decide) (by decide)

theorem takeWhile_isDigit_append {digits rest : List Char} (areDigits : IsDigits digits)
    (ends : EndsNumber rest) : (digits ++ rest).takeWhile Char.isDigit = digits := by
  have noneOfRest : rest.takeWhile Char.isDigit = [] := by
    cases rest with
    | nil => rfl
    | cons c rest => simp [endsNumber_cons.mp ends]
  rw [List.takeWhile_append_of_pos areDigits, noneOfRest, List.append_nil]

theorem IsDigits.append_inj {digits others rest otherRest : List Char}
    (areDigits : IsDigits digits) (othersAreDigits : IsDigits others) (ends : EndsNumber rest)
    (otherEnds : EndsNumber otherRest) (same : digits ++ rest = others ++ otherRest) :
    digits = others ∧ rest = otherRest := by
  have sameDigits : digits = others := by
    rw [← takeWhile_isDigit_append areDigits ends, same,
      takeWhile_isDigit_append othersAreDigits otherEnds]
  subst sameDigits
  exact ⟨rfl, List.append_cancel_left same⟩

theorem toList_decimal (value : Nat) : (decimal value).toList = Nat.toDigits 10 value :=
  String.toList_ofList

/-- The digits of a number with zeros in front up to a width. -/
def paddedDigits (width value : Nat) : List Char :=
  List.replicate (width - (Nat.toDigits 10 value).length) '0' ++ Nat.toDigits 10 value

theorem toList_decimalPadded (width value : Nat) :
    (decimalPadded width value).toList = paddedDigits width value :=
  String.toList_ofList

theorem isDigits_paddedDigits (width value : Nat) : IsDigits (paddedDigits width value) :=
  (isDigits_replicate_zero _).append (isDigits_toDigits value)

theorem paddedDigits_ne_nil (width value : Nat) : paddedDigits width value ≠ [] := by
  simp [paddedDigits]

theorem ofDigitChars_paddedDigits (width value : Nat) :
    Nat.ofDigitChars 10 (paddedDigits width value) 0 = value := by
  rw [paddedDigits, Nat.ofDigitChars_append, Nat.ofDigitChars_replicate_zero, Nat.mul_zero,
    Nat.ofDigitChars_ten_toDigits]

theorem paddedDigits_append_inj {width otherWidth value other : Nat} {rest otherRest : List Char}
    (ends : EndsNumber rest) (otherEnds : EndsNumber otherRest)
    (same : paddedDigits width value ++ rest = paddedDigits otherWidth other ++ otherRest) :
    value = other ∧ rest = otherRest := by
  obtain ⟨sameDigits, sameRest⟩ := (isDigits_paddedDigits width value).append_inj
    (isDigits_paddedDigits otherWidth other) ends otherEnds same
  refine ⟨?_, sameRest⟩
  rw [← ofDigitChars_paddedDigits width value, sameDigits, ofDigitChars_paddedDigits]

/-- Numbers in front of the same separator. -/
theorem paddedDigits_cons_inj {width otherWidth value other : Nat} {separator : Char}
    {rest otherRest : List Char} (notDigit : separator.isDigit = false)
    (same : paddedDigits width value ++ separator :: rest =
      paddedDigits otherWidth other ++ separator :: otherRest) :
    value = other ∧ rest = otherRest := by
  obtain ⟨sameValue, sameRest⟩ := paddedDigits_append_inj (endsNumber_cons.mpr notDigit)
    (endsNumber_cons.mpr notDigit) same
  exact ⟨sameValue, (List.cons.inj sameRest).2⟩

theorem toDigits_append_inj {value other : Nat} {rest otherRest : List Char}
    (ends : EndsNumber rest) (otherEnds : EndsNumber otherRest)
    (same : Nat.toDigits 10 value ++ rest = Nat.toDigits 10 other ++ otherRest) :
    value = other ∧ rest = otherRest := by
  have unpadded : ∀ value, paddedDigits 0 value = Nat.toDigits 10 value := by
    intro value
    rw [paddedDigits, Nat.zero_sub, List.replicate_zero, List.nil_append]
  rw [← unpadded value, ← unpadded other] at same
  exact paddedDigits_append_inj ends otherEnds same

/-! ### Numbers between commas -/

theorem toList_intercalate_cons (separator first : String) (others : List String) :
    (separator.intercalate (first :: others)).toList =
      first.toList ++ others.flatMap fun text => separator.toList ++ text.toList := by
  induction others generalizing first with
  | nil => simp
  | cons second others induction =>
      rw [String.intercalate_cons_cons, String.toList_append, String.toList_append, induction,
        List.flatMap_cons, List.append_assoc, List.append_assoc]

/-- Numbers behind a first one. -/
def numbersBehind (values : List Nat) : List Char :=
  values.flatMap fun value => ',' :: ' ' :: Nat.toDigits 10 value

theorem toList_intercalate_decimals (first : Nat) (values : List Nat) :
    (", ".intercalate ((first :: values).map decimal)).toList =
      Nat.toDigits 10 first ++ numbersBehind values := by
  rw [List.map_cons, toList_intercalate_cons, toList_decimal, List.flatMap_map]
  simp [numbersBehind, toList_decimal]

/-- Whether numbers in front of a text end where it begins. -/
def EndsNumbers (rest : List Char) : Prop :=
  EndsNumber rest ∧ ∀ c others, rest = ',' :: ' ' :: c :: others → c.isDigit = false

theorem EndsNumbers.ne_numbersBehind {rest : List Char} (ends : EndsNumbers rest) (value : Nat)
    (others : List Char) : rest ≠ ',' :: ' ' :: (Nat.toDigits 10 value ++ others) := by
  obtain ⟨c, digits, isDigits, isDigit⟩ :=
    (isDigits_toDigits value).exists_eq_cons Nat.toDigits_ne_nil
  rw [isDigits, List.cons_append]
  intro same
  rw [ends.2 c _ same] at isDigit
  exact absurd isDigit (by decide)

theorem EndsNumbers.numbersBehind {rest : List Char} (ends : EndsNumbers rest)
    (values : List Nat) : EndsNumber (numbersBehind values ++ rest) := by
  cases values with
  | nil => exact ends.1
  | cons value values => exact endsNumber_cons.mpr rfl

theorem numbersBehind_append_inj {values others : List Nat} {rest otherRest : List Char}
    (ends : EndsNumbers rest) (otherEnds : EndsNumbers otherRest)
    (same : numbersBehind values ++ rest = numbersBehind others ++ otherRest) :
    values = others ∧ rest = otherRest := by
  have cons : ∀ value values rest, numbersBehind (value :: values) ++ rest =
      ',' :: ' ' :: (Nat.toDigits 10 value ++ (numbersBehind values ++ rest)) := by
    intro value values rest
    simp [numbersBehind]
  induction values generalizing others with
  | nil =>
      cases others with
      | nil => exact ⟨rfl, same⟩
      | cons other others =>
          rw [cons] at same
          exact absurd same (ends.ne_numbersBehind _ _)
  | cons value values induction =>
      cases others with
      | nil =>
          rw [cons] at same
          exact absurd same.symm (otherEnds.ne_numbersBehind _ _)
      | cons other others =>
          rw [cons, cons, List.cons.injEq, List.cons.injEq] at same
          obtain ⟨rfl, sameBehind⟩ := toDigits_append_inj (ends.numbersBehind values)
            (otherEnds.numbersBehind others) same.2.2
          obtain ⟨rfl, sameRest⟩ := induction sameBehind
          exact ⟨rfl, sameRest⟩

theorem intercalate_decimals_append_inj {first otherFirst : Nat} {values others : List Nat}
    {rest otherRest : List Char} (ends : EndsNumbers rest) (otherEnds : EndsNumbers otherRest)
    (same : (", ".intercalate ((first :: values).map decimal)).toList ++ rest =
      (", ".intercalate ((otherFirst :: others).map decimal)).toList ++ otherRest) :
    first = otherFirst ∧ values = others ∧ rest = otherRest := by
  rw [toList_intercalate_decimals, toList_intercalate_decimals, List.append_assoc,
    List.append_assoc] at same
  obtain ⟨sameFirst, sameBehind⟩ := toDigits_append_inj (ends.numbersBehind values)
    (otherEnds.numbersBehind others) same
  exact ⟨sameFirst, numbersBehind_append_inj ends otherEnds sameBehind⟩

end Text

end SchemaDdl
