import SchemaDdl.Proofs.Value.Literal

/-!
# Keys of one SQL text

Different keys have different SQL texts, unless one of them is a text and the other one is not, or
they differ in no more than the origins of what is not a number.
-/

namespace SchemaDdl

namespace Value

def isText : Value → Bool
  | .text _ => true
  | _ => false

/-- Whether two keys have one SQL text though they differ: just one of them is a text, or they
differ in no more than the origins of what is not a number. -/
def Mistakable (value other : Value) : Prop :=
  value.sqlText = other.sqlText ∧ value.key? ≠ other.key? ∧
    (value.isText ≠ other.isText ∨ SameKey value other)

/-! ### Texts that begin with a year -/

theorem exists_date_isoText (date : Date) :
    ∃ rest, date.isoText.toList = Text.paddedDigits 4 date.year ++ '-' :: rest :=
  ⟨Text.paddedDigits 2 date.month ++ '-' :: Text.paddedDigits 2 date.day,
    by simp [Date.isoText, Text.toList_decimalPadded]⟩

/-- Whether a text begins with a year and a hyphen. -/
def BeginsWithYear (chars : List Char) : Prop :=
  ∃ year rest, chars = Text.paddedDigits 4 year ++ '-' :: rest

theorem beginsWithYear_date (date : Date) : BeginsWithYear (Value.date date).sqlText.toList := by
  obtain ⟨rest, isText⟩ := exists_date_isoText date
  exact ⟨_, rest, isText⟩

theorem beginsWithYear_moment (moment : Moment) :
    BeginsWithYear (Value.moment moment).sqlText.toList := by
  obtain ⟨rest, isText⟩ := exists_date_isoText moment.date
  refine ⟨moment.date.year, rest ++ ' ' :: (moment.time.isoText.toList ++
    Moment.offsetChars moment.offset), ?_⟩
  show (moment.isoText " ").toList = _
  rw [Moment.toList_isoText, isText, List.append_assoc, List.cons_append]

theorem not_beginsWithYear_signed (negative : Bool) (size : Magnitude) :
    ¬ BeginsWithYear (size.signed negative) := by
  rintro ⟨year, rest, same⟩
  have areDigits := Text.isDigits_paddedDigits 4 year
  obtain ⟨c, digits, isDigits, isDigit⟩ :=
    areDigits.exists_eq_cons (Text.paddedDigits_ne_nil 4 year)
  cases negative with
  | true =>
      rw [isDigits, Magnitude.signed, if_pos rfl, List.cons_append, List.cons.injEq] at same
      rw [← same.1] at isDigit
      exact absurd isDigit (by decide)
  | false =>
      cases size with
      | infinity =>
          rw [isDigits, List.cons_append] at same
          rw [← (List.cons.inj same).1] at isDigit
          exact absurd isDigit (by decide)
      | nan =>
          rw [isDigits, List.cons_append] at same
          rw [← (List.cons.inj same).1] at isDigit
          exact absurd isDigit (by decide)
      | digits number =>
          have chars : number.whole ++ (WrittenNumber.fractionChars number.fraction ++
              (WrittenNumber.powerChars number.power ++ [])) =
                Text.paddedDigits 4 year ++ '-' :: rest := by
            rw [List.append_nil]
            exact same
          have behind := (number.areDigits.1.append_inj areDigits
            (WrittenNumber.endsNumber_fractionChars Text.endsLiteral_nil)
            (Text.endsNumber_cons.mpr rfl) chars).2
          cases fraction : number.fraction <;> cases power : number.power <;>
            simp [fraction, power, WrittenNumber.fractionChars, WrittenNumber.powerChars] at behind

theorem BeginsWithYear.firstKind? {chars : List Char} (begins : BeginsWithYear chars) :
    Value.firstKind? chars = some .number := by
  obtain ⟨year, rest, rfl⟩ := begins
  obtain ⟨c, digits, isDigits, isDigit⟩ :=
    (Text.isDigits_paddedDigits 4 year).exists_eq_cons (Text.paddedDigits_ne_nil 4 year)
  rw [isDigits]
  exact LiteralKind.ofFirst?_digit isDigit

theorem not_beginsWithYear_literal {value : Value} (isKey : value.IsKey) :
    ¬ BeginsWithYear value.literal.toList := by
  intro begins
  have isNumber := begins.firstKind?
  rw [firstKind?_literal isKey, Option.some.injEq] at isNumber
  obtain ⟨negative, size, -, written⟩ := exists_spells isNumber
  rw [written] at begins
  exact not_beginsWithYear_signed negative size begins

/-! ### Keys that are no texts -/

/-- A truth value as the number that it is as a key. -/
def asNumber : Value → Value
  | .bool value => .int value.toInt
  | value => value

theorem sqlText_asNumber (value : Value) : value.asNumber.sqlText = value.sqlText := by
  cases value with
  | bool value => cases value <;> rfl
  | _ => rfl

theorem sameKey_asNumber (value : Value) : SameKey value value.asNumber := by
  cases value <;> rfl

theorem isKey_asNumber {value : Value} (isKey : value.IsKey) : value.asNumber.IsKey := by
  cases value with
  | bool value => exact trivial
  | _ => exact isKey

/-- The forms of the SQL texts of the keys that are neither texts nor truth values. -/
inductive SqlForm : Value → Prop
  | null : SqlForm .null
  | literal (value : Value) (isLiteral : value.sqlText = value.literal)
      (notNull : value.literalKind ≠ .null) : SqlForm value
  | date (value : Date) : SqlForm (.date value)
  | moment (value : Moment) : SqlForm (.moment value)

theorem sqlForm_asNumber {value : Value} (notText : value.isText = false) :
    SqlForm value.asNumber := by
  cases value with
  | null => exact .null
  | date value => exact .date value
  | moment value => exact .moment value
  | text _ => exact absurd notText (by simp [isText])
  | _ => exact .literal _ rfl (by simp [asNumber, literalKind])

theorem SqlForm.ne_null {value : Value} (form : SqlForm value) (isKey : value.IsKey)
    (notNull : value ≠ .null) : value.sqlText ≠ Value.null.sqlText := by
  have isNull : Value.firstKind? Value.null.sqlText.toList = some .null := by decide
  intro same
  rw [← same] at isNull
  cases form with
  | null => exact notNull rfl
  | literal _ isLiteral otherKind =>
      rw [isLiteral, firstKind?_literal isKey, Option.some.injEq] at isNull
      exact otherKind isNull
  | date value =>
      rw [(beginsWithYear_date value).firstKind?] at isNull
      exact absurd isNull (by decide)
  | moment value =>
      rw [(beginsWithYear_moment value).firstKind?] at isNull
      exact absurd isNull (by decide)

theorem date_ne_moment (date : Date) (moment : Moment) : date.isoText ≠ moment.isoText " " := by
  intro same
  have chars := congrArg String.toList same
  rw [Moment.toList_isoText, ← List.append_nil date.isoText.toList] at chars
  have behind :=
    (Date.isoText_append_inj Text.endsNumber_nil (Text.endsNumber_cons.mpr rfl) chars).2
  exact absurd behind (by simp)

theorem SqlForm.sameKey {value other : Value} (form : SqlForm value) (otherForm : SqlForm other)
    (isKey : value.IsKey) (otherIsKey : other.IsKey) (same : value.sqlText = other.sqlText) :
    SameKey value other := by
  cases form with
  | null =>
      by_cases isNull : other = .null
      · rw [isNull]
        rfl
      · exact absurd same.symm (otherForm.ne_null otherIsKey isNull)
  | literal _ isLiteral notNull =>
      cases otherForm with
      | null =>
          refine absurd same ((SqlForm.literal value isLiteral notNull).ne_null isKey ?_)
          rintro rfl
          exact notNull rfl
      | literal _ otherIsLiteral _ =>
          rw [isLiteral, otherIsLiteral] at same
          have chars := congrArg (fun text => text.toList ++ []) same
          exact (literal_append_inj value other isKey otherIsKey Text.endsLiteral_nil
            Text.endsLiteral_nil chars).1
      | date other =>
          have begins := beginsWithYear_date other
          rw [← same, isLiteral] at begins
          exact absurd begins (not_beginsWithYear_literal isKey)
      | moment other =>
          have begins := beginsWithYear_moment other
          rw [← same, isLiteral] at begins
          exact absurd begins (not_beginsWithYear_literal isKey)
  | date value =>
      cases otherForm with
      | null => exact absurd same ((SqlForm.date value).ne_null isKey (by simp))
      | literal _ otherIsLiteral _ =>
          have begins := beginsWithYear_date value
          rw [same, otherIsLiteral] at begins
          exact absurd begins (not_beginsWithYear_literal otherIsKey)
      | date other =>
          have chars := congrArg (fun text => text.toList ++ []) same
          rw [(Date.isoText_append_inj Text.endsNumber_nil Text.endsNumber_nil chars).1]
          rfl
      | moment other => exact absurd same (date_ne_moment value other)
  | moment value =>
      cases otherForm with
      | null => exact absurd same ((SqlForm.moment value).ne_null isKey (by simp))
      | literal _ otherIsLiteral _ =>
          have begins := beginsWithYear_moment value
          rw [same, otherIsLiteral] at begins
          exact absurd begins (not_beginsWithYear_literal otherIsKey)
      | date other => exact absurd same.symm (date_ne_moment other value)
      | moment other =>
          rw [Moment.isoText_injective same]
          rfl

/-- Keys that are no texts and have one SQL text are the same but for the origins of what is not a
number. -/
theorem sameKey_of_sqlText_eq {value other : Value} (isKey : value.IsKey)
    (otherIsKey : other.IsKey) (notText : value.isText = false)
    (otherNotText : other.isText = false) (same : value.sqlText = other.sqlText) :
    SameKey value other := by
  rw [← sqlText_asNumber value, ← sqlText_asNumber other] at same
  have sameKey := (sqlForm_asNumber notText).sameKey (sqlForm_asNumber otherNotText)
    (isKey_asNumber isKey) (isKey_asNumber otherIsKey) same
  exact (sameKey_asNumber value).trans (sameKey.trans (sameKey_asNumber other).symm)

/-- Different keys have one SQL text just where they are mistakable. -/
theorem sqlText_eq_iff_mistakable {value other : Value} (isKey : value.IsKey)
    (otherIsKey : other.IsKey) (different : value.key? ≠ other.key?) :
    value.sqlText = other.sqlText ↔ Mistakable value other := by
  constructor
  · intro same
    refine ⟨same, different, ?_⟩
    by_cases sameKind : value.isText = other.isText
    · right
      cases isText : value.isText with
      | false =>
          rw [isText] at sameKind
          exact sameKey_of_sqlText_eq isKey otherIsKey isText sameKind.symm same
      | true =>
          rw [isText] at sameKind
          cases value with
          | text value =>
              cases other with
              | text other => exact congrArg (fun text => some (Key.text text)) same
              | _ => exact absurd sameKind (by simp [Value.isText])
          | _ => exact absurd isText (by simp [Value.isText])
    · exact .inl sameKind
  · exact And.left

end Value

end SchemaDdl
