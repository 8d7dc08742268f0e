import SchemaDdl.Proofs.Value.Number

/-!
# Dates and moments as they are written

Dates, times of day, offsets and moments are determined by their texts and by their literals.
-/

namespace SchemaDdl

namespace Date

theorem isoText_append_inj {date other : Date} {rest otherRest : List Char}
    (ends : Text.EndsNumber rest) (otherEnds : Text.EndsNumber otherRest)
    (same : date.isoText.toList ++ rest = other.isoText.toList ++ otherRest) :
    date = other ∧ rest = otherRest := by
  obtain ⟨year, month, day, _⟩ := date
  obtain ⟨otherYear, otherMonth, otherDay, _⟩ := other
  have hyphen : "-".toList = ['-'] := by decide
  simp only [isoText, String.toList_append, Text.toList_decimalPadded, hyphen,
    List.append_assoc, List.cons_append, List.nil_append] at same
  obtain ⟨rfl, sameMonths⟩ := Text.paddedDigits_cons_inj (by rfl) same
  obtain ⟨rfl, sameDays⟩ := Text.paddedDigits_cons_inj (by rfl) sameMonths
  obtain ⟨rfl, sameRest⟩ := Text.paddedDigits_append_inj ends otherEnds sameDays
  exact ⟨rfl, sameRest⟩

end Date

namespace ClockTime

/-- The decimals of a second, if it is not a whole one. -/
def decimals (microsecond : Nat) : List Char :=
  if microsecond = 0 then [] else '.' :: Text.paddedDigits 6 microsecond

theorem decimals_append_inj {microsecond other : Nat} {rest otherRest : List Char}
    (ends : Text.EndsNumber rest) (otherEnds : Text.EndsNumber otherRest)
    (noPoint : rest.head? ≠ some '.') (otherNoPoint : otherRest.head? ≠ some '.')
    (same : decimals microsecond ++ rest = decimals other ++ otherRest) :
    microsecond = other ∧ rest = otherRest := by
  unfold decimals at same
  split at same <;> split at same <;> rename_i whole otherWhole
  · exact ⟨whole.trans otherWhole.symm, same⟩
  · rw [List.nil_append] at same
    exact absurd (by rw [same]; rfl) noPoint
  · rw [List.nil_append] at same
    exact absurd (by rw [← same]; rfl) otherNoPoint
  · exact Text.paddedDigits_append_inj ends otherEnds (List.cons.inj same).2

theorem isoText_append_inj {time other : ClockTime} {rest otherRest : List Char}
    (ends : Text.EndsNumber rest) (otherEnds : Text.EndsNumber otherRest)
    (noPoint : rest.head? ≠ some '.') (otherNoPoint : otherRest.head? ≠ some '.')
    (same : time.isoText.toList ++ rest = other.isoText.toList ++ otherRest) :
    time = other ∧ rest = otherRest := by
  have spelled : ∀ time : ClockTime, time.isoText.toList =
      Text.paddedDigits 2 time.hour ++ ':' :: (Text.paddedDigits 2 time.minute ++ ':' ::
        (Text.paddedDigits 2 time.second ++ decimals time.microsecond)) := by
    intro time
    unfold isoText decimals
    split <;> simp [Text.toList_decimalPadded]
  have endsSecond : ∀ {microsecond : Nat} {rest : List Char}, Text.EndsNumber rest →
      Text.EndsNumber (decimals microsecond ++ rest) := by
    intro microsecond rest ends
    unfold decimals
    split
    · exact ends
    · exact Text.endsNumber_cons.mpr rfl
  obtain ⟨hour, minute, second, microsecond, _⟩ := time
  obtain ⟨otherHour, otherMinute, otherSecond, otherMicrosecond, _⟩ := other
  simp only [spelled, List.append_assoc, List.cons_append] at same
  obtain ⟨rfl, sameMinutes⟩ := Text.paddedDigits_cons_inj (by rfl) same
  obtain ⟨rfl, sameSeconds⟩ := Text.paddedDigits_cons_inj (by rfl) sameMinutes
  obtain ⟨rfl, sameDecimals⟩ := Text.paddedDigits_append_inj (endsSecond ends)
    (endsSecond otherEnds) sameSeconds
  obtain ⟨rfl, sameRest⟩ := decimals_append_inj ends otherEnds noPoint otherNoPoint sameDecimals
  exact ⟨rfl, sameRest⟩

end ClockTime

namespace Offset

def signChar (offset : Offset) : Char :=
  if offset.seconds < 0 then '-' else '+'

theorem neg_iff_of_signChar_eq {offset other : Offset} (same : offset.signChar = other.signChar) :
    offset.seconds < 0 ↔ other.seconds < 0 := by
  unfold signChar at same
  split at same <;> split at same <;> rename_i sign otherSign
  · exact iff_of_true sign otherSign
  · exact absurd same (by decide)
  · exact absurd same (by decide)
  · exact iff_of_false sign otherSign

/-- The seconds behind the minutes of an offset, if there are any. -/
def secondChars (size : Nat) : List Char :=
  if size % 60 = 0 then [] else ':' :: Text.paddedDigits 2 (size % 60)

theorem endsNumber_secondChars (size : Nat) : Text.EndsNumber (secondChars size) := by
  unfold secondChars
  split
  · exact Text.endsNumber_nil
  · exact Text.endsNumber_cons.mpr rfl

theorem mod_eq_of_secondChars_eq {size other : Nat}
    (same : secondChars size = secondChars other) : size % 60 = other % 60 := by
  unfold secondChars at same
  split at same <;> split at same <;> rename_i whole otherWhole
  · omega
  · exact absurd same (by simp)
  · exact absurd same (by simp)
  · have digits := congrArg (· ++ []) (List.cons.inj same).2
    exact (Text.paddedDigits_append_inj Text.endsNumber_nil Text.endsNumber_nil digits).1

theorem toList_isoText (offset : Offset) :
    offset.isoText.toList = offset.signChar ::
      (Text.paddedDigits 2 (offset.seconds.natAbs / 3600) ++ ':' ::
        (Text.paddedDigits 2 (offset.seconds.natAbs / 60 % 60) ++
          secondChars offset.seconds.natAbs)) := by
  have sign : (if offset.seconds < 0 then "-" else "+").toList = [offset.signChar] := by
    unfold signChar
    split <;> decide
  have behind : (if offset.seconds.natAbs % 60 = 0 then ""
      else ":" ++ Text.decimalPadded 2 (offset.seconds.natAbs % 60)).toList =
        secondChars offset.seconds.natAbs := by
    unfold secondChars
    split
    · rfl
    · simp [Text.toList_decimalPadded]
  simp [isoText, String.toList_append, sign, behind, Text.toList_decimalPadded]

theorem isoText_injective : Function.Injective isoText := by
  intro offset other same
  have chars := congrArg String.toList same
  rw [toList_isoText, toList_isoText, List.cons.injEq] at chars
  obtain ⟨sameSign, sameHours⟩ := chars
  obtain ⟨hours, sameMinutes⟩ := Text.paddedDigits_cons_inj (by rfl) sameHours
  obtain ⟨minutes, sameSeconds⟩ := Text.paddedDigits_append_inj (endsNumber_secondChars _)
    (endsNumber_secondChars _) sameMinutes
  have seconds := mod_eq_of_secondChars_eq sameSeconds
  have signs := neg_iff_of_signChar_eq sameSign
  have allSeconds : offset.seconds = other.seconds := by omega
  obtain ⟨_, _⟩ := offset
  obtain ⟨_, _⟩ := other
  rw [Offset.mk.injEq]
  exact allSeconds

end Offset

namespace Moment

def offsetChars : Option Offset → List Char
  | none => []
  | some offset => offset.isoText.toList

theorem endsNumber_offsetChars (offset : Option Offset) :
    Text.EndsNumber (offsetChars offset) ∧ (offsetChars offset).head? ≠ some '.' := by
  cases offset with
  | none => simp [offsetChars]
  | some offset =>
      rw [offsetChars, Offset.toList_isoText, Offset.signChar]
      split <;> exact ⟨Text.endsNumber_cons.mpr rfl, by simp⟩

theorem offsetChars_injective : Function.Injective offsetChars := by
  intro offset other same
  match offset, other with
  | none, none => rfl
  | some offset, some other =>
      rw [Offset.isoText_injective (String.toList_injective same)]
  | none, some other =>
      rw [offsetChars, offsetChars, Offset.toList_isoText] at same
      exact absurd same (by simp)
  | some offset, none =>
      rw [offsetChars, offsetChars, Offset.toList_isoText] at same
      exact absurd same (by simp)

theorem toList_isoText (moment : Moment) :
    (moment.isoText " ").toList =
      moment.date.isoText.toList ++ ' ' :: (moment.time.isoText.toList ++
        offsetChars moment.offset) := by
  unfold isoText offsetChars
  cases moment.offset <;> simp

theorem isoText_injective : Function.Injective (isoText " ") := by
  intro moment other same
  have chars := congrArg String.toList same
  rw [toList_isoText, toList_isoText] at chars
  obtain ⟨date, sameTimes⟩ := Date.isoText_append_inj (Text.endsNumber_cons.mpr rfl)
    (Text.endsNumber_cons.mpr rfl) chars
  have ends := endsNumber_offsetChars moment.offset
  have otherEnds := endsNumber_offsetChars other.offset
  obtain ⟨time, sameOffset⟩ := ClockTime.isoText_append_inj ends.1 otherEnds.1 ends.2 otherEnds.2
    (List.cons.inj sameTimes).2
  have offset := offsetChars_injective sameOffset
  obtain ⟨_, _, _⟩ := moment
  obtain ⟨_, _, _⟩ := other
  rw [Moment.mk.injEq]
  exact ⟨date, time, offset⟩

end Moment

/-! ### Literals -/

namespace Text

theorem endsNumbers_parenthesis (rest : List Char) : EndsNumbers (')' :: rest) := by
  refine ⟨endsNumber_cons.mpr rfl, ?_⟩
  intro c others same
  exact absurd (List.cons.inj same).1 (by decide)

end Text

namespace Value

theorem dateLiteral_append_inj {date other : Date} {rest otherRest : List Char}
    (same : (dateLiteral date).toList ++ rest = (dateLiteral other).toList ++ otherRest) :
    date = other ∧ rest = otherRest := by
  obtain ⟨year, month, day, _⟩ := date
  obtain ⟨otherYear, otherMonth, otherDay, _⟩ := other
  have parenthesis : ")".toList = [')'] := by decide
  simp only [dateLiteral, String.toList_append, List.append_assoc, List.append_cancel_left_eq,
    parenthesis, List.cons_append, List.nil_append] at same
  obtain ⟨sameYear, sameParts, sameBehind⟩ := Text.intercalate_decimals_append_inj
    (Text.endsNumbers_parenthesis rest) (Text.endsNumbers_parenthesis otherRest) same
  simp only [List.cons.injEq, and_true] at sameParts sameBehind
  obtain ⟨rfl, rfl⟩ := sameParts
  subst sameYear
  exact ⟨rfl, sameBehind.2⟩

theorem toList_offsetLiteral_zero {offset : Offset} (zero : offset.seconds = 0) :
    (offsetLiteral offset).toList = "datetime.timezone".toList ++ ".utc".toList := by
  rw [offsetLiteral, if_pos zero]
  decide

/-- The seconds in the literal of an offset, counted from the start of a day, and what closes it. -/
def secondsLiteral (offset : Offset) : String :=
  "seconds=" ++ Text.decimalInt (offset.seconds % 86400) ++ "))"

theorem toList_offsetLiteral_neg {offset : Offset} (negative : offset.seconds < 0) :
    (offsetLiteral offset).toList = "datetime.timezone".toList ++
      ("(datetime.timedelta(".toList ++
        ("days=-1, ".toList ++ (secondsLiteral offset).toList)) := by
  rw [offsetLiteral, if_neg negative.ne, if_pos negative, secondsLiteral]
  simp

theorem toList_offsetLiteral_pos {offset : Offset} (positive : 0 < offset.seconds) :
    (offsetLiteral offset).toList = "datetime.timezone".toList ++
      ("(datetime.timedelta(".toList ++ (secondsLiteral offset).toList) := by
  rw [offsetLiteral, if_neg positive.ne', if_neg positive.not_gt, secondsLiteral]
  simp

theorem secondsLiteral_append_inj {offset other : Offset} {rest otherRest : List Char}
    (same : (secondsLiteral offset).toList ++ rest = (secondsLiteral other).toList ++ otherRest) :
    offset.seconds % 86400 = other.seconds % 86400 ∧ rest = otherRest := by
  simp only [secondsLiteral, String.toList_append, List.append_assoc,
    List.append_cancel_left_eq] at same
  obtain ⟨sameRemainder, sameRest⟩ := Magnitude.decimalInt_append_inj (by simp) (by simp) same
  exact ⟨sameRemainder, List.append_cancel_left sameRest⟩

theorem secondsLiteral_append_ne (offset other : Offset) (rest otherRest : List Char) :
    (secondsLiteral offset).toList ++ rest ≠
      "days=-1, ".toList ++ (secondsLiteral other).toList ++ otherRest := by
  simp [secondsLiteral]

theorem offsetLiteral_append_inj {offset other : Offset} {rest otherRest : List Char}
    (same : (offsetLiteral offset).toList ++ rest = (offsetLiteral other).toList ++ otherRest) :
    offset = other ∧ rest = otherRest := by
  have inDay := offset.belowDay
  have otherInDay := other.belowDay
  have sameSeconds : offset.seconds = other.seconds ∧ rest = otherRest := by
    rcases lt_trichotomy offset.seconds 0 with sign | sign | sign <;>
      rcases lt_trichotomy other.seconds 0 with otherSign | otherSign | otherSign
    · rw [toList_offsetLiteral_neg sign, toList_offsetLiteral_neg otherSign] at same
      simp only [List.append_assoc, List.append_cancel_left_eq] at same
      obtain ⟨sameRemainder, sameRest⟩ := secondsLiteral_append_inj same
      exact ⟨by omega, sameRest⟩
    · rw [toList_offsetLiteral_neg sign, toList_offsetLiteral_zero otherSign] at same
      simp at same
    · rw [toList_offsetLiteral_neg sign, toList_offsetLiteral_pos otherSign] at same
      simp only [List.append_assoc, List.append_cancel_left_eq] at same
      exact absurd same.symm (by simpa using secondsLiteral_append_ne other offset _ _)
    · rw [toList_offsetLiteral_zero sign, toList_offsetLiteral_neg otherSign] at same
      simp at same
    · rw [toList_offsetLiteral_zero sign, toList_offsetLiteral_zero otherSign] at same
      exact ⟨sign.trans otherSign.symm, List.append_cancel_left same⟩
    · rw [toList_offsetLiteral_zero sign, toList_offsetLiteral_pos otherSign] at same
      simp at same
    · rw [toList_offsetLiteral_pos sign, toList_offsetLiteral_neg otherSign] at same
      simp only [List.append_assoc, List.append_cancel_left_eq] at same
      exact absurd same (by simpa using secondsLiteral_append_ne offset other _ _)
    · rw [toList_offsetLiteral_pos sign, toList_offsetLiteral_zero otherSign] at same
      simp at same
    · rw [toList_offsetLiteral_pos sign, toList_offsetLiteral_pos otherSign] at same
      simp only [List.append_assoc, List.append_cancel_left_eq] at same
      obtain ⟨sameRemainder, sameRest⟩ := secondsLiteral_append_inj same
      exact ⟨by omega, sameRest⟩
  obtain ⟨_, _⟩ := offset
  obtain ⟨_, _⟩ := other
  rw [Offset.mk.injEq]
  exact sameSeconds

/-- The parts of a second in the literal of a moment. -/
def secondNumbers (time : ClockTime) : List Nat :=
  if time.microsecond ≠ 0 then [time.second, time.microsecond]
  else if time.second ≠ 0 then [time.second]
  else []

theorem eq_of_secondNumbers_eq {time other : ClockTime}
    (same : secondNumbers time = secondNumbers other) :
    time.second = other.second ∧ time.microsecond = other.microsecond := by
  unfold secondNumbers at same
  split at same <;> split at same <;> try split at same
  all_goals try split at same
  all_goals simp_all

def zoneText : Option Offset → String
  | none => ""
  | some offset => ", tzinfo=" ++ offsetLiteral offset

theorem zoneText_append_inj {offset other : Option Offset} {rest otherRest : List Char}
    (same : (zoneText offset).toList ++ ')' :: rest =
      (zoneText other).toList ++ ')' :: otherRest) : offset = other ∧ rest = otherRest := by
  match offset, other with
  | none, none => exact ⟨rfl, by simpa [zoneText] using same⟩
  | none, some other => exact absurd same (by simp [zoneText])
  | some offset, none => exact absurd same (by simp [zoneText])
  | some offset, some other =>
      simp only [zoneText, String.toList_append, List.append_assoc,
        List.append_cancel_left_eq] at same
      obtain ⟨rfl, sameRest⟩ := offsetLiteral_append_inj same
      exact ⟨rfl, (List.cons.inj sameRest).2⟩

theorem toList_momentLiteral (moment : Moment) :
    (momentLiteral moment).toList = "datetime.datetime(".toList ++
      ((", ".intercalate ((moment.date.year :: ([moment.date.month, moment.date.day,
        moment.time.hour, moment.time.minute] ++ secondNumbers moment.time)).map
          Text.decimal)).toList ++ ((zoneText moment.offset).toList ++ [')'])) := by
  have parenthesis : ")".toList = [')'] := by decide
  rw [← parenthesis]
  unfold momentLiteral secondNumbers zoneText
  cases moment.offset <;>
    simp only [String.toList_append, List.append_assoc, List.cons_append, List.nil_append]

theorem endsNumbers_zoneText (offset : Option Offset) (rest : List Char) :
    Text.EndsNumbers ((zoneText offset).toList ++ ')' :: rest) := by
  cases offset with
  | none => exact Text.endsNumbers_parenthesis rest
  | some offset =>
      have comma : ", tzinfo=".toList = [',', ' ', 't', 'z', 'i', 'n', 'f', 'o', '='] := by decide
      rw [zoneText, String.toList_append, comma]
      refine ⟨Text.endsNumber_cons.mpr rfl, ?_⟩
      intro c others same
      simp only [List.cons_append, List.cons.injEq, true_and] at same
      rw [← same.1]
      rfl

theorem momentLiteral_append_inj {moment other : Moment} {rest otherRest : List Char}
    (same : (momentLiteral moment).toList ++ rest = (momentLiteral other).toList ++ otherRest) :
    moment = other ∧ rest = otherRest := by
  obtain ⟨⟨year, month, day, _⟩, time, offset⟩ := moment
  obtain ⟨⟨otherYear, otherMonth, otherDay, _⟩, otherTime, otherOffset⟩ := other
  simp only [toList_momentLiteral, List.append_assoc, List.append_cancel_left_eq, List.cons_append,
    List.nil_append] at same
  obtain ⟨rfl, sameParts, sameZone⟩ := Text.intercalate_decimals_append_inj
    (endsNumbers_zoneText offset rest) (endsNumbers_zoneText otherOffset otherRest) same
  simp only [List.cons.injEq] at sameParts
  obtain ⟨rfl, rfl, sameHour, sameMinute, sameNumbers⟩ := sameParts
  have sameSeconds := eq_of_secondNumbers_eq sameNumbers
  have sameTime : time = otherTime := by
    obtain ⟨_, _, _, _, _⟩ := time
    obtain ⟨_, _, _, _, _⟩ := otherTime
    rw [ClockTime.mk.injEq]
    exact ⟨sameHour, sameMinute, sameSeconds⟩
  obtain ⟨rfl, sameRest⟩ := zoneText_append_inj sameZone
  exact ⟨by rw [sameTime], sameRest⟩

end Value

end SchemaDdl
