import SchemaDdl.Proofs.Text.Quoted
import SchemaDdl.Proofs.Value.Calendar

/-!
# Literals of keys

The literal of a value that can be a key determines the key, up to where what is not a number comes
from, and it ends where a comma or a parenthesis follows it.  The first character of the literal
tells the kind of the value, and within a kind the literal is read from its front; the items of a
tuple are read one after the other.
-/

namespace SchemaDdl

namespace Key

/-- A key without the origin of what is not a number. -/
def withoutOrigin : Key → Key
  | .nan _ => .nan 0
  | .tupleItem head tail => .tupleItem head.withoutOrigin tail.withoutOrigin
  | key => key

theorem withoutOrigin_ofItems (keys : List Key) :
    (ofItems keys).withoutOrigin = ofItems (keys.map withoutOrigin) := by
  induction keys with
  | nil => rfl
  | cons key keys induction => rw [ofItems, withoutOrigin, induction, List.map_cons, ofItems]

end Key

namespace Value

mutual

/-- Whether a value can be a key: neither a list, set or mapping nor a tuple that holds one or is
inside itself. -/
def IsKey : Value → Prop
  | .float number => number.IsNumber
  | .tuple mark items => mark = none ∧ AreKeys items
  | .list _ _ | .set _ _ | .map _ _ => False
  | _ => True

def AreKeys : List Value → Prop
  | [] => True
  | item :: items => IsKey item ∧ AreKeys items

end

mutual

theorem isSome_key? : ∀ value : Value, value.IsKey → value.key?.isSome = true
  | .null, _ | .bool _, _ | .int _, _ | .text _, _ | .bytes _, _ | .date _, _ => rfl
  | .float (.finite _ _ _), _ | .float (.infinite _), _ | .float (.nan _), _ => rfl
  | .moment value, _ => by
      rw [key?]
      split <;> rfl
  | .tuple _ items, isKey => by
      rw [key?, Option.isSome_map]
      exact isSome_itemKeys? items isKey.2

theorem isSome_itemKeys? : ∀ items : List Value, AreKeys items → (itemKeys? items).isSome = true
  | [], _ => rfl
  | item :: items, areKeys => by
      obtain ⟨key, isKey⟩ := Option.isSome_iff_exists.mp (isSome_key? item areKeys.1)
      obtain ⟨keys, areKeys⟩ := Option.isSome_iff_exists.mp (isSome_itemKeys? items areKeys.2)
      rw [itemKeys?, isKey, areKeys]
      rfl

end

/-- Whether two values are the same key, or would be if all that is not a number had one origin. -/
def SameKey (value other : Value) : Prop :=
  value.key?.map Key.withoutOrigin = other.key?.map Key.withoutOrigin

/-! ### Numbers -/

/-- How a number is written, by its sign and what is behind that. -/
inductive Spells : Value → Bool → Magnitude → Prop
  | int (value : Int) :
      Spells (.int value) (decide (value < 0)) (.digits (.ofNatural value.natAbs))
  | finite (negative : Bool) (mantissa : Nat) (exponent : Int) (number : WrittenNumber)
      (sameValue : number.value = (Binary64.decimal mantissa exponent).value)
      (isFractional : number.IsFractional) :
      Spells (.float (.finite negative mantissa exponent)) negative (.digits number)
  | infinite (negative : Bool) : Spells (.float (.infinite negative)) negative .infinity
  | nan (origin : Nat) : Spells (.float (.nan origin)) false .nan

theorem exists_spells_float (number : Binary64) :
    ∃ negative size, Spells (.float number) negative size ∧
      (floatStyle.text number).toList = size.signed negative := by
  cases number with
  | finite negative mantissa exponent =>
      obtain ⟨number, chars, sameValue, isFractional⟩ :=
        WrittenNumber.writes_decimalText (Binary64.decimal mantissa exponent)
      refine ⟨negative, .digits number, .finite negative mantissa exponent number sameValue
        isFractional, ?_⟩
      rw [DecimalStyle.text, String.toList_append, ← Binary64.decimal, chars]
      cases negative <;> rfl
  | infinite negative =>
      exact ⟨negative, .infinity, .infinite negative, by cases negative <;> decide⟩
  | nan origin =>
      have word : floatStyle.nanWord.toList = Magnitude.signed false .nan := by decide
      exact ⟨false, .nan, .nan origin, word⟩

theorem sameKey_of_spells {value other : Value} {negative otherNegative : Bool}
    {size otherSize : Magnitude} (isKey : value.IsKey) (otherIsKey : other.IsKey)
    (spells : Spells value negative size) (otherSpells : Spells other otherNegative otherSize)
    (sameSign : negative = otherNegative) (sameSize : size = otherSize) :
    SameKey value other := by
  cases spells with
  | int value =>
      cases otherSpells with
      | int other =>
          rw [Magnitude.digits.injEq] at sameSize
          have sameAbs := WrittenNumber.ofNatural_injective sameSize
          rw [decide_eq_decide] at sameSign
          have same : value = other := by omega
          rw [same]
          rfl
      | finite _ _ _ number _ isFractional =>
          rw [Magnitude.digits.injEq] at sameSize
          rw [← sameSize] at isFractional
          exact absurd isFractional (WrittenNumber.not_isFractional_ofNatural _)
      | infinite _ => exact absurd sameSize (by simp)
      | nan _ => exact absurd sameSize (by simp)
  | finite negative mantissa exponent number sameValue isFractional =>
      cases otherSpells with
      | int other =>
          rw [Magnitude.digits.injEq] at sameSize
          rw [sameSize] at isFractional
          exact absurd isFractional (WrittenNumber.not_isFractional_ofNatural _)
      | finite _ _ _ otherNumber otherSameValue _ =>
          rw [Magnitude.digits.injEq] at sameSize
          rw [sameSize, otherSameValue] at sameValue
          obtain ⟨rfl, rfl⟩ := Binary64.eq_of_value_decimal_eq otherIsKey isKey sameValue
          rw [sameSign]
          rfl
      | infinite _ => exact absurd sameSize (by simp)
      | nan _ => exact absurd sameSize (by simp)
  | infinite negative =>
      cases otherSpells with
      | infinite _ =>
          rw [sameSign]
          rfl
      | int _ => exact absurd sameSize (by simp)
      | finite _ _ _ _ _ _ => exact absurd sameSize (by simp)
      | nan _ => exact absurd sameSize (by simp)
  | nan origin =>
      cases otherSpells with
      | nan _ => rfl
      | int _ => exact absurd sameSize (by simp)
      | finite _ _ _ _ _ _ => exact absurd sameSize (by simp)
      | infinite _ => exact absurd sameSize (by simp)

/-! ### Kinds -/

inductive LiteralKind
  | null
  | truth
  | number
  | text
  | octets
  | calendar
  | collection
  deriving DecidableEq

/-- The kind of the literals that begin with a character. -/
def LiteralKind.ofFirst? (c : Char) : Option LiteralKind :=
  if c = 'N' then some .null
  else if c = 'T' ∨ c = 'F' then some .truth
  else if c = '\'' ∨ c = '"' then some .text
  else if c = 'b' then some .octets
  else if c = 'd' then some .calendar
  else if c = '(' then some .collection
  else if c.isDigit ∨ c = '-' ∨ c = 'i' ∨ c = 'n' then some .number
  else none

theorem LiteralKind.ofFirst?_digit {c : Char} (isDigit : c.isDigit = true) :
    ofFirst? c = some .number := by
  have notLetter : ∀ d : Char, d.isDigit = false → c ≠ d := by
    intro d notDigit same
    rw [same, notDigit] at isDigit
    exact absurd isDigit (by decide)
  simp [ofFirst?, isDigit, notLetter]

def literalKind : Value → LiteralKind
  | .null => .null
  | .bool _ => .truth
  | .int _ | .float _ => .number
  | .text _ => .text
  | .bytes _ => .octets
  | .date _ | .moment _ => .calendar
  | .list _ _ | .tuple _ _ | .set _ _ | .map _ _ => .collection

/-- The kind that the first character of a text tells. -/
def firstKind? (chars : List Char) : Option LiteralKind :=
  chars.head?.bind LiteralKind.ofFirst?

theorem firstKind?_append {chars : List Char} {kind : LiteralKind}
    (isKind : firstKind? chars = some kind) (rest : List Char) :
    firstKind? (chars ++ rest) = some kind := by
  unfold firstKind? at isKind ⊢
  cases chars with
  | nil => exact absurd isKind (by simp)
  | cons c chars => exact isKind

theorem firstKind?_signed (negative : Bool) (size : Magnitude) :
    firstKind? (size.signed negative) = some .number := by
  obtain ⟨c, rest, isChars, isFirst⟩ := size.exists_chars_eq_cons
  cases negative with
  | true => rfl
  | false =>
      rw [Magnitude.signed, isChars]
      show LiteralKind.ofFirst? c = some .number
      rcases isFirst with isDigit | rfl | rfl
      · exact LiteralKind.ofFirst?_digit isDigit
      · decide
      · decide

theorem firstKind?_quotedChars (printable : Char → Bool) (content : List Char) :
    firstKind? (Text.quotedChars printable content) = some .text := by
  show LiteralKind.ofFirst? (Text.quotationMark content) = some .text
  rcases Text.isQuotationMark_quotationMark content with isMark | isMark <;> rw [isMark] <;> decide

/-- The first character of a literal tells its kind. -/
theorem firstKind?_literal {value : Value} (isKey : value.IsKey) :
    firstKind? value.literal.toList = some value.literalKind := by
  cases value with
  | null => decide
  | bool value => cases value <;> decide
  | int value =>
      rw [literal, literalWithin, Magnitude.toList_decimalInt]
      exact firstKind?_signed _ _
  | float number =>
      obtain ⟨negative, size, -, written⟩ := exists_spells_float number
      rw [literal, literalWithin, written]
      exact firstKind?_signed _ _
  | text value =>
      rw [literal, literalWithin, Text.quoted, String.toList_ofList]
      exact firstKind?_quotedChars _ _
  | bytes octets =>
      rw [literal, literalWithin, Text.quotedOctets, String.toList_ofList]
      rfl
  | date value =>
      rw [literal, literalWithin, dateLiteral, String.toList_append, String.toList_append]
      rfl
  | moment value =>
      rw [literal, literalWithin, toList_momentLiteral]
      rfl
  | tuple mark items =>
      obtain ⟨rfl, -⟩ := isKey
      rw [literal, literalWithin, if_neg (by decide), String.toList_append, String.toList_append]
      rfl
  | list _ _ => exact isKey.elim
  | set _ _ => exact isKey.elim
  | map _ _ => exact isKey.elim

theorem literalKind_eq {value other : Value} {rest otherRest : List Char} (isKey : value.IsKey)
    (otherIsKey : other.IsKey)
    (same : value.literal.toList ++ rest = other.literal.toList ++ otherRest) :
    value.literalKind = other.literalKind := by
  have kind := firstKind?_append (firstKind?_literal isKey) rest
  rw [same, firstKind?_append (firstKind?_literal otherIsKey) otherRest] at kind
  exact (Option.some.inj kind).symm

/-! ### Tuples -/

/-- The items behind the first one in the literal of a tuple, and what closes it. -/
def literalsBehind : List Value → List Char
  | [] => [')']
  | item :: items => ',' :: ' ' :: (item.literal.toList ++ literalsBehind items)

theorem literalsWithin_nil (items : List Value) :
    literalsWithin [] items = items.map literal := by
  induction items with
  | nil => rfl
  | cons item items induction => rw [literalsWithin, induction, List.map_cons, literal]

/-- What is behind the first item of a tuple; a single item has a comma of its own. -/
def literalsBehindFirst : List Value → List Char
  | [] => [',', ')']
  | item :: items => literalsBehind (item :: items)

/-- The literal of a tuple, behind its first parenthesis. -/
def itemsLiteral : List Value → List Char
  | [] => [')']
  | item :: items => item.literal.toList ++ literalsBehindFirst items

theorem toList_literal_tuple (items : List Value) :
    (Value.tuple none items).literal.toList = '(' :: itemsLiteral items := by
  rw [literal, literalWithin, if_neg (by decide), Option.toList_none, List.nil_append,
    literalsWithin_nil]
  match items with
  | [] => decide
  | [item] => simp [itemsLiteral, literalsBehindFirst]
  | item :: next :: items =>
      have behind : ∀ items : List Value,
          ((items.map literal).flatMap fun text => ", ".toList ++ text.toList) ++ [')'] =
            literalsBehind items := by
        intro items
        induction items with
        | nil => rfl
        | cons item items induction =>
            rw [literalsBehind, ← induction]
            simp
      rw [if_neg (by simp), itemsLiteral, literalsBehindFirst, ← behind, List.map_cons,
        String.toList_append, String.toList_append, Text.toList_intercalate_cons]
      simp

def SameItemKeys (items others : List Value) : Prop :=
  (itemKeys? items).map (List.map Key.withoutOrigin) =
    (itemKeys? others).map (List.map Key.withoutOrigin)

theorem SameKey.cons {item other : Value} {items others : List Value} (same : SameKey item other)
    (sameItems : SameItemKeys items others) : SameItemKeys (item :: items) (other :: others) := by
  have split : ∀ (item : Value) (items : List Value),
      (itemKeys? (item :: items)).map (List.map Key.withoutOrigin) =
        (item.key?.map Key.withoutOrigin).bind fun key =>
          ((itemKeys? items).map (List.map Key.withoutOrigin)).map (key :: ·) := by
    intro item items
    rw [itemKeys?]
    cases item.key? <;> cases itemKeys? items <;> rfl
  unfold SameItemKeys
  rw [split, split, same, sameItems]

theorem SameItemKeys.tuple {items others : List Value} (same : SameItemKeys items others)
    (mark otherMark : Option Nat) :
    SameKey (Value.tuple mark items) (Value.tuple otherMark others) := by
  unfold SameItemKeys at same
  unfold SameKey
  have ofItems : ∀ keys : Option (List Key), (keys.map Key.ofItems).map Key.withoutOrigin =
      (keys.map (List.map Key.withoutOrigin)).map Key.ofItems := by
    intro keys
    cases keys with
    | none => rfl
    | some keys => exact congrArg some (Key.withoutOrigin_ofItems keys)
  rw [key?, key?, ofItems, ofItems, same]

theorem endsLiteral_literalsBehind (items : List Value) (rest : List Char) :
    Text.EndsLiteral (literalsBehind items ++ rest) := by
  cases items with
  | nil => exact Text.endsLiteral_cons.mpr (.inr rfl)
  | cons _ _ => exact Text.endsLiteral_cons.mpr (.inl rfl)

theorem endsLiteral_literalsBehindFirst (items : List Value) (rest : List Char) :
    Text.EndsLiteral (literalsBehindFirst items ++ rest) := by
  cases items with
  | nil => exact Text.endsLiteral_cons.mpr (.inl rfl)
  | cons _ _ => exact endsLiteral_literalsBehind _ rest

theorem literal_append_ne {value : Value} (isKey : value.IsKey) {c : Char}
    (noLiteral : LiteralKind.ofFirst? c = none) (rest others : List Char) :
    value.literal.toList ++ rest ≠ c :: others := by
  intro same
  have kind := firstKind?_append (firstKind?_literal isKey) rest
  rw [same] at kind
  exact absurd (kind.symm.trans noLiteral) (by simp)

theorem exists_spells {value : Value} (isNumber : value.literalKind = .number) :
    ∃ negative size, Spells value negative size ∧
      value.literal.toList = size.signed negative := by
  cases value with
  | int value => exact ⟨_, _, .int value, Magnitude.toList_decimalInt value⟩
  | float number => exact exists_spells_float number
  | _ => exact absurd isNumber (by simp [literalKind])

theorem number_append_inj {value other : Value} {rest otherRest : List Char}
    (isKey : value.IsKey) (otherIsKey : other.IsKey) (isNumber : value.literalKind = .number)
    (otherIsNumber : other.literalKind = .number) (ends : Text.EndsLiteral rest)
    (otherEnds : Text.EndsLiteral otherRest)
    (same : value.literal.toList ++ rest = other.literal.toList ++ otherRest) :
    SameKey value other ∧ rest = otherRest := by
  obtain ⟨negative, size, spells, written⟩ := exists_spells isNumber
  obtain ⟨otherNegative, otherSize, otherSpells, otherWritten⟩ := exists_spells otherIsNumber
  rw [written, otherWritten] at same
  obtain ⟨sameSign, sameSize, sameRest⟩ := Magnitude.signed_append_inj ends otherEnds same
  exact ⟨sameKey_of_spells isKey otherIsKey spells otherSpells sameSign sameSize, sameRest⟩

theorem calendar_append_ne (date : Date) (moment : Moment) (rest otherRest : List Char) :
    (dateLiteral date).toList ++ rest ≠ (momentLiteral moment).toList ++ otherRest := by
  rw [dateLiteral, toList_momentLiteral]
  simp

mutual

/-- The literal of a key in front of a text is determined, with the text. -/
theorem literal_append_inj (value other : Value) {rest otherRest : List Char}
    (isKey : value.IsKey) (otherIsKey : other.IsKey) (ends : Text.EndsLiteral rest)
    (otherEnds : Text.EndsLiteral otherRest)
    (same : value.literal.toList ++ rest = other.literal.toList ++ otherRest) :
    SameKey value other ∧ rest = otherRest := by
  have sameKind := literalKind_eq isKey otherIsKey same
  cases value with
  | null =>
      cases other with
      | null => exact ⟨rfl, List.append_cancel_left same⟩
      | _ => exact absurd sameKind (by simp [literalKind])
  | bool value =>
      cases other with
      | bool other =>
          cases value <;> cases other
          · exact ⟨rfl, List.append_cancel_left same⟩
          · exact absurd same (by simp [literal, literalWithin])
          · exact absurd same (by simp [literal, literalWithin])
          · exact ⟨rfl, List.append_cancel_left same⟩
      | _ => exact absurd sameKind (by simp [literalKind])
  | int value => exact number_append_inj isKey otherIsKey rfl sameKind.symm ends otherEnds same
  | float value => exact number_append_inj isKey otherIsKey rfl sameKind.symm ends otherEnds same
  | text value =>
      cases other with
      | text other =>
          obtain ⟨rfl, sameRest⟩ := Text.quoted_append_inj same
          exact ⟨rfl, sameRest⟩
      | _ => exact absurd sameKind (by simp [literalKind])
  | bytes octets =>
      cases other with
      | bytes others =>
          obtain ⟨rfl, sameRest⟩ := Text.quotedOctets_append_inj same
          exact ⟨rfl, sameRest⟩
      | _ => exact absurd sameKind (by simp [literalKind])
  | date value =>
      cases other with
      | date other =>
          obtain ⟨rfl, sameRest⟩ := dateLiteral_append_inj same
          exact ⟨rfl, sameRest⟩
      | moment other => exact absurd same (calendar_append_ne value other rest otherRest)
      | _ => exact absurd sameKind (by simp [literalKind])
  | moment value =>
      cases other with
      | moment other =>
          obtain ⟨rfl, sameRest⟩ := momentLiteral_append_inj same
          exact ⟨rfl, sameRest⟩
      | date other => exact absurd same.symm (calendar_append_ne other value otherRest rest)
      | _ => exact absurd sameKind (by simp [literalKind])
  | tuple mark items =>
      obtain ⟨rfl, areKeys⟩ := isKey
      cases other with
      | tuple otherMark others =>
          obtain ⟨rfl, othersAreKeys⟩ := otherIsKey
          rw [toList_literal_tuple, toList_literal_tuple] at same
          obtain ⟨sameItems, sameRest⟩ := itemsLiteral_append_inj items others areKeys
            othersAreKeys (List.cons.inj same).2
          exact ⟨sameItems.tuple none none, sameRest⟩
      | list _ _ => exact otherIsKey.elim
      | set _ _ => exact otherIsKey.elim
      | map _ _ => exact otherIsKey.elim
      | _ => exact absurd sameKind (by simp [literalKind])
  | list _ _ => exact isKey.elim
  | set _ _ => exact isKey.elim
  | map _ _ => exact isKey.elim

theorem itemsLiteral_append_inj (items others : List Value) {rest otherRest : List Char}
    (areKeys : AreKeys items) (othersAreKeys : AreKeys others)
    (same : itemsLiteral items ++ rest = itemsLiteral others ++ otherRest) :
    SameItemKeys items others ∧ rest = otherRest := by
  cases items with
  | nil =>
      cases others with
      | nil => exact ⟨rfl, (List.cons.inj same).2⟩
      | cons other others =>
          rw [itemsLiteral, itemsLiteral, List.append_assoc] at same
          exact absurd same.symm (literal_append_ne othersAreKeys.1 (by decide) _ _)
  | cons item items =>
      cases others with
      | nil =>
          rw [itemsLiteral, itemsLiteral, List.append_assoc] at same
          exact absurd same (literal_append_ne areKeys.1 (by decide) _ _)
      | cons other others =>
          rw [itemsLiteral, itemsLiteral, List.append_assoc, List.append_assoc] at same
          obtain ⟨sameItem, sameBehind⟩ := literal_append_inj item other areKeys.1
            othersAreKeys.1 (endsLiteral_literalsBehindFirst _ _)
            (endsLiteral_literalsBehindFirst _ _) same
          cases items with
          | nil =>
              cases others with
              | nil => exact ⟨sameItem.cons rfl, List.append_cancel_left sameBehind⟩
              | cons _ _ =>
                  exact absurd (List.cons.inj (List.cons.inj sameBehind).2).1 (by decide)
          | cons next items =>
              cases others with
              | nil => exact absurd (List.cons.inj (List.cons.inj sameBehind).2).1 (by decide)
              | cons otherNext others =>
                  obtain ⟨sameItems, sameRest⟩ := literalsBehind_append_inj (next :: items)
                    (otherNext :: others) areKeys.2 othersAreKeys.2 sameBehind
                  exact ⟨sameItem.cons sameItems, sameRest⟩

theorem literalsBehind_append_inj (items others : List Value) {rest otherRest : List Char}
    (areKeys : AreKeys items) (othersAreKeys : AreKeys others)
    (same : literalsBehind items ++ rest = literalsBehind others ++ otherRest) :
    SameItemKeys items others ∧ rest = otherRest := by
  cases items with
  | nil =>
      cases others with
      | nil => exact ⟨rfl, (List.cons.inj same).2⟩
      | cons _ _ => exact absurd (List.cons.inj same).1 (by decide)
  | cons item items =>
      cases others with
      | nil => exact absurd (List.cons.inj same).1 (by decide)
      | cons other others =>
          simp only [literalsBehind, List.cons_append, List.cons.injEq, true_and,
            List.append_assoc] at same
          obtain ⟨sameItem, sameBehind⟩ := literal_append_inj item other areKeys.1
            othersAreKeys.1 (endsLiteral_literalsBehind _ _) (endsLiteral_literalsBehind _ _) same
          obtain ⟨sameItems, sameRest⟩ := literalsBehind_append_inj items others areKeys.2
            othersAreKeys.2 sameBehind
          exact ⟨sameItem.cons sameItems, sameRest⟩

end

end Value

end SchemaDdl
