import Mathlib.Data.List.Basic
import SchemaDdl.Text.Quoted

/-!
# Reading quoted texts

What stands for a character between quotation marks is read back to the character, whatever follows
it, and no character is written as the mark itself.  A quoted text is therefore determined by a text
that it begins.
-/

namespace SchemaDdl

namespace Text

def hexValue (chars : List Char) : Nat :=
  chars.foldl (fun value c => value * 16 + (hexDigit? c).getD 0) 0

theorem hexDigit?_hexDigit (value : Nat) : hexDigit? (hexDigit value) = some (value % 16) := by
  have digits : ∀ digit : Fin 16, hexDigit? (Nat.digitChar digit) = some digit.val := by
    decide
  exact digits ⟨value % 16, Nat.mod_lt value (by decide)⟩

theorem length_hexadecimal (width value : Nat) : (hexadecimal width value).length = width := by
  induction width generalizing value with
  | zero => rfl
  | succ width induction => simp [hexadecimal, induction]

theorem hexValue_hexadecimal {width value : Nat} (fits : value < Nat.pow 16 width) :
    hexValue (hexadecimal width value) = value := by
  induction width generalizing value with
  | zero =>
      rw [Nat.lt_one_iff.mp fits]
      rfl
  | succ width induction =>
      have quotientFits : value / 16 < Nat.pow 16 width := by
        apply Nat.div_lt_of_lt_mul
        rw [Nat.mul_comm]
        exact fits
      have quotient := induction quotientFits
      rw [hexValue] at quotient
      rw [hexadecimal, hexValue, List.foldl_append, quotient, List.foldl_cons, List.foldl_nil,
        hexDigit?_hexDigit, Option.getD_some]
      omega

/-- The character whose number the given count of hexadecimal digits stand for, and what is behind
them. -/
def readNumeric (width : Nat) (chars : List Char) : Char × List Char :=
  (Char.ofNat (hexValue (chars.take width)), chars.drop width)

/-- The character that the front of a text between quotation marks stands for, and what is behind
it. -/
def unescape : List Char → Char × List Char
  | '\\' :: c :: rest =>
      if c = 'n' then ('\n', rest)
      else if c = 'r' then ('\r', rest)
      else if c = 't' then ('\t', rest)
      else if c = 'x' then readNumeric 2 rest
      else if c = 'u' then readNumeric 4 rest
      else if c = 'U' then readNumeric 8 rest
      else (c, rest)
  | chars => (chars.headD '\\', chars.drop 1)

theorem readNumeric_hexadecimal {width : Nat} {c : Char} (fits : c.toNat < Nat.pow 16 width)
    (rest : List Char) : readNumeric width (hexadecimal width c.toNat ++ rest) = (c, rest) := by
  have length := length_hexadecimal width c.toNat
  rw [readNumeric, List.take_left' length, List.drop_left' length, hexValue_hexadecimal fits,
    Char.ofNat_toNat]

theorem unescape_numericEscape (c : Char) (rest : List Char) :
    unescape (numericEscape c.toNat ++ rest) = (c, rest) := by
  rw [numericEscape]
  split
  · rename_i octet
    exact readNumeric_hexadecimal octet rest
  · split
    · rename_i short
      exact readNumeric_hexadecimal short rest
    · have bounded : c.toNat < Nat.pow 16 8 := c.val.toNat_lt
      exact readNumeric_hexadecimal bounded rest

def IsQuotationMark (mark : Char) : Prop :=
  mark = '\'' ∨ mark = '"'

theorem isQuotationMark_quotationMark (content : List Char) :
    IsQuotationMark (quotationMark content) := by
  unfold quotationMark
  split
  · exact .inr rfl
  · exact .inl rfl

theorem unescape_cons {c : Char} (notBackslash : c ≠ '\\') (rest : List Char) :
    unescape (c :: rest) = (c, rest) := by
  unfold unescape
  split
  · rename_i same
    exact absurd (List.cons.inj same).1 notBackslash
  · rfl

theorem unescape_escaped {mark : Char} (isMark : IsQuotationMark mark)
    (printable : Char → Bool) (c : Char) (rest : List Char) :
    unescape (escaped mark printable c ++ rest) = (c, rest) := by
  unfold escaped
  split
  · rename_i marked
    rcases marked with rfl | rfl
    · rcases isMark with rfl | rfl <;> rfl
    · rfl
  · rename_i unmarked
    rw [not_or] at unmarked
    split
    · rename_i isFeed
      rw [isFeed]
      rfl
    · split
      · rename_i isReturn
        rw [isReturn]
        rfl
      · split
        · rename_i isTab
          rw [isTab]
          rfl
        · split
          · exact unescape_cons unmarked.2 rest
          · exact unescape_numericEscape c rest

/-- No character is written so that the mark stands in front. -/
theorem escaped_append_ne {mark : Char} (isMark : IsQuotationMark mark)
    (printable : Char → Bool) (c : Char) (rest otherRest : List Char) :
    escaped mark printable c ++ rest ≠ mark :: otherRest := by
  have backslash : '\\' ≠ mark := by
    rcases isMark with rfl | rfl <;> decide
  intro same
  unfold escaped numericEscape at same
  split at same
  · exact backslash (List.cons.inj same).1
  · rename_i unmarked
    rw [not_or] at unmarked
    repeat' split at same
    all_goals first
      | exact backslash (List.cons.inj same).1
      | exact unmarked.1 (List.cons.inj same).1

theorem escaped_content_inj {mark : Char} (isMark : IsQuotationMark mark)
    {printable : Char → Bool} {content other rest otherRest : List Char}
    (same : content.flatMap (escaped mark printable) ++ mark :: rest =
      other.flatMap (escaped mark printable) ++ mark :: otherRest) :
    content = other ∧ rest = otherRest := by
  induction content generalizing other with
  | nil =>
      cases other with
      | nil => simpa using same
      | cons c other =>
          rw [List.flatMap_nil, List.nil_append, List.flatMap_cons, List.append_assoc] at same
          exact absurd same.symm (escaped_append_ne isMark printable c _ _)
  | cons c content induction =>
      cases other with
      | nil =>
          rw [List.flatMap_nil, List.nil_append, List.flatMap_cons, List.append_assoc] at same
          exact absurd same (escaped_append_ne isMark printable c _ _)
      | cons d other =>
          rw [List.flatMap_cons, List.flatMap_cons, List.append_assoc, List.append_assoc] at same
          have sameFront := congrArg unescape same
          rw [unescape_escaped isMark, unescape_escaped isMark, Prod.mk.injEq] at sameFront
          obtain ⟨rfl, sameBehind⟩ := sameFront
          obtain ⟨rfl, sameRest⟩ := induction sameBehind
          exact ⟨rfl, sameRest⟩

/-- A quoted content in front of a text is determined, with the text. -/
theorem quotedChars_append_inj {printable : Char → Bool}
    {content other rest otherRest : List Char}
    (same : quotedChars printable content ++ rest = quotedChars printable other ++ otherRest) :
    content = other ∧ rest = otherRest := by
  simp only [quotedChars, List.cons_append, List.append_assoc, List.nil_append,
    List.cons.injEq] at same
  obtain ⟨sameMark, sameContent⟩ := same
  rw [← sameMark] at sameContent
  exact escaped_content_inj (isQuotationMark_quotationMark content) sameContent

theorem quoted_append_inj {text other : String} {rest otherRest : List Char}
    (same : (quoted text).toList ++ rest = (quoted other).toList ++ otherRest) :
    text = other ∧ rest = otherRest := by
  simp only [quoted, String.toList_ofList] at same
  obtain ⟨sameChars, sameRest⟩ := quotedChars_append_inj same
  exact ⟨String.toList_injective sameChars, sameRest⟩

theorem octetChar_injective : Function.Injective fun octet : UInt8 => Char.ofNat octet.toNat := by
  have readBack : ∀ octet : UInt8, (Char.ofNat octet.toNat).toNat = octet.toNat := by
    intro octet
    have bounded := octet.toNat_lt
    have valid : octet.toNat.isValidChar := .inl (by omega)
    rw [Char.ofNat, dif_pos valid]
    rfl
  intro octet other same
  have sameNumber := congrArg Char.toNat same
  rw [readBack, readBack] at sameNumber
  exact UInt8.toNat_inj.mp sameNumber

theorem quotedOctets_append_inj {octets others : List UInt8} {rest otherRest : List Char}
    (same : (quotedOctets octets).toList ++ rest = (quotedOctets others).toList ++ otherRest) :
    octets = others ∧ rest = otherRest := by
  simp only [quotedOctets, String.toList_ofList, List.cons_append, List.cons.injEq,
    true_and] at same
  obtain ⟨sameChars, sameRest⟩ := quotedChars_append_inj same
  exact ⟨List.map_injective_iff.mpr octetChar_injective sameChars, sameRest⟩

end Text

end SchemaDdl
