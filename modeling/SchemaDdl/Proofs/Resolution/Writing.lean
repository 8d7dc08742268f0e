import SchemaDdl.Proofs.Resolution.Fault

/-!
# Values in writing

A value has an SQL text unless a whole number in it has too many digits.  A cause that is reported
fails with that instead where its wording would show such a value.
-/

namespace SchemaDdl

namespace Text

/-- A power of ten has one digit more than its exponent says. -/
theorem isWritable_pow {exponent : Nat} (isLimit : exponent = decimalDigitLimit) :
    isWritable (Nat.pow 10 exponent : Nat) = false := by
  have positive : 0 < exponent := by
    rw [isLimit]
    decide
  rw [isWritable, Int.natAbs_natCast, decide_eq_false_iff_not, ← isLimit,
    Nat.length_toDigits_le_iff (by decide) positive]
  exact Nat.lt_irrefl _

end Text

namespace Value

variable {value : Value} {values : List Value}

theorem written_eq_ok_iff {text : String} :
    value.written = .ok text ↔ value.isWritable = true ∧ value.sqlText = text := by
  rw [written]
  cases value.isWritable <;> simp

theorem written_eq_error_iff {fault : CompileError} :
    value.written = .error fault ↔ value.isWritable = false ∧ fault = .numberTooLong := by
  rw [written]
  cases value.isWritable <;> simp [eq_comm]

theorem mapM_written_eq_ok_iff {texts : List String} :
    values.mapM written = .ok texts ↔
      (∀ value ∈ values, value.isWritable = true) ∧ values.map sqlText = texts := by
  rw [mapM_eq_ok_iff]
  simp only [written_eq_ok_iff, List.forall₂_and_left]
  rw [← List.forall₂_map_left_iff, List.forall₂_eq_eq_eq]

theorem mapM_written_eq_error_iff {fault : CompileError} :
    values.mapM written = .error fault ↔
      (∃ value ∈ values, value.isWritable = false) ∧ fault = .numberTooLong := by
  rw [← fault?_eq_some_iff, fault?_mapM]
  constructor
  · intro found
    obtain ⟨value, member, fails⟩ := List.exists_of_findSome?_eq_some found
    obtain ⟨long, rfl⟩ := written_eq_error_iff.mp (fault?_eq_some_iff.mp fails)
    exact ⟨⟨value, member, long⟩, rfl⟩
  · rintro ⟨⟨value, member, long⟩, rfl⟩
    cases found : values.findSome? fun value => fault? value.written with
    | none =>
        have passes := List.findSome?_eq_none_iff.mp found value member
        rw [written, long] at passes
        contradiction
    | some other =>
        obtain ⟨_, _, fails⟩ := List.exists_of_findSome?_eq_some found
        rw [(written_eq_error_iff.mp (fault?_eq_some_iff.mp fails)).2]

theorem written_bind {α : Type} (value : Value) (next : String → Except CompileError α) :
    value.written >>= next =
      if value.isWritable then next value.sqlText else .error .numberTooLong := by
  rw [written]
  cases value.isWritable <;> rfl

theorem mapM_written_bind {α : Type} (values : List Value)
    (next : List String → Except CompileError α) :
    values.mapM written >>= next =
      if ∀ value ∈ values, value.isWritable = true then next (values.map sqlText)
      else .error .numberTooLong := by
  split
  · rename_i areWritable
    rw [mapM_written_eq_ok_iff.mpr ⟨areWritable, rfl⟩]
    rfl
  · rename_i notWritable
    have isTooLong : ∃ value ∈ values, value.isWritable = false := by
      simpa using notWritable
    rw [mapM_written_eq_error_iff.mpr ⟨isTooLong, rfl⟩]
    rfl

/-- A whole number with one digit more than can be written. -/
@[irreducible]
def longNumber : Value :=
  .int (Nat.pow 10 Text.decimalDigitLimit : Nat)

theorem isWritable_longNumber : longNumber.isWritable = false := by
  rw [isWritable, longNumber, isWritableWithin]
  exact Text.isWritable_pow rfl

theorem longNumber_ne_text (text : String) : longNumber ≠ .text text := by
  rw [longNumber]
  rintro ⟨⟩

end Value

namespace CompileError

/-- A cause is reported as it is, or gives way to a number that is too long. -/
theorem reported_eq_or (error : CompileError) :
    error.reported = error ∨ error.reported = .numberTooLong := by
  rw [reported]
  split
  · exact .inl rfl
  · exact .inr rfl

theorem reported_eq_numberTooLong {error : CompileError} {value : Value}
    (isShown : value ∈ error.shown) (isTooLong : value.isWritable = false) :
    error.reported = .numberTooLong := by
  rw [reported, if_neg]
  intro areWritable
  rw [List.all_eq_true.mp areWritable value isShown] at isTooLong
  contradiction

end CompileError

end SchemaDdl
