import Mathlib.Data.List.Infix
import Mathlib.Data.List.TakeWhile
import SchemaDdl.Proofs.Options.Output

/-!
# Arguments that are values

An argument is a value of the option in front of it unless it begins with a hyphen.  A hyphen alone
is a value all the same, and so are negative numbers and arguments with a space in them, if no
option is meant by what they begin with.  With any other argument in the place of a value, the
command line is refused.
-/

namespace SchemaDdl

namespace Options

/-- Digits, or a point with digits behind it and perhaps in front. -/
inductive IsNumber : List Char → Prop
  | whole {digits : List Char} (areDigits : ∀ c ∈ digits, isDigit c = true)
      (nonempty : digits ≠ []) : IsNumber digits
  | fraction {digits decimals : List Char} (areDigits : ∀ c ∈ digits, isDigit c = true)
      (areDecimals : ∀ c ∈ decimals, isDigit c = true) (nonempty : decimals ≠ []) :
      IsNumber (digits ++ '.' :: decimals)

inductive IsNegativeNumber : List Char → Prop
  | unended {number : List Char} (isNumber : IsNumber number) : IsNegativeNumber ('-' :: number)
  | ended {number : List Char} (isNumber : IsNumber number) :
      IsNegativeNumber ('-' :: (number ++ ['\n']))

/-- Whether an option is meant by characters: the short one for help is in front, or what stands
before any equals sign is what the name of an option begins with. -/
inductive NamesOption (chars : List Char) : Prop
  | short (begins : ['-', 'h'] <+: chars)
  | long (begins : ['-', '-'] <+: chars) {name : Name}
      (names : chars.takeWhile (· ≠ '=') <+: name.long.toList)

/-- Whether characters are a value where an option takes one. -/
inductive IsValue : List Char → Prop
  | plain {chars : List Char} (noHyphen : chars.head? ≠ some '-') : IsValue chars
  | hyphen : IsValue ['-']
  | number {chars : List Char} (isNumber : IsNegativeNumber chars) : IsValue chars
  | spaced {chars : List Char} (noOption : ¬NamesOption chars) (hasSpace : ' ' ∈ chars) :
      IsValue chars

theorem isNumber_iff {chars : List Char} : isNumber chars = true ↔ IsNumber chars := by
  constructor
  · intro isNumber
    have split := List.takeWhile_append_dropWhile (p := isDigit) (l := chars)
    have areDigits : ∀ c ∈ chars.takeWhile isDigit, isDigit c = true :=
      fun c member => List.mem_takeWhile_imp member
    rw [Options.isNumber] at isNumber
    split at isNumber
    · rename_i atEnd
      rw [atEnd, List.append_nil] at split
      rw [split] at areDigits
      exact .whole areDigits (by simpa using isNumber)
    · rename_i decimals atPoint
      rw [atPoint] at split
      rw [Bool.and_eq_true, List.all_eq_true] at isNumber
      rw [← split]
      exact .fraction areDigits isNumber.2 (by simpa using isNumber.1)
    · contradiction
  · intro isNumber
    cases isNumber with
    | whole areDigits nonempty =>
        rw [Options.isNumber, List.dropWhile_eq_nil_iff.mpr areDigits]
        simpa using nonempty
    | fraction areDigits areDecimals nonempty =>
        have atPoint : isDigit '.' = false := by decide
        rw [Options.isNumber, List.dropWhile_append_of_pos areDigits,
          List.dropWhile_cons_of_neg (by simp [atPoint])]
        simpa [nonempty] using areDecimals

/-- The characters of a number are digits and points. -/
theorem IsNumber.isDigit_or_eq {chars : List Char} (isNumber : IsNumber chars) :
    ∀ c ∈ chars, isDigit c = true ∨ c = '.' := by
  intro c member
  cases isNumber with
  | whole areDigits nonempty => exact .inl (areDigits c member)
  | fraction areDigits areDecimals nonempty =>
      rcases List.mem_append.mp member with inFront | behind
      · exact .inl (areDigits c inFront)
      · rcases List.mem_cons.mp behind with isPoint | inDecimals
        · exact .inr isPoint
        · exact .inl (areDecimals c inDecimals)

theorem IsNumber.ne_nil {chars : List Char} (isNumber : IsNumber chars) : chars ≠ [] := by
  cases isNumber with
  | whole areDigits nonempty => exact nonempty
  | fraction areDigits areDecimals nonempty => simp

theorem isNegativeNumber_iff {chars : List Char} :
    isNegativeNumber chars = true ↔ IsNegativeNumber chars := by
  constructor
  · intro isNegative
    rw [isNegativeNumber.eq_def] at isNegative
    split at isNegative
    · rename_i rest
      split at isNegative
      · rename_i ends
        obtain ⟨front, rfl⟩ := List.getLast?_eq_some_iff.mp ends
        rw [List.dropLast_concat] at isNegative
        exact .ended (isNumber_iff.mp isNegative)
      · exact .unended (isNumber_iff.mp isNegative)
    · contradiction
  · intro isNegative
    cases isNegative with
    | @unended number isNumber =>
        have notEnded : number.getLast? ≠ some '\n' := by
          intro ends
          have lineFeed := isNumber.isDigit_or_eq _ (List.mem_of_getLast? ends)
          exact absurd lineFeed (by decide)
        rw [isNegativeNumber, if_neg notEnded]
        exact isNumber_iff.mpr isNumber
    | ended isNumber =>
        rw [isNegativeNumber, if_pos List.getLast?_concat, List.dropLast_concat]
        exact isNumber_iff.mpr isNumber

/-- What is behind the hyphen of a negative number is a digit or a point. -/
theorem IsNegativeNumber.exists_eq_cons {chars : List Char} (isNegative : IsNegativeNumber chars) :
    ∃ c rest, chars = '-' :: c :: rest ∧ (isDigit c = true ∨ c = '.') := by
  cases isNegative with
  | @unended number isNumber =>
      cases number with
      | nil => exact absurd rfl isNumber.ne_nil
      | cons c rest => exact ⟨c, rest, rfl, isNumber.isDigit_or_eq c (by simp)⟩
  | @ended number isNumber =>
      cases number with
      | nil => exact absurd rfl isNumber.ne_nil
      | cons c rest => exact ⟨c, rest ++ ['\n'], rfl, isNumber.isDigit_or_eq c (by simp)⟩

theorem unlisted_eq_value_iff {chars : List Char} :
    unlisted chars = .value ↔ IsNegativeNumber chars ∨ ' ' ∈ chars := by
  rw [← isNegativeNumber_iff, unlisted]
  cases isNegativeNumber chars <;> simp

theorem candidates_eq_nil_iff {chars : List Char} :
    candidates chars = [] ↔ ∀ name : Name, ¬chars <+: name.long.toList := by
  rw [candidates, List.filter_eq_nil_iff]
  simp only [List.isPrefixOf_iff_prefix]
  constructor
  · intro noName name
    exact noName name (by cases name <;> decide)
  · exact fun noName name _ => noName name

section

variable {c : Char} {rest : List Char}

/-- A value that begins with a hyphen and is longer is a negative number, or has a space and means
no option. -/
theorem isValue_hyphen_iff :
    IsValue ('-' :: c :: rest) ↔
      IsNegativeNumber ('-' :: c :: rest) ∨
        ¬NamesOption ('-' :: c :: rest) ∧ ' ' ∈ '-' :: c :: rest := by
  constructor
  · rintro (noHyphen | _ | isNumber | ⟨noOption, hasSpace⟩)
    · simp at noHyphen
    · exact .inl isNumber
    · exact .inr ⟨noOption, hasSpace⟩
  · rintro (isNumber | ⟨noOption, hasSpace⟩)
    · exact .number isNumber
    · exact .spaced noOption hasSpace

theorem namesOption_iff_of_hyphens :
    NamesOption ('-' :: '-' :: rest) ↔
      candidates (('-' :: '-' :: rest).takeWhile (· ≠ '=')) ≠ [] := by
  rw [Ne, candidates_eq_nil_iff, not_forall]
  simp only [not_not]
  constructor
  · rintro (begins | ⟨-, names⟩)
    · simp at begins
    · exact ⟨_, names⟩
  · rintro ⟨name, names⟩
    exact .long ⟨rest, rfl⟩ names

theorem not_namesOption (notLong : c ≠ '-') (notShort : c ≠ 'h') :
    ¬NamesOption ('-' :: c :: rest) := by
  rintro (begins | ⟨begins, -⟩)
  · simp [List.cons_prefix_cons, notShort.symm] at begins
  · simp [List.cons_prefix_cons, notLong.symm] at begins

theorem not_isNegativeNumber (notDigit : isDigit c = false) (notPoint : c ≠ '.') :
    ¬IsNegativeNumber ('-' :: c :: rest) := by
  intro isNegative
  obtain ⟨other, _, same, isDigit | isPoint⟩ := isNegative.exists_eq_cons
  · simp only [List.cons.injEq, true_and] at same
    rw [← same.1, notDigit] at isDigit
    contradiction
  · simp only [List.cons.injEq, true_and] at same
    exact notPoint (same.1.trans isPoint)

end

/-- An argument by itself is a value just where its characters are one. -/
theorem of_eq_value_iff {argument : String} :
    Argument.of argument = .ok .value ↔ IsValue argument.toList := by
  rw [Argument.of]
  generalize argument.toList = chars
  cases chars with
  | nil => exact iff_of_true rfl (.plain (by simp))
  | cons first rest =>
      by_cases isHyphen : first = '-'
      · subst isHyphen
        cases rest with
        | nil => exact iff_of_true rfl .hyphen
        | cons c rest =>
            rw [isValue_hyphen_iff]
            by_cases isLong : c = '-'
            · subst isLong
              have notNumber : ¬IsNegativeNumber ('-' :: '-' :: rest) :=
                not_isNegativeNumber (by decide) (by decide)
              rw [namesOption_iff_of_hyphens, not_not]
              cases rest with
              | nil => simp [notNumber]
              | cons d rest =>
                  simp only [List.isEmpty_cons, Bool.false_eq_true, if_false, splitAtEquals]
                  generalize candidates _ = found
                  match found with
                  | [] => simp [unlisted_eq_value_iff]
                  | [name] => simp [notNumber]
                  | _ :: _ :: _ => simp [notNumber]
            · by_cases isShort : c = 'h'
              · subst isShort
                have notNumber : ¬IsNegativeNumber ('-' :: 'h' :: rest) :=
                  not_isNegativeNumber (by decide) (by decide)
                have isOption : NamesOption ('-' :: 'h' :: rest) := .short ⟨rest, rfl⟩
                simp [notNumber, isOption]
              · have noOption : ¬NamesOption ('-' :: c :: rest) :=
                  not_namesOption isLong isShort
                simp [isLong, isShort, unlisted_eq_value_iff, noOption]
      · refine iff_of_true ?_ (.plain (by simpa using isHyphen))
        simp [isHyphen]

/-- A space makes a value of an argument unless it begins with the option for help. -/
example : IsValue "-new schema.yaml".toList ∧ ¬IsValue "-hello world.yaml".toList := by
  rw [← of_eq_value_iff, ← of_eq_value_iff]
  decide

/-- An argument by itself is not refused but for being ambiguous. -/
theorem exists_usageError_of_of {argument : String} {refusal : Refusal}
    (refused : Argument.of argument = .error refusal) : ∃ error, refusal = .usage error := by
  rw [Argument.of] at refused
  split at refused
  · split at refused
    · contradiction
    · dsimp only at refused
      split at refused
      · contradiction
      · contradiction
      · exact ⟨_, (Except.error.inj refused).symm⟩
  all_goals contradiction

theorem exists_usageError_of_classify {arguments : List String} {refusal : Refusal}
    (refused : classify arguments = .error refusal) : ∃ error, refusal = .usage error := by
  induction arguments with
  | nil => contradiction
  | cons argument arguments induction =>
      rw [classify, bind_eq_error_iff] at refused
      rcases refused with refused | ⟨kind, -, refused⟩
      · exact exists_usageError_of_of refused
      · split at refused
        · contradiction
        · rcases bind_eq_error_iff.mp refused with refused | ⟨rest, -, refused⟩
          · exact induction refused
          · contradiction

/-- An option that takes a value is refused without one. -/
theorem scan_valueOption_of_ne_value {name : Name} (takesValue : name = .schema ∨ name = .out)
    {kind : Argument} (notValue : kind ≠ .value) (options : Options) (spelling argument : String)
    (rest : List (String × Argument)) :
    scan options ((spelling, .option name none) :: (argument, kind) :: rest) =
      .error (.usage (.missingValue name)) := by
  rcases takesValue with rfl | rfl
  · cases kind <;> first | rfl | contradiction
  · cases kind <;> first | rfl | contradiction

theorem parse_of_scan_error {arguments : List String} {kinds : List (String × Argument)}
    {refusal : Refusal} (classifies : classify arguments = .ok kinds)
    (refused : scan {} kinds = .error refusal) : parse arguments = .error refusal := by
  rw [parse, classifies]
  show scan {} kinds >>= _ = _
  rw [refused]
  rfl

/-- A command line on which not both the schema and the output of a check are values is refused. -/
theorem exists_usageError_of_parse_check {schema out : String}
    (notValues : ¬(IsValue schema.toList ∧ IsValue out.toList)) :
    ∃ error, parse ["--schema", schema, "--out", out, "--check"] = .error (.usage error) := by
  cases classifies : classify ["--schema", schema, "--out", out, "--check"] with
  | error refusal =>
      obtain ⟨error, rfl⟩ := exists_usageError_of_classify classifies
      exact ⟨error, by rw [parse, classifies]; rfl⟩
  | ok kinds =>
      obtain ⟨schemaOption, afterOption, isOption, rfl, classifiesSchema⟩ :=
        classify_cons_eq_ok classifies
      rw [of_schemaOption, Except.ok.injEq] at isOption
      subst isOption
      obtain ⟨schemaKind, afterSchema, schemaIsKind, rfl, classifiesOption⟩ :=
        classify_cons_eq_ok (classifiesSchema (by simp))
      by_cases schemaIsValue : schemaKind = .value
      · subst schemaIsValue
        obtain ⟨outOption, afterOption, isOption, rfl, classifiesOut⟩ :=
          classify_cons_eq_ok (classifiesOption (by simp))
        rw [of_outOption, Except.ok.injEq] at isOption
        subst isOption
        obtain ⟨outKind, afterOut, outIsKind, rfl, -⟩ :=
          classify_cons_eq_ok (classifiesOut (by simp))
        have outNotValue : outKind ≠ .value := by
          rintro rfl
          exact notValues ⟨of_eq_value_iff.mp schemaIsKind, of_eq_value_iff.mp outIsKind⟩
        have missing := scan_valueOption_of_ne_value (.inr rfl) outNotValue
          (setValue .schema schema {}) "--out" out afterOut
        exact ⟨_, parse_of_scan_error classifies (by simpa [scan] using missing)⟩
      · have missing := scan_valueOption_of_ne_value (.inl rfl) schemaIsValue {} "--schema" schema
          afterSchema
        exact ⟨_, parse_of_scan_error classifies missing⟩

end Options

end SchemaDdl
