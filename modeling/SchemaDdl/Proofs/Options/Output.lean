import SchemaDdl.Options
import SchemaDdl.Proofs.Resolution.Fault

/-!
# Command lines with a schema and an output

A command line that names a schema and an output leads to a run just where both are arguments that
can be values.  It then still does with a check behind it, if the output is not empty.
-/

namespace SchemaDdl

namespace Options

variable {schema out : String}

theorem of_schemaOption : Argument.of "--schema" = .ok (.option .schema none) := by
  rfl

theorem of_outOption : Argument.of "--out" = .ok (.option .out none) := by
  rfl

theorem of_checkOption : Argument.of "--check" = .ok (.option .check none) := by
  rfl

/-- What is told of the first argument, and of the others unless it is the separator. -/
theorem classify_cons_eq_ok {argument : String} {arguments : List String}
    {kinds : List (String × Argument)} (classifies : classify (argument :: arguments) = .ok kinds) :
    ∃ kind rest, Argument.of argument = .ok kind ∧ kinds = (argument, kind) :: rest ∧
      (kind ≠ .separator → classify arguments = .ok rest) := by
  rw [classify, bind_eq_ok_iff] at classifies
  obtain ⟨kind, isKind, others⟩ := classifies
  cases kind with
  | separator =>
      rw [pure_eq_ok_iff] at others
      exact ⟨.separator, _, isKind, others.symm, fun notSeparator => absurd rfl notSeparator⟩
  | _ =>
      rw [bind_eq_ok_iff] at others
      obtain ⟨rest, classifiesRest, isKinds⟩ := others
      rw [pure_eq_ok_iff] at isKinds
      exact ⟨_, rest, isKind, isKinds.symm, fun _ => classifiesRest⟩

theorem classify_cons_of_ne_separator {argument : String} {kind : Argument}
    (isKind : Argument.of argument = .ok kind) (notSeparator : kind ≠ .separator)
    {arguments : List String} {rest : List (String × Argument)}
    (classifies : classify arguments = .ok rest) :
    classify (argument :: arguments) = .ok ((argument, kind) :: rest) := by
  rw [classify, isKind]
  cases kind with
  | separator => contradiction
  | _ =>
      rw [classifies]
      rfl

/-- An option that takes a value takes the argument behind it, which has to be one. -/
theorem scan_valueOption {name : Name} (takesValue : name = .schema ∨ name = .out)
    {spelling argument : String} {kind : Argument} {options : Options}
    {rest : List (String × Argument)} {result : Options × List String} :
    scan options ((spelling, .option name none) :: (argument, kind) :: rest) = .ok result ↔
      kind = .value ∧ scan (setValue name argument options) rest = .ok result := by
  rcases takesValue with rfl | rfl
  · cases kind <;> simp [scan]
  · cases kind <;> simp [scan]

/-- A command line leads to a run when its arguments make up options, none is left over, and a check
has an output. -/
theorem parse_eq_ok_iff {arguments : List String} {options : Options} :
    parse arguments = .ok options ↔
      ∃ kinds, classify arguments = .ok kinds ∧ scan {} kinds = .ok (options, []) ∧
        (options.check && options.out.all String.isEmpty) = false := by
  simp only [parse, bind_eq_ok_iff]
  constructor
  · rintro ⟨kinds, classifies, ⟨scanned, unused⟩, scans, passes⟩
    cases unused with
    | cons argument unused => cases passes
    | nil =>
        cases outNeeded : scanned.check && scanned.out.all String.isEmpty with
        | true =>
            simp only [outNeeded] at passes
            cases passes
        | false =>
            simp only [outNeeded] at passes
            cases passes
            exact ⟨kinds, classifies, scans, outNeeded⟩
  · rintro ⟨kinds, classifies, scans, outGiven⟩
    refine ⟨kinds, classifies, (options, []), scans, ?_⟩
    simp only [outGiven]
    rfl

/-- The schema and the output of a command line that leads to a run are values, and the options are
the two of them. -/
theorem eq_of_parse_output {options : Options}
    (parses : parse ["--schema", schema, "--out", out] = .ok options) :
    Argument.of schema = .ok .value ∧ Argument.of out = .ok .value ∧
      options = { schema, out := some out } := by
  obtain ⟨kinds, classifies, scans, -⟩ := parse_eq_ok_iff.mp parses
  obtain ⟨schemaOption, afterOption, isOption, rfl, classifiesSchema⟩ :=
    classify_cons_eq_ok classifies
  rw [of_schemaOption, Except.ok.injEq] at isOption
  subst isOption
  obtain ⟨schemaKind, afterSchema, schemaIsKind, rfl, classifiesOption⟩ :=
    classify_cons_eq_ok (classifiesSchema (by simp))
  obtain ⟨rfl, scansOut⟩ := (scan_valueOption (.inl rfl)).mp scans
  obtain ⟨outOption, afterOption, isOption, rfl, classifiesOut⟩ :=
    classify_cons_eq_ok (classifiesOption (by simp))
  rw [of_outOption, Except.ok.injEq] at isOption
  subst isOption
  obtain ⟨outKind, afterOut, outIsKind, rfl, classifiesEnd⟩ :=
    classify_cons_eq_ok (classifiesOut (by simp))
  obtain ⟨rfl, scansEnd⟩ := (scan_valueOption (.inr rfl)).mp scansOut
  have atEnd := classifiesEnd (by simp)
  rw [classify, Except.ok.injEq] at atEnd
  subst atEnd
  rw [scan, Except.ok.injEq, Prod.mk.injEq] at scansEnd
  exact ⟨schemaIsKind, outIsKind, scansEnd.1.symm⟩

/-- A check behind a schema and an output that are values leads to a run. -/
theorem parse_check (schemaIsValue : Argument.of schema = .ok .value)
    (outIsValue : Argument.of out = .ok .value) (outGiven : out ≠ "") :
    parse ["--schema", schema, "--out", out, "--check"] =
      .ok { schema, out := some out, check := true } := by
  refine parse_eq_ok_iff.mpr ⟨[("--schema", .option .schema none), (schema, .value),
    ("--out", .option .out none), (out, .value), ("--check", .option .check none)], ?_, ?_, ?_⟩
  · have atEnd : classify [] = .ok [] := rfl
    have atCheck := classify_cons_of_ne_separator of_checkOption (by simp) atEnd
    have atOut := classify_cons_of_ne_separator of_outOption (by simp)
      (classify_cons_of_ne_separator outIsValue (by simp) atCheck)
    exact classify_cons_of_ne_separator of_schemaOption (by simp)
      (classify_cons_of_ne_separator schemaIsValue (by simp) atOut)
  · exact (scan_valueOption (.inl rfl)).mpr
      ⟨rfl, (scan_valueOption (.inr rfl)).mpr ⟨rfl, rfl⟩⟩
  · simpa using outGiven

end Options

end SchemaDdl
