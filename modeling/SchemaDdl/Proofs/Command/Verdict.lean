import SchemaDdl.Proofs.Command.FreshCheck
import SchemaDdl.Proofs.Options.Value
import SchemaDdl.Proofs.Text.LineEnds

/-!
# The verdict of a check

A check of an output that is a text passes just where the schema compiles to that text with its line
ends unified.  It fails where a fault of the schema is reported, or where the texts differ, and is
stopped in all other cases.  Which of the line endings the schema and the output are written with
makes no difference to what the check reports.  A check of a schema and an output that cannot both
be values on the command line is refused before anything is read.
-/

namespace SchemaDdl

namespace Source

/-- Sources that are the same text once their line ends are unified are the same document. -/
theorem document_congr (loader : Loader) {text other : String}
    (same : Text.unified text = Text.unified other) :
    document loader text.toList = document loader other.toList := by
  have sameChars := congrArg String.toList same
  simp only [Text.unified, String.toList_ofList] at sameChars
  simp only [document, sameChars]

end Source

namespace Command

variable {loader other : Loader} {tree converted : FileTree} {schema out : String}

/-- Whether a fault of the schema at a path is reported: the file cannot be read, is no document for
the loader, or is one that is rejected. -/
def ReportsFault (loader : Loader) (tree : FileTree) (path : Path) : Prop :=
  (∃ error, tree.read path = .error error ∧ error.isReported = true) ∨
    ∃ text : String, tree.read path = .ok text.toUTF8 ∧
      ((∃ report,
          Source.compile loader text.toList = .error (.unreadable (.malformed report))) ∨
        ∃ error, Source.compile loader text.toList = .error (.rejected error) ∧
          error.isRejection = true)

theorem ending_stopped_ne (failure : Failure) (status : Nat) :
    (Outcome.stopped failure).ending ≠ .returned status := by
  simp [Outcome.stopped, Outcome.silent]

/-- What is reported of a source that does not compile. -/
theorem sourceReport?_isSome_iff {error : SourceError} :
    (sourceReport? error).isSome = true ↔
      (∃ report, error = .unreadable (.malformed report)) ∨
        ∃ rejection, error = .rejected rejection ∧ rejection.isRejection = true := by
  cases error with
  | unreadable fault => cases fault <;> simp [sourceReport?]
  | rejected rejection => simp [sourceReport?, CompileError.isRejection]

theorem compileAt_of_text {path : Path} {text : String}
    (reads : tree.read path = .ok text.toUTF8) :
    compileAt loader tree path =
      match Source.compile loader text.toList with
      | .ok sql => .ok sql
      | .error error =>
          .error (match sourceReport? error with
            | some report => schemaReport path report
            | none => .stopped (.source error)) := by
  cases compiles : Source.compile loader text.toList with
  | ok sql => simp only [compileAt, reads, compile, fromUTF8?_toUTF8, compiles]
  | error error =>
      cases reported : sourceReport? error with
      | none => simp only [compileAt, reads, compile, fromUTF8?_toUTF8, compiles, reported]
      | some report => simp only [compileAt, reads, compile, fromUTF8?_toUTF8, compiles, reported]

theorem reportsFault_of_text_iff {path : Path} {text : String}
    (reads : tree.read path = .ok text.toUTF8) :
    ReportsFault loader tree path ↔
      ∃ error, Source.compile loader text.toList = .error error ∧
        (sourceReport? error).isSome = true := by
  simp only [sourceReport?_isSome_iff]
  constructor
  · rintro (⟨error, fault, -⟩ | ⟨other, otherReads, fault⟩)
    · rw [reads] at fault
      contradiction
    · rw [reads, Except.ok.injEq] at otherReads
      obtain rfl : text = other := by
        rw [← Option.some.injEq, ← fromUTF8?_toUTF8, otherReads, fromUTF8?_toUTF8]
      rcases fault with ⟨report, fails⟩ | ⟨error, fails, isRejection⟩
      · exact ⟨_, fails, .inl ⟨report, rfl⟩⟩
      · exact ⟨_, fails, .inr ⟨error, rfl, isRejection⟩⟩
  · rintro ⟨_, fails, ⟨report, rfl⟩ | ⟨error, rfl, isRejection⟩⟩
    · exact .inr ⟨text, reads, .inl ⟨report, fails⟩⟩
    · exact .inr ⟨text, reads, .inr ⟨error, fails, isRejection⟩⟩

/-- A run whose schema does not lead to an SQL text returns status one just where the fault is
reported. -/
theorem ending_eq_returned_one_iff {path : Path} {outcome : Outcome}
    (fails : compileAt loader tree path = .error outcome) :
    outcome.ending = .returned 1 ↔ ReportsFault loader tree path := by
  cases reads : tree.read path with
  | error fault =>
      rw [compileAt, reads, compile, Except.error.injEq] at fails
      subst fails
      cases reported : fault.isReported with
      | true => simp [ReportsFault, reads, reported, schemaReport, Outcome.reported]
      | false => simp [ReportsFault, reads, reported, ending_stopped_ne]
  | ok content =>
      cases decodes : String.fromUTF8? content with
      | none =>
          rw [compileAt, reads, compile, decodes, Except.error.injEq] at fails
          subst fails
          have noText : ∀ text : String, content ≠ text.toUTF8 := by
            rintro text rfl
            rw [fromUTF8?_toUTF8] at decodes
            contradiction
          refine iff_of_false (ending_stopped_ne _ _) ?_
          rintro (⟨error, fault, -⟩ | ⟨text, isText, -⟩)
          · rw [reads] at fault
            contradiction
          · rw [reads, Except.ok.injEq] at isText
            exact noText text isText
      | some text =>
          rw [eq_toUTF8_of_fromUTF8? decodes] at reads
          rw [compileAt_of_text reads] at fails
          rw [reportsFault_of_text_iff reads]
          cases compiles : Source.compile loader text.toList with
          | ok sql => simp [compiles] at fails
          | error error =>
              simp only [compiles, Except.error.injEq] at fails
              subst fails
              simp only [Except.error.injEq, exists_eq_left']
              cases sourceReport? error with
              | none => simp [ending_stopped_ne]
              | some report => simp [schemaReport, Outcome.reported]

theorem not_reportsFault_of_compileAt {path : Path} {sql : String}
    (compiles : compileAt loader tree path = .ok sql) : ¬ReportsFault loader tree path := by
  rintro (⟨error, reads, -⟩ | ⟨text, reads, ⟨report, fault⟩ | ⟨error, fault, -⟩⟩)
  · simp [compileAt, reads, compile] at compiles
  · rw [compileAt_of_text reads, fault] at compiles
    contradiction
  · rw [compileAt_of_text reads, fault] at compiles
    contradiction

theorem run_check (schemaIsValue : Options.Argument.of schema = .ok .value)
    (outIsValue : Options.Argument.of out = .ok .value) {content : ByteArray}
    (reads : tree.read (Path.of out) = .ok content) :
    (run loader tree ["--schema", schema, "--out", out, "--check"]).1 =
      match compileAt loader tree (Path.of schema) with
      | .error outcome => outcome
      | .ok sql => checked (Path.of schema) (Path.of out) sql (.ok content) := by
  have parses := Options.parse_check schemaIsValue outIsValue (ne_empty_of_read reads)
  cases compiles : compileAt loader tree (Path.of schema) with
  | error outcome => rw [run_of_compile_error parses compiles]
  | ok sql => rw [run_of_check parses rfl rfl compiles, reads]

/-- A check of an output that is a text compares the text, its line ends unified. -/
theorem checked_text (schema out : Path) (sql text : String) :
    checked schema out sql (.ok text.toUTF8) =
      if Text.unified text = sql then .silent (.returned 0)
      else .reported (driftReport schema out (Text.unified text) sql) := by
  rw [checked, decode?_toUTF8]
  rfl

/-- A schema without carriage returns compiles alike with any line endings. -/
theorem compileAt_converted {path : Path} {text : String}
    (alike : LoadsAlike tree path loader other) (reads : tree.read path = .ok text.toUTF8)
    (noReturn : '\r' ∉ text.toList) {ending : Text.LineEnding}
    (convertedReads : converted.read path = .ok (Text.converted ending text).toUTF8) :
    compileAt other converted path = compileAt loader tree path := by
  have same : Text.unified (Text.converted ending text) = Text.unified text := by
    rw [Text.unified_converted noReturn, Text.unified_of_not_mem noReturn]
  have sameDocument := (Source.document_congr other same).trans (alike text reads)
  simp only [compileAt, reads, convertedReads, compile, fromUTF8?_toUTF8, Source.compile,
    sameDocument]

/-- What becomes of a check of an output that is a text. -/
structure ChecksText (loader : Loader) (tree : FileTree) (schema out text : String) : Prop where
  passes : (run loader tree ["--schema", schema, "--out", out, "--check"]).1.ending =
      .returned 0 ↔
    compileAt loader tree (Path.of schema) = .ok (Text.unified text)
  fails : (run loader tree ["--schema", schema, "--out", out, "--check"]).1.ending =
      .returned 1 ↔
    ReportsFault loader tree (Path.of schema) ∨
      ∃ sql, compileAt loader tree (Path.of schema) = .ok sql ∧ Text.unified text ≠ sql
  converted : ∀ schemaText, tree.read (Path.of schema) = .ok schemaText.toUTF8 →
    '\r' ∉ schemaText.toList → '\r' ∉ text.toList →
    ∀ (other : Loader) (converted : FileTree) (schemaEnding outEnding : Text.LineEnding),
      LoadsAlike tree (Path.of schema) loader other →
      converted.read (Path.of schema) = .ok (Text.converted schemaEnding schemaText).toUTF8 →
      converted.read (Path.of out) = .ok (Text.converted outEnding text).toUTF8 →
      compileAt other converted (Path.of schema) = compileAt loader tree (Path.of schema) ∧
        (run other converted ["--schema", schema, "--out", out, "--check"]).1 =
          (run loader tree ["--schema", schema, "--out", out, "--check"]).1

theorem checksText_of_values (schemaIsValue : Options.Argument.of schema = .ok .value)
    (outIsValue : Options.Argument.of out = .ok .value) {text : String}
    (reads : tree.read (Path.of out) = .ok text.toUTF8) :
    ChecksText loader tree schema out text where
  passes := by
    rw [run_check schemaIsValue outIsValue reads]
    cases compiles : compileAt loader tree (Path.of schema) with
    | error outcome => simp [ending_ne_of_compileAt_eq_error compiles]
    | ok sql =>
        rw [Except.ok.injEq]
        simp only [checked_text]
        by_cases same : Text.unified text = sql
        · simp [same, Outcome.silent]
        · simp [same, Ne.symm same, Outcome.reported]
  fails := by
    rw [run_check schemaIsValue outIsValue reads]
    cases compiles : compileAt loader tree (Path.of schema) with
    | error outcome => simp [ending_eq_returned_one_iff compiles]
    | ok sql =>
        have noFault := not_reportsFault_of_compileAt compiles
        simp only [checked_text]
        by_cases same : Text.unified text = sql
        · simp [same, noFault, Outcome.silent]
        · simp [same, Outcome.reported]
  converted := by
    intro schemaText schemaReads schemaPlain outPlain other converted schemaEnding outEnding alike
      convertedSchemaReads convertedReads
    have sameSql := compileAt_converted alike schemaReads schemaPlain convertedSchemaReads
    refine ⟨sameSql, ?_⟩
    rw [run_check schemaIsValue outIsValue convertedReads,
      run_check schemaIsValue outIsValue reads, sameSql]
    simp only [checked_text, Text.unified_converted outPlain, Text.unified_of_not_mem outPlain]

/-- A check of an output that is a text returns nought just where the schema compiles to the text
with its line ends unified, and one just where a fault of the schema is reported or the schema
compiles to another text.  If schema and output have no carriage returns, the same check of them
with their lines ended in any of the ways has the same SQL text and the same outcome.  This is so
where both are values on the command line; where one is not, the check reports that on the error
channel, returns two and leaves all files as they are. -/
theorem check_verdict (loader : Loader) (tree : FileTree) (schema out : String) :
    (Options.IsValue schema.toList → Options.IsValue out.toList →
      ∀ text : String, tree.read (Path.of out) = .ok text.toUTF8 →
        ChecksText loader tree schema out text) ∧
    (¬(Options.IsValue schema.toList ∧ Options.IsValue out.toList) →
      ∃ error : Options.UsageError,
        run loader tree ["--schema", schema, "--out", out, "--check"] =
          (⟨"", error.report, .exited 2⟩, tree)) := by
  constructor
  · intro schemaIsValue outIsValue text reads
    exact checksText_of_values (Options.of_eq_value_iff.mpr schemaIsValue)
      (Options.of_eq_value_iff.mpr outIsValue) reads
  · intro notValues
    obtain ⟨error, refused⟩ := Options.exists_usageError_of_parse_check notValues
    exact ⟨error, by rw [run, refused]; rfl⟩

/-- A file tree with a schema and an output in the working directory. -/
def treeOf (schema out : String × String) : FileTree where
  workingDirectory := ["bar"]
  entries := [([schema.1, "bar"], .file schema.2.toUTF8), ([out.1, "bar"], .file out.2.toUTF8)]

def drinksSchema : String :=
  "column_templates:\ntables:\n  drinks:\n    columns:\n      name: \x7btype: TEXT\x7d\n"

def drinksSql : String :=
  "CREATE TABLE `drinks`\n(\n    `name` TEXT\n);\n"

def drinksTree : FileTree :=
  treeOf ("schema.yaml", drinksSchema) ("menu.sql", drinksSql)

/-- The same files, ended in other ways. -/
def convertedDrinksTree : FileTree :=
  treeOf ("schema.yaml", Text.converted .returnAndFeed drinksSchema)
    ("menu.sql", Text.converted .carriageReturn drinksSql)

theorem check_verdict_of_drinks :
    Options.IsValue "schema.yaml".toList ∧ Options.IsValue "/bar/menu.sql".toList ∧
    drinksTree.read (Path.of "/bar/menu.sql") = .ok drinksSql.toUTF8 ∧
    ChecksText Yaml.loader drinksTree "schema.yaml" "/bar/menu.sql" drinksSql ∧
    compileAt Yaml.loader convertedDrinksTree (Path.of "schema.yaml") =
      compileAt Yaml.loader drinksTree (Path.of "schema.yaml") ∧
    (run Yaml.loader convertedDrinksTree
        ["--schema", "schema.yaml", "--out", "/bar/menu.sql", "--check"]).1 =
      (run Yaml.loader drinksTree
        ["--schema", "schema.yaml", "--out", "/bar/menu.sql", "--check"]).1 ∧
    ¬(Options.IsValue "schema.yaml".toList ∧ Options.IsValue "-1e5".toList) ∧
    ∃ error : Options.UsageError,
      run Yaml.loader drinksTree ["--schema", "schema.yaml", "--out", "-1e5", "--check"] =
        (⟨"", error.report, .exited 2⟩, drinksTree) := by
  have schemaIsValue : Options.IsValue "schema.yaml".toList := .plain (by decide)
  have outIsValue : Options.IsValue "/bar/menu.sql".toList := .plain (by decide)
  have reads : drinksTree.read (Path.of "/bar/menu.sql") = .ok drinksSql.toUTF8 := rfl
  have notValues : ¬(Options.IsValue "schema.yaml".toList ∧ Options.IsValue "-1e5".toList) := by
    rw [← Options.of_eq_value_iff, ← Options.of_eq_value_iff]
    decide
  have verdict := (check_verdict Yaml.loader drinksTree "schema.yaml" "/bar/menu.sql").1
    schemaIsValue outIsValue drinksSql reads
  obtain ⟨sameSql, sameOutcome⟩ := verdict.converted drinksSchema rfl (by decide) (by decide)
    Yaml.loader convertedDrinksTree .returnAndFeed .carriageReturn (LoadsAlike.refl _ _ _) rfl rfl
  exact ⟨schemaIsValue, outIsValue, reads, verdict, sameSql, sameOutcome, notValues,
    (check_verdict Yaml.loader drinksTree "schema.yaml" "-1e5").2 notValues⟩

/-- A file tree with a schema without tables, whose name begins with a hyphen, and its SQL text. -/
def hyphenTree : FileTree :=
  treeOf ("-s.yaml", "\x7bcolumn_templates: , tables: \x7b\x7d\x7d") ("menu.sql", "")

/-- A schema whose name is taken for an option compiles to the output, and a check of it ends as a
wrong command line. -/
theorem check_exits_of_hyphenTree :
    hyphenTree.read (Path.of "menu.sql") = .ok "".toUTF8 ∧
      (compileAt Yaml.loader hyphenTree (Path.of "-s.yaml")).toOption = some (Text.unified "") ∧
      (run Yaml.loader hyphenTree
        ["--schema", "-s.yaml", "--out", "menu.sql", "--check"]).1.ending = .exited 2 := by
  refine ⟨rfl, ?_, rfl⟩
  decide +kernel

end Command

end SchemaDdl
