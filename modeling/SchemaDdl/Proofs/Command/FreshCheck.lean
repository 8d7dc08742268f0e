import SchemaDdl.Proofs.Command.Effect
import SchemaDdl.Proofs.Options.Output
import SchemaDdl.Yaml

/-!
# Checks of outputs that were written

An output that a run wrote is read back with its line ends unified.  A check of it against the same
schema, which it loads in the same way, passes after any runs that leave both files alone just where
the SQL text has no carriage return.
-/

namespace SchemaDdl

namespace Text

theorem unifyLineEnds_eq_self_iff {chars : List Char} :
    unifyLineEnds chars = chars ↔ '\r' ∉ chars := by
  constructor
  · intro same
    rw [← same]
    exact not_mem_unifyLineEnds chars
  · exact unifyLineEnds_of_not_mem

end Text

instance Ending.decidableEqReturned (ending : Ending) (status : Nat) :
    Decidable (ending = .returned status) :=
  match ending with
  | .returned other => decidable_of_iff (other = status) (by simp)
  | .exited _ | .stopped _ => isFalse (by simp)

namespace Command

variable {loader other : Loader} {tree : FileTree} {schema out : String}

theorem fromUTF8?_toUTF8 (text : String) : String.fromUTF8? text.toUTF8 = some text := by
  have valid : text.toUTF8.IsValidUTF8 := text.isValidUTF8
  rw [String.fromUTF8?, dif_pos valid]
  rfl

/-- What was encoded is read with its line ends unified. -/
theorem decode?_toUTF8 (sql : String) :
    decode? sql.toUTF8 = some (String.ofList (Text.unifyLineEnds sql.toList)) := by
  rw [decode?, fromUTF8?_toUTF8]
  rfl

/-- A check of the SQL text against itself, once it was written, reports the carriage returns in
it. -/
theorem checked_toUTF8 (schema out : Path) (sql : String) :
    checked schema out sql (.ok sql.toUTF8) =
      if '\r' ∈ sql.toList then
        .reported (driftReport schema out (String.ofList (Text.unifyLineEnds sql.toList)) sql)
      else .silent (.returned 0) := by
  have sameText : String.ofList (Text.unifyLineEnds sql.toList) = sql ↔ '\r' ∉ sql.toList := by
    rw [← Text.unifyLineEnds_eq_self_iff, ← String.toList_inj, String.toList_ofList]
  simp only [checked, decode?_toUTF8, sameText]
  by_cases returns : '\r' ∈ sql.toList
  · simp only [returns, not_true_eq_false, if_false, if_true]
  · simp only [returns, not_false_eq_true, if_false, if_true]

theorem eq_toUTF8_of_fromUTF8? {content : ByteArray} {text : String}
    (decodes : String.fromUTF8? content = some text) : content = text.toUTF8 := by
  rw [String.fromUTF8?] at decodes
  split at decodes
  · rw [Option.some.injEq] at decodes
    rw [← decodes]
    rfl
  · contradiction

/-- Whether a loader takes from the text of the schema at a path what another one does. -/
def LoadsAlike (tree : FileTree) (path : Path) (loader other : Loader) : Prop :=
  ∀ text : String, tree.read path = .ok text.toUTF8 →
    Source.document other text.toList = Source.document loader text.toList

theorem LoadsAlike.refl (tree : FileTree) (path : Path) (loader : Loader) :
    LoadsAlike tree path loader loader :=
  fun _ _ => rfl

theorem compileAt_of_loadsAlike {path : Path} (alike : LoadsAlike tree path loader other) :
    compileAt other tree path = compileAt loader tree path := by
  rw [compileAt, compileAt]
  cases reads : tree.read path with
  | error fault => rfl
  | ok content =>
      cases decodes : String.fromUTF8? content with
      | none => simp only [compile, decodes]
      | some text =>
          rw [eq_toUTF8_of_fromUTF8? decodes] at reads
          simp only [compile, decodes, Source.compile, alike text reads]

theorem exists_read_of_compileAt {path : Path} {sql : String}
    (compiles : compileAt loader tree path = .ok sql) :
    ∃ content, tree.read path = .ok content := by
  cases reads : tree.read path with
  | error fault => simp [compileAt, reads, compile] at compiles
  | ok content => exact ⟨content, rfl⟩

/-- A run whose schema does not lead to an SQL text reports that, if it returns. -/
theorem exists_report_of_compileAt {path : Path} {outcome : Outcome} {status : Nat}
    (fails : compileAt loader tree path = .error outcome)
    (returns : outcome.ending = .returned status) :
    ∃ report, outcome = schemaReport path report := by
  have notStopped (failure : Failure) : Outcome.stopped failure ≠ outcome := by
    rintro rfl
    simp [Outcome.stopped, Outcome.silent] at returns
  rw [compileAt] at fails
  cases reads : tree.read path with
  | error fault =>
      rw [reads, compile, Except.error.injEq] at fails
      split at fails
      · exact ⟨_, fails.symm⟩
      · exact absurd fails (notStopped _)
  | ok content =>
      rw [reads, compile] at fails
      split at fails
      · exact absurd (Except.error.inj fails) (notStopped _)
      · split at fails
        · contradiction
        · rw [Except.error.injEq] at fails
          split at fails
          · exact ⟨_, fails.symm⟩
          · exact absurd fails (notStopped _)

/-- A run whose schema does not lead to an SQL text does not succeed. -/
theorem ending_ne_of_compileAt_eq_error {path : Path} {outcome : Outcome}
    (fails : compileAt loader tree path = .error outcome) : outcome.ending ≠ .returned 0 := by
  intro succeeds
  obtain ⟨report, rfl⟩ := exists_report_of_compileAt fails succeeds
  simp [schemaReport, Outcome.reported] at succeeds

/-- Whether a command line leaves the file at a location alone: it leads to no run, or to one that
checks, prints, or writes elsewhere from the working directory. -/
def Spares (workingDirectory kept : Location) (arguments : List String) : Prop :=
  ∀ options, Options.parse arguments = .ok options →
    options.check = true ∨ options.out = none ∨
      ∃ other, options.out = some other ∧ (Path.of other).location workingDirectory ≠ kept

instance Spares.decidable (workingDirectory kept : Location) (arguments : List String) :
    Decidable (Spares workingDirectory kept arguments) :=
  match parses : Options.parse arguments with
  | .error _ => isTrue (by simp [Spares, parses])
  | .ok options =>
      decidable_of_iff
        (options.check = true ∨ options.out = none ∨
          ∃ other ∈ options.out, (Path.of other).location workingDirectory ≠ kept)
        (by simp [Spares, parses])

/-- A run as one of several: the loader that it has, and the arguments of its command line. -/
structure Invocation where
  loader : Loader
  arguments : List String

def Invocation.run (invocation : Invocation) (tree : FileTree) : Outcome × FileTree :=
  Command.run invocation.loader tree invocation.arguments

/-- The file tree after runs, one after the other. -/
def runAll (tree : FileTree) (invocations : List Invocation) : FileTree :=
  invocations.foldl (fun current invocation => (invocation.run current).2) tree

/-- A run that spares a file has no output to write there. -/
theorem ne_location_of_spares {kept : Location} {arguments : List String} {sql : String}
    (spares : Spares tree.workingDirectory kept arguments)
    (delivers : Delivers loader tree arguments out sql) :
    kept ≠ (Path.of out).location tree.workingDirectory := by
  obtain ⟨options, parses, unchecked, isOut, -⟩ := delivers
  rcases spares options parses with checks | prints | ⟨other, isOther, elsewhere⟩
  · rw [unchecked] at checks
    contradiction
  · rw [isOut] at prints
    contradiction
  · rw [isOut, Option.some.injEq] at isOther
    subst isOther
    exact elsewhere.symm

/-- A run that spares a file preserves it. -/
theorem preserves_run {kept : Location} {arguments : List String} (loader : Loader)
    (spares : Spares tree.workingDirectory kept arguments) :
    FileTree.Preserves kept tree (run loader tree arguments).2 := by
  obtain ⟨-, unchanged⟩ | ⟨out, sql, between, delivers, along, ⟨-, later⟩ |
    ⟨-, notDirectory, later⟩⟩ := run_cases loader tree arguments
  · rw [unchanged]
    exact .refl kept tree
  · rw [later]
    exact along.preserves kept
  · rw [later]
    exact (along.preserves kept).trans
      (FileTree.preserves_put notDirectory (ne_location_of_spares spares delivers))

theorem preserves_runAll {kept : Location} {invocations : List Invocation}
    (spares : ∀ invocation ∈ invocations,
      Spares tree.workingDirectory kept invocation.arguments) :
    FileTree.Preserves kept tree (runAll tree invocations) := by
  induction invocations generalizing tree with
  | nil => exact .refl kept tree
  | cons invocation invocations induction =>
      rw [List.forall_mem_cons] at spares
      have first := preserves_run invocation.loader spares.1
      have restSpares := spares.2
      rw [← first.workingDirectory] at restSpares
      exact first.trans (induction restSpares)

/-- A run that writes an output and succeeds has compiled its schema, and its options are the values
on the command line. -/
theorem eq_of_run_output
    (succeeds : (run loader tree ["--schema", schema, "--out", out]).1.ending = .returned 0) :
    Options.Argument.of schema = .ok .value ∧ Options.Argument.of out = .ok .value ∧
      ∃ sql, compileAt loader tree (Path.of schema) = .ok sql ∧
        tree.write (Path.of out) sql.toUTF8 =
          ((run loader tree ["--schema", schema, "--out", out]).2, none) := by
  cases parses : Options.parse ["--schema", schema, "--out", out] with
  | error refusal =>
      rw [run, parses] at succeeds
      cases refusal <;> simp [Outcome.refused] at succeeds
  | ok options =>
      obtain ⟨schemaIsValue, outIsValue, rfl⟩ := Options.eq_of_parse_output parses
      refine ⟨schemaIsValue, outIsValue, ?_⟩
      cases compiles : compileAt loader tree (Path.of schema) with
      | error outcome =>
          rw [run_of_compile_error parses compiles] at succeeds
          exact absurd succeeds (ending_ne_of_compileAt_eq_error compiles)
      | ok sql =>
          rw [run_of_delivers ⟨_, parses, rfl, rfl, compiles⟩] at succeeds ⊢
          exact ⟨sql, rfl, Prod.ext rfl (eq_none_of_written succeeds)⟩

theorem ne_empty_of_read {content : ByteArray} (reads : tree.read (Path.of out) = .ok content) :
    out ≠ "" := by
  rintro rfl
  obtain ⟨-, isFile⟩ := FileTree.read_eq_ok_iff.mp reads
  have isHere : (Path.of "").location tree.workingDirectory = tree.workingDirectory := rfl
  have isGiven : tree.isGiven tree.workingDirectory = true :=
    List.isSuffixOf_iff_suffix.mpr List.suffix_rfl
  rw [isHere, FileTree.lookup, if_pos isGiven] at isFile
  simp at isFile

/-- Runs that leave the schema and the output of a command line alone. -/
def SpareBoth (workingDirectory : Location) (schema out : String) (invocations : List Invocation) :
    Prop :=
  ∀ invocation ∈ invocations,
    Spares workingDirectory ((Path.of schema).location workingDirectory) invocation.arguments ∧
      Spares workingDirectory ((Path.of out).location workingDirectory) invocation.arguments

/-- A check of an output that a run wrote compares it with the SQL text that was written. -/
theorem run_check_of_run_output
    (different : (Path.of schema).location tree.workingDirectory ≠
      (Path.of out).location tree.workingDirectory)
    (alike : LoadsAlike tree (Path.of schema) loader other)
    (succeeds : (run loader tree ["--schema", schema, "--out", out]).1.ending = .returned 0)
    {invocations : List Invocation}
    (spare : SpareBoth tree.workingDirectory schema out invocations) :
    ∃ sql, compileAt loader tree (Path.of schema) = .ok sql ∧
      (run other (runAll (run loader tree ["--schema", schema, "--out", out]).2 invocations)
        ["--schema", schema, "--out", out, "--check"]).1 =
          checked (Path.of schema) (Path.of out) sql (.ok sql.toUTF8) := by
  obtain ⟨schemaIsValue, outIsValue, sql, compiles, writes⟩ := eq_of_run_output succeeds
  refine ⟨sql, compiles, ?_⟩
  have preserved : FileTree.Preserves ((Path.of schema).location tree.workingDirectory) tree
      (tree.write (Path.of out) sql.toUTF8).1 :=
    FileTree.preserves_write tree different
  generalize (run loader tree ["--schema", schema, "--out", out]).2 = fresh at writes
  rw [writes] at preserved
  have sameDirectory : fresh.workingDirectory = tree.workingDirectory := preserved.workingDirectory
  rw [SpareBoth, ← sameDirectory] at spare
  have outReads := FileTree.read_write writes
  have outLater := (preserves_runAll fun invocation member => (spare invocation member).2).read
    outReads
  obtain ⟨content, schemaReads⟩ := exists_read_of_compileAt compiles
  have schemaFresh := preserved.read schemaReads
  have schemaLater := (preserves_runAll fun invocation member => (spare invocation member).1).read
    schemaFresh
  have parses := Options.parse_check schemaIsValue outIsValue (ne_empty_of_read outReads)
  have compilesLater : compileAt other (runAll fresh invocations) (Path.of schema) = .ok sql := by
    rw [← compileAt_of_loadsAlike alike, compileAt, schemaReads] at compiles
    rw [compileAt, schemaLater, compiles]
  rw [run_of_check parses rfl rfl compilesLater, outLater]

/-- A check of an output that a run wrote passes without a word, after runs that leave the schema
and the output alone and however these load their schemas, just where the SQL text has no carriage
return; otherwise it fails.  The check has to load the schema as the run before did. -/
theorem check_passes_iff_of_run_output
    (different : (Path.of schema).location tree.workingDirectory ≠
      (Path.of out).location tree.workingDirectory)
    (alike : LoadsAlike tree (Path.of schema) loader other)
    (succeeds : (run loader tree ["--schema", schema, "--out", out]).1.ending = .returned 0)
    {invocations : List Invocation}
    (spare : SpareBoth tree.workingDirectory schema out invocations) :
    ∃ sql, compileAt loader tree (Path.of schema) = .ok sql ∧
      ((run other (runAll (run loader tree ["--schema", schema, "--out", out]).2 invocations)
          ["--schema", schema, "--out", out, "--check"]).1 = .silent (.returned 0) ↔
        '\r' ∉ sql.toList) ∧
      ('\r' ∈ sql.toList →
        (run other (runAll (run loader tree ["--schema", schema, "--out", out]).2 invocations)
          ["--schema", schema, "--out", out, "--check"]).1.ending = .returned 1) := by
  obtain ⟨sql, compiles, checks⟩ := run_check_of_run_output different alike succeeds spare
  refine ⟨sql, compiles, ?_⟩
  rw [checks, checked_toUTF8]
  by_cases returns : '\r' ∈ sql.toList
  · simp [returns, Outcome.reported, Outcome.silent]
  · simp [returns]

/-- A file tree with a schema in which a table of one column has a name in writing. -/
def treeOfTable (name : String) : FileTree where
  workingDirectory := ["shop"]
  entries := [(["schema.yaml", "shop"], .file ("\x7bcolumn_templates: , tables: \x7b" ++ name ++
    ": \x7bcolumns: \x7ba: \x7btype: b\x7d\x7d\x7d\x7d\x7d").toUTF8)]

def menuTree : FileTree :=
  treeOfTable "menu"

/-- A name of the file above the working directory is one of the file in it. -/
example : ¬Spares ["shop"] ((Path.of "sql/menu.sql").location ["shop"])
    ["--out", "../shop/sql/menu.sql"] := by
  decide +kernel

/-- Runs that check the output, print, write elsewhere, and are refused. -/
def menuInvocations : List Invocation :=
  [⟨Yaml.loader, ["--schema", "/shop/schema.yaml", "--out", "sql/menu.sql", "--check"]⟩,
    ⟨Yaml.loader, ["--schema", "./schema.yaml"]⟩,
    ⟨Yaml.loader, ["--out", "../shop/sql/../other/menu.sql"]⟩, ⟨Yaml.loader, ["--output"]⟩]

theorem check_passes_iff_of_menu :
    SpareBoth ["shop"] "schema.yaml" "/shop/sql/menu.sql" menuInvocations ∧
    ∃ sql, compileAt Yaml.loader menuTree (Path.of "schema.yaml") = .ok sql ∧
      ((run Yaml.loader
          (runAll (run Yaml.loader menuTree
            ["--schema", "schema.yaml", "--out", "/shop/sql/menu.sql"]).2 menuInvocations)
          ["--schema", "schema.yaml", "--out", "/shop/sql/menu.sql", "--check"]).1 =
            .silent (.returned 0) ↔ '\r' ∉ sql.toList) ∧
      ('\r' ∈ sql.toList →
        (run Yaml.loader
          (runAll (run Yaml.loader menuTree
            ["--schema", "schema.yaml", "--out", "/shop/sql/menu.sql"]).2 menuInvocations)
          ["--schema", "schema.yaml", "--out", "/shop/sql/menu.sql", "--check"]).1.ending =
            .returned 1) := by
  have spare : SpareBoth ["shop"] "schema.yaml" "/shop/sql/menu.sql" menuInvocations := by
    rw [SpareBoth]
    simp only [menuInvocations, List.forall_mem_cons]
    decide +kernel
  have succeeds : (run Yaml.loader menuTree
      ["--schema", "schema.yaml", "--out", "/shop/sql/menu.sql"]).1.ending = .returned 0 := by
    decide +kernel
  exact ⟨spare, check_passes_iff_of_run_output (by decide) (LoadsAlike.refl _ _ _) succeeds spare⟩

/-- A file tree with a schema whose table has an escaped carriage return for its name. -/
def returnTree : FileTree :=
  treeOfTable "\"\\r\""

/-- The output of a schema with a carriage return in it is written without fault, and a check right
behind does not pass. -/
theorem check_fails_of_returnTree :
    (Path.of "schema.yaml").location ["shop"] ≠ (Path.of "menu.sql").location ["shop"] ∧
      (run Yaml.loader returnTree ["--schema", "schema.yaml", "--out", "menu.sql"]).1.ending =
        .returned 0 ∧
      (run Yaml.loader
        (run Yaml.loader returnTree ["--schema", "schema.yaml", "--out", "menu.sql"]).2
        ["--schema", "schema.yaml", "--out", "menu.sql", "--check"]).1.ending = .returned 1 := by
  have different : (Path.of "schema.yaml").location ["shop"] ≠
      (Path.of "menu.sql").location ["shop"] := by
    decide
  have succeeds : (run Yaml.loader returnTree
      ["--schema", "schema.yaml", "--out", "menu.sql"]).1.ending = .returned 0 := by
    decide +kernel
  have returns : (compileAt Yaml.loader returnTree (Path.of "schema.yaml")).toOption.any
      (fun sql => sql.toList.contains '\r') = true := by
    decide +kernel
  have spare : SpareBoth ["shop"] "schema.yaml" "menu.sql" [] := by
    simp [SpareBoth]
  obtain ⟨sql, compiles, checks⟩ :=
    run_check_of_run_output different (LoadsAlike.refl _ _ _) succeeds spare
  rw [compiles] at returns
  refine ⟨different, succeeds, ?_⟩
  rw [runAll, List.foldl_nil] at checks
  rw [checks, checked_toUTF8, if_pos (by simpa [Except.toOption] using returns)]
  rfl

end Command

end SchemaDdl
