import SchemaDdl.Diff.Report
import SchemaDdl.FileTree
import SchemaDdl.Options
import SchemaDdl.Source

/-!
# The command

A run compiles the schema that the options name, and prints the SQL text, writes it to the output,
or checks the output against it.  Nothing is written before the schema has compiled.  The decisions
are apart from the access to files, which `Command.run` provides on a file tree.
-/

namespace SchemaDdl

/-- What stops a run without a report of its own. -/
inductive Failure
  | notText
  | file (error : FileError)
  | source (error : SourceError)

/-- How a run ends: with a status, or stopped. -/
inductive Ending
  | returned (status : Nat)
  | exited (status : Nat)
  | stopped (failure : Failure)

/-- What a run prints on either channel, and how it ends. -/
structure Outcome where
  output : String
  errors : String
  ending : Ending

namespace Outcome

/-- The outcome of a run that prints nothing more. -/
def silent (ending : Ending) : Outcome :=
  ⟨"", "", ending⟩

def stopped (failure : Failure) : Outcome :=
  silent (.stopped failure)

/-- The outcome of a run that ends with a report on the error channel. -/
def reported (lines : List String) : Outcome :=
  ⟨"", String.join (lines.map (· ++ "\n")), .returned 1⟩

/-- The outcome of a command line that does not lead to a run. -/
def refused : Options.Refusal → Outcome
  | .help => ⟨Options.helpText, "", .exited 0⟩
  | .usage error => ⟨"", error.report, .exited 2⟩

end Outcome

namespace Command

/-- The text of a file, its line ends unified, if it is UTF-8. -/
def decode? (content : ByteArray) : Option String :=
  (String.fromUTF8? content).map fun text => String.ofList (Text.unifyLineEnds text.toList)

/-- What is reported of a schema source that does not compile, if anything is. -/
def sourceReport? : SourceError → Option String
  | .unreadable (.malformed report) => some report
  | .unreadable (.brokenOff _) => none
  | .rejected error => error.message?

/-- The outcome of a run whose schema does not lead to an SQL text. -/
def schemaReport (path : Path) (report : String) : Outcome :=
  .reported ["[error] " ++ path.text ++ ": " ++ report]

/-- The SQL text of the schema at a path whose file was read, or the outcome of the run without
one. -/
def compile (loader : Loader) (path : Path) : Except FileError ByteArray → Except Outcome String
  | .error error =>
      .error (if error.isReported then schemaReport path (error.message path)
        else .stopped (.file error))
  | .ok content =>
      match String.fromUTF8? content with
      | none => .error (.stopped .notText)
      | some text =>
          match Source.compile loader text.toList with
          | .ok sql => .ok sql
          | .error error =>
              .error (match sourceReport? error with
                | some report => schemaReport path report
                | none => .stopped (.source error))

/-- The SQL text of the schema at a path of a file tree, or the outcome of the run without one. -/
def compileAt (loader : Loader) (tree : FileTree) (path : Path) : Except Outcome String :=
  compile loader path (tree.read path)

/-- What a run does with an SQL text. -/
inductive Delivery
  | print
  | check (out : Path)
  | write (out : Path)
  deriving DecidableEq

/-- What the options ask to do with an SQL text. -/
def deliveryOf (options : Options) : Delivery :=
  match options.out with
  | none => .print
  | some out => if options.check then .check (.of out) else .write (.of out)

/-- The report of a difference between the text of the output and the SQL text. -/
def driftReport (schema out : Path) (existing sql : String) : List String :=
  ("[check] drift detected: " ++ out.text ++ " is out of date with " ++ schema.text) ::
    Diff.truncated
      (Diff.report out.text (schema.text ++ " -> " ++ out.text)
        (Text.lines existing) (Text.lines sql))

/-- The outcome of a check of the output at a path whose file was read. -/
def checked (schema out : Path) (sql : String) : Except FileError ByteArray → Outcome
  | .error .isDirectory => .stopped (.file .isDirectory)
  | .error _ =>
      .reported ["[check] missing file: " ++ out.text ++ " (generate it from " ++
        schema.text ++ ")"]
  | .ok content =>
      match decode? content with
      | none => .stopped .notText
      | some existing =>
          if existing = sql then .silent (.returned 0)
          else .reported (driftReport schema out existing sql)

/-- The outcome of a run that wrote the output, or failed to. -/
def written (out : Path) : Option FileError → Outcome
  | some error => .stopped (.file error)
  | none => ⟨"Generated " ++ out.text ++ "\n", "", .returned 0⟩

/-- The outcome of a run that prints the SQL text. -/
def printed (sql : String) : Outcome :=
  ⟨sql, "", .returned 0⟩

/-- The outcome of delivering an SQL text, and the file tree after it. -/
def deliver (tree : FileTree) (schema : Path) (sql : String) : Delivery → Outcome × FileTree
  | .print => (printed sql, tree)
  | .check out => (checked schema out sql (tree.read out), tree)
  | .write out =>
      let (tree, failure) := tree.write out sql.toUTF8
      (written out failure, tree)

/-- The outcome of a run with options, and the file tree after it. -/
def runWith (loader : Loader) (tree : FileTree) (options : Options) : Outcome × FileTree :=
  let schema := Path.of options.schema
  match compileAt loader tree schema with
  | .error outcome => (outcome, tree)
  | .ok sql => deliver tree schema sql (deliveryOf options)

/-- The outcome of a run with the arguments of a command line, and the file tree after it. -/
def run (loader : Loader) (tree : FileTree) (arguments : List String) : Outcome × FileTree :=
  match Options.parse arguments with
  | .error refusal => (.refused refusal, tree)
  | .ok options => runWith loader tree options

end Command

end SchemaDdl
