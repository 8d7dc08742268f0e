import SchemaDdl.Command
import SchemaDdl.Yaml

/-!
# The program

The command on the files of the system: the decisions are those of `Command`, and only the access to
files and channels is here.
-/

namespace SchemaDdl

namespace Program

/-- Whether an error number of the system, which may come with its sign turned, is the one of a path
that goes through a file. -/
def isNotDirectory (code : UInt32) : Bool :=
  code = 20 || 0 - code = 20

/-- The failure of an operation on a path that the system reports, if it is one that a run tells
apart. -/
def fileError? : IO.Error → Option FileError
  | .noFileOrDirectory .. => some .notFound
  | .alreadyExists .. => some .exists
  | .inappropriateType _ code _ =>
      some (if isNotDirectory code then .notDirectory else .isDirectory)
  | _ => none

/-- The result of an operation on a path, or its failure. -/
def attempt {α : Type} (operation : IO α) : IO (Except FileError α) := do
  try
    return .ok (← operation)
  catch error =>
    match fileError? error with
    | some failure => return .error failure
    | none => throw error

def readFile (path : Path) : IO (Except FileError ByteArray) :=
  attempt (IO.FS.readBinFile path.text)

/-- Puts a content into a file, once the directories on the way are there. -/
def writeFile (path : Path) (content : ByteArray) : IO (Except FileError Unit) :=
  attempt do
    IO.FS.createDirAll path.parent.text
    IO.FS.writeBinFile path.text content

def deliver (schema : Path) (sql : String) : Command.Delivery → IO Outcome
  | .print => return Command.printed sql
  | .check out => return Command.checked schema out sql (← readFile out)
  | .write out => do
      match ← writeFile out sql.toUTF8 with
      | .ok () => return Command.written out none
      | .error failure => return Command.written out (some failure)

/-- Runs the command with the arguments of a command line. -/
def run (arguments : List String) : IO Outcome := do
  match Options.parse arguments with
  | .error refusal => return .refused refusal
  | .ok options =>
      let schema := Path.of options.schema
      match Command.compile Yaml.loader schema (← readFile schema) with
      | .error outcome => return outcome
      | .ok sql => deliver schema sql (Command.deliveryOf options)

/-- Prints what a run prints and gives its status. -/
def finish (outcome : Outcome) : IO UInt32 := do
  (← IO.getStdout).putStr outcome.output
  (← IO.getStderr).putStr outcome.errors
  match outcome.ending with
  | .returned status | .exited status => return UInt32.ofNat status
  | .stopped _ =>
      (← IO.getStderr).putStr "the run was stopped\n"
      return 1

end Program

end SchemaDdl

/-- Compiles a schema by the options of the command line. -/
def main (arguments : List String) : IO UInt32 := do
  SchemaDdl.Program.finish (← SchemaDdl.Program.run arguments)
