import SchemaDdl.Text.Digit
import SchemaDdl.Text.Quoted

/-!
# Options of the command line

The command line names a schema, may name an output, and may ask for a check of the output.  An
option is given by its name or by what its name begins with, its value behind an equals sign or as
the next argument; of several values the last one counts.  Nothing else may stand on the command
line.

Arguments are first told apart one by one, and then taken from left to right.  The first problem is
reported, except that arguments of which no use is made are reported together at the end.
-/

namespace SchemaDdl

structure Options where
  schema : String := "schema.yaml"
  out : Option String := none
  check : Bool := false
  deriving DecidableEq

namespace Options

inductive Name
  | help
  | schema
  | out
  | check
  deriving DecidableEq

namespace Name

def all : List Name :=
  [.help, .schema, .out, .check]

def long : Name → String
  | .help => "--help"
  | .schema => "--schema"
  | .out => "--out"
  | .check => "--check"

def label : Name → String
  | .help => "-h/--help"
  | name => name.long

end Name

inductive UsageError
  | ambiguous (argument : String)
  | missingValue (option : Name)
  | unusedValue (option : Name) (value : String)
  | unrecognized (arguments : List String)
  | outNeeded
  deriving DecidableEq

/-- Why a command line does not lead to a run. -/
inductive Refusal
  | help
  | usage (error : UsageError)
  deriving DecidableEq

def program : String := "generate-schema-sql"

def usage : String :=
  "usage: " ++ program ++ " [-h] [--schema SCHEMA] [--out OUT] [--check]\n"

def helpText : String :=
  usage ++ "\n" ++
    "Generate CREATE TABLE SQL from a YAML schema\n" ++ "\n" ++
    "options:\n" ++
    "  -h, --help       show this help message and exit\n" ++
    "  --schema SCHEMA  Input YAML schema\n" ++
    "  --out OUT        Output SQL file (default: stdout)\n" ++
    "  --check          Verify --out is up-to-date without writing\n"

namespace UsageError

/-- The wording of a problem with the command line. -/
def message : UsageError → String
  | .ambiguous argument =>
      "ambiguous option: " ++ argument ++ " could match " ++
        ", ".intercalate (Name.all.map Name.long)
  | .missingValue option => "argument " ++ option.label ++ ": expected one argument"
  | .unusedValue option value =>
      "argument " ++ option.label ++ ": ignored explicit argument " ++ Text.quoted value
  | .unrecognized arguments => "unrecognized arguments: " ++ " ".intercalate arguments
  | .outNeeded => "--check requires --out"

/-- The report of a problem with the command line, behind the summary of the options. -/
def report (error : UsageError) : String :=
  usage ++ program ++ ": error: " ++ error.message ++ "\n"

end UsageError

inductive Argument
  | value
  | separator
  | option (name : Name) (attached : Option String)
  | shortHelp (attached : List Char)
  | unknown
  deriving DecidableEq

def isDigit (c : Char) : Bool :=
  (Text.digit? c).isSome

/-- Whether characters are digits, or a point with digits behind it and perhaps in front. -/
def isNumber (chars : List Char) : Bool :=
  match chars.dropWhile isDigit with
  | [] => !chars.isEmpty
  | '.' :: decimals => !decimals.isEmpty && decimals.all isDigit
  | _ => false

/-- Whether characters are a negative number, which is a value and not an option; a line feed may
end it. -/
def isNegativeNumber : List Char → Bool
  | '-' :: rest => isNumber (if rest.getLast? = some '\n' then rest.dropLast else rest)
  | _ => false

/-- Characters divided at the first equals sign, what follows it being there only if there is
one. -/
def splitAtEquals (chars : List Char) : List Char × Option String :=
  (chars.takeWhile (· ≠ '='),
    match chars.dropWhile (· ≠ '=') with
    | [] => none
    | _ :: value => some (String.ofList value))

/-- The options whose names begin with some characters. -/
def candidates (chars : List Char) : List Name :=
  Name.all.filter fun name => chars.isPrefixOf name.long.toList

/-- An argument that is no option known by its spelling: a value if it is a negative number or has a
space in it. -/
def unlisted (chars : List Char) : Argument :=
  if isNegativeNumber chars || chars.contains ' ' then .value else .unknown

/-- What an argument in front of any separator is by itself. -/
def Argument.of (argument : String) : Except Refusal Argument :=
  match argument.toList with
  | '-' :: '-' :: rest =>
      if rest.isEmpty then
        .ok .separator
      else
        let (name, attached) := splitAtEquals argument.toList
        match candidates name with
        | [] => .ok (unlisted argument.toList)
        | [name] => .ok (.option name attached)
        | _ => .error (.usage (.ambiguous argument))
  | '-' :: 'h' :: attached => .ok (.shortHelp attached)
  | ['-'] => .ok .value
  | '-' :: rest => .ok (unlisted ('-' :: rest))
  | _ => .ok .value

/-- The arguments with what each of them is; behind a separator all are values. -/
def classify : List String → Except Refusal (List (String × Argument))
  | [] => .ok []
  | argument :: arguments => do
      match ← Argument.of argument with
      | .separator =>
          return (argument, .separator) :: arguments.map fun value => (value, .value)
      | kind => return (argument, kind) :: (← classify arguments)

/-- What comes of the short option for help with characters attached: these can repeat the option,
and are passed over where they are another option, but they are no value. -/
def shortHelpRefusal : List Char → Refusal
  | [] => .help
  | '=' :: value => .usage (.unusedValue .help (String.ofList value))
  | '-' :: rest => .usage (.unusedValue .help (String.ofList ('-' :: rest)))
  | 'h' :: rest => shortHelpRefusal rest
  | _ => .help

def setValue (name : Name) (value : String) (options : Options) : Options :=
  match name with
  | .schema => { options with schema := value }
  | .out => { options with out := some value }
  | .help | .check => options

/-- The options after further arguments, and the arguments of which no use is made. -/
def scan (options : Options) :
    List (String × Argument) → Except Refusal (Options × List String)
  | [] => .ok (options, [])
  | (_, .shortHelp attached) :: _ => .error (shortHelpRefusal attached)
  | (_, .option .help none) :: _ => .error .help
  | (_, .option .help (some value)) :: _ => .error (.usage (.unusedValue .help value))
  | (_, .option .check none) :: rest => scan { options with check := true } rest
  | (_, .option .check (some value)) :: _ => .error (.usage (.unusedValue .check value))
  | (_, .option name (some value)) :: rest => scan (setValue name value options) rest
  | (_, .option name none) :: (value, .value) :: rest => scan (setValue name value options) rest
  | (_, .option name none) :: _ => .error (.usage (.missingValue name))
  | (argument, _) :: rest => do
      let (options, unused) ← scan options rest
      return (options, argument :: unused)

/-- The options of a command line, unless it asks for help or is wrong. -/
def parse (arguments : List String) : Except Refusal Options := do
  let (options, unused) ← scan {} (← classify arguments)
  if !unused.isEmpty then throw (.usage (.unrecognized unused))
  if options.check && options.out.all String.isEmpty then throw (.usage .outNeeded)
  return options

end Options

end SchemaDdl
