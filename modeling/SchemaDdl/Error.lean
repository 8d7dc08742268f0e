import SchemaDdl.Value.Printer

/-!
# Causes of failed compilations

Each cause names what is wrong and where.  `CompileError.message?` holds the wording of the causes
that are reported.  Two are not: a value that cannot be a key where a name is looked up, and a whole
number with too many digits where its text is needed.  A report needs the texts of the values that
it shows, so it may itself fail for the latter.
-/

namespace SchemaDdl

inductive Section
  | columnTemplates
  | tables
  deriving DecidableEq

namespace Section

def keyword : Section → String
  | .columnTemplates => "column_templates"
  | .tables => "tables"

end Section

inductive ConstraintField
  | primaryColumns
  | foreignColumn
  | foreignReferencesColumn
  | foreignReferencesTable
  deriving DecidableEq

namespace ConstraintField

def kindWord : ConstraintField → String
  | .primaryColumns => "PK"
  | .foreignColumn | .foreignReferencesColumn | .foreignReferencesTable => "FK"

/-- The key of a field in the mapping of a constraint. -/
def keyword : ConstraintField → String
  | .primaryColumns => "columns"
  | .foreignColumn => "column"
  | .foreignReferencesColumn => "references_column"
  | .foreignReferencesTable => "references_table"

end ConstraintField

inductive CompileError
  | rootNotMapping
  | missingSection (missing : Section)
  | sectionNotMapping (malformed : Section)
  | tableWithoutColumns (table : String)
  | columnsNotMapping (table : String)
  | columnNotMapping (table : String) (column : Value)
  | templateNameNotKey (table : String) (column template : Value)
  | unknownTemplate (table : String) (column template : Value)
  | templateNotMapping (template : Value)
  | columnWithoutType (table : String) (column : Value)
  | enumWithoutValues (table : String) (column : Value)
  | unrecognizedProperty (table : String) (column property : Value)
  | constraintsNotList (table : String)
  | constraintNotMapping (table : String)
  | constraintWithoutType (table : String)
  | constraintTypeNotKey (table : String) (type : Value)
  | constraintOfUnknownType (table : String) (type : Value)
  | constraintWithoutField (table : String) (field : ConstraintField)
  | numberTooLong

namespace CompileError

/-- The wording of a cause, if it is one that is reported. -/
def message? : CompileError → Option String
  | .rootNotMapping =>
      some "Schema file must contain a mapping at the top level"
  | .missingSection missing =>
      some ("No " ++ missing.keyword ++ " found in schema file... aborting")
  | .sectionNotMapping malformed =>
      some ("Section `" ++ malformed.keyword ++ "` must be a mapping")
  | .tableWithoutColumns table =>
      some ("Table `" ++ table ++ "` is missing columns... aborting")
  | .columnsNotMapping table =>
      some ("Columns for table `" ++ table ++ "` must be a mapping")
  | .columnNotMapping table column =>
      some ("Column `" ++ column.display ++ "` for table `" ++ table ++
        "` must be a mapping of properties")
  | .unknownTemplate table column template =>
      some ("Requested column template `" ++ template.display ++ "` for column `" ++
        column.display ++ "` in table `" ++ table ++ "` not found")
  | .templateNotMapping template =>
      some ("Column template `" ++ template.display ++ "` must be a mapping of properties")
  | .columnWithoutType table column =>
      some ("Column `" ++ column.display ++ "` for table `" ++ table ++
        "` is missing a type... aborting")
  | .enumWithoutValues table column =>
      some ("Enum `" ++ column.display ++ "` for table `" ++ table ++
        "` is missing a values collection... aborting")
  | .unrecognizedProperty table column property =>
      some ("Extra column property `" ++ property.display ++ "` found for column `" ++
        column.display ++ "` in table `" ++ table ++ "`... aborting")
  | .constraintsNotList table =>
      some ("Constraints for table `" ++ table ++ "` must be a list")
  | .constraintNotMapping table =>
      some ("Constraint for table `" ++ table ++ "` must be a mapping")
  | .constraintWithoutType table =>
      some ("Constraint for table `" ++ table ++ "` is missing a type... aborting")
  | .constraintOfUnknownType table type =>
      some ("Unknown constraint type `" ++ type.display ++ "` found for table `" ++ table ++
        "`... aborting")
  | .constraintWithoutField table field =>
      some (field.kindWord ++ " constraint for table `" ++ table ++ "` is missing a " ++
        field.keyword ++ "... aborting")
  | .templateNameNotKey .. | .constraintTypeNotKey .. | .numberTooLong => none

/-- Whether a compilation is rejected with a report. -/
def isRejection (error : CompileError) : Bool :=
  error.message?.isSome

/-- The values that the wording of a cause shows. -/
def shown : CompileError → List Value
  | .columnNotMapping _ column | .columnWithoutType _ column | .enumWithoutValues _ column =>
      [column]
  | .unknownTemplate _ column template => [template, column]
  | .templateNotMapping template => [template]
  | .unrecognizedProperty _ column property => [property, column]
  | .constraintOfUnknownType _ type => [type]
  | _ => []

/-- What a compilation fails for where there is a cause to report: that cause, unless its wording
shows a number that is too long to be written. -/
def reported (error : CompileError) : CompileError :=
  if error.shown.all Value.isWritable then error else .numberTooLong

end CompileError

/-- The SQL text of a value, if it can be written. -/
def Value.written (value : Value) : Except CompileError String :=
  if value.isWritable then .ok value.sqlText else .error .numberTooLong

end SchemaDdl
