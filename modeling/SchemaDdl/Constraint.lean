import SchemaDdl.Column
import SchemaDdl.Text.Blank

/-!
# Constraints

A constraint is resolved to a generated name, the words of its kind, a clause with its columns and,
where it is a foreign key, a clause with what it references.  The parts of a generated name are
joined by two underscores; the name of a foreign key is cut to 63 characters.
-/

namespace SchemaDdl

structure Constraint where
  name : String
  kind : String
  columns : String
  references : String
  deriving DecidableEq

namespace Constraint

/-- The fragments as the cells of a row, behind the keyword of constraints. -/
def cells (constraint : Constraint) : List String :=
  ["CONSTRAINT", constraint.name, constraint.kind, constraint.columns, constraint.references]

/-- The greatest number of characters in the name of a foreign key. -/
def nameLimit : Nat := 63

def nameSeparator : String := "__"

/-- Identifiers between parentheses and separated by commas. -/
def identifierList (names : List String) : String :=
  "( " ++ ", ".intercalate (names.map Identifier.quoted) ++ " )"

/-- The name of the primary key of a table over columns. -/
def primaryName (table : String) (columns : List String) : String :=
  nameSeparator.intercalate ("pk" :: table :: columns)

/-- The name of a foreign key from a column of a table to a column of another one, in full
length. -/
def foreignFullName (table column referencesTable referencesColumn : String) : String :=
  nameSeparator.intercalate ["fk", table, referencesTable, column, referencesColumn]

/-- The name of a foreign key; names that agree up to the limit are equal. -/
def foreignName (table column referencesTable referencesColumn : String) : String :=
  Text.truncate nameLimit (foreignFullName table column referencesTable referencesColumn)

def primaryKey (table : String) (columns : List String) : Constraint where
  name := Identifier.quoted (primaryName table columns)
  kind := "PRIMARY KEY"
  columns := identifierList columns
  references := ""

/-- The foreign key from a column of a table to a column of another one. -/
def foreignKey (table column referencesTable referencesColumn : String) : Constraint where
  name := Identifier.quoted (foreignName table column referencesTable referencesColumn)
  kind := "FOREIGN KEY"
  columns := identifierList [column]
  references :=
    "REFERENCES " ++ Identifier.quoted referencesTable ++ " " ++ identifierList [referencesColumn]

def required (table : String) (entries : Mapping) (field : ConstraintField) :
    Except CompileError Value :=
  match Mapping.property? entries field.keyword with
  | none => .error (.constraintWithoutField table field)
  | some value => .ok value

def primaryOfEntries (table : String) (entries : Mapping) : Except CompileError Constraint := do
  let columns ← required table entries .primaryColumns
  let texts ← columns.items.mapM Value.written
  return primaryKey table texts

def foreignOfEntries (table : String) (entries : Mapping) : Except CompileError Constraint := do
  let column ← required table entries .foreignColumn
  let referencesColumn ← required table entries .foreignReferencesColumn
  let referencesTable ← required table entries .foreignReferencesTable
  let column ← column.written
  let referencesTable ← referencesTable.written
  let referencesColumn ← referencesColumn.written
  return foreignKey table column referencesTable referencesColumn

/-- The constraint that a mapping of a table describes, by its type. -/
def ofEntries (table : String) (entries : Mapping) : Except CompileError Constraint :=
  match Mapping.property? entries "type" with
  | none => .error (.constraintWithoutType table)
  | some type =>
      match type.key? with
      | none => .error (.constraintTypeNotKey table type)
      | some key =>
          if key = .text "primary" then primaryOfEntries table entries
          else if key = .text "foreign" then foreignOfEntries table entries
          else .error (CompileError.constraintOfUnknownType table type).reported

/-- The constraint of a table that a value describes, null being read as the empty mapping. -/
def ofValue (table : String) (constraint : Value) : Except CompileError Constraint :=
  match constraint with
  | .null => ofEntries table []
  | .map _ entries => ofEntries table entries
  | _ => .error (.constraintNotMapping table)

/-- The constraints of a table, null being read as none. -/
def listOfValue (table : String) (constraints : Value) : Except CompileError (List Constraint) :=
  match constraints with
  | .null => .ok []
  | .list _ items => items.mapM (ofValue table)
  | _ => .error (.constraintsNotList table)

end Constraint

end SchemaDdl
