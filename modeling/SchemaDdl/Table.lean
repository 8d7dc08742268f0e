import SchemaDdl.Constraint
import SchemaDdl.Layout

/-!
# Tables

A table is resolved to its columns and constraints, columns first, both in document order.  Its
statement has a header, the aligned lines of the columns, an empty line and the aligned lines of the
constraints where there are any, and a closing line.
-/

namespace SchemaDdl

structure Table where
  name : String
  columns : List Column
  constraints : List Constraint
  deriving DecidableEq

namespace Table

/-- The columns that a mapping from names to definitions describes. -/
def columnsOf (table : String) (columns templates : Mapping) :
    Except CompileError (List Column) :=
  columns.mapM fun entry => Column.ofDefinition table entry.1 entry.2 templates

/-- The constraints that the entries of a table describe, which need not be there. -/
def constraintsOf (table : String) (entries : Mapping) :
    Except CompileError (List Constraint) :=
  match Mapping.property? entries "constraints" with
  | none => .ok []
  | some constraints => Constraint.listOfValue table constraints

/-- The table with a given name that the entries of a mapping describe; its columns have to be there
and not to count as unset. -/
def ofEntries (name : String) (entries templates : Mapping) : Except CompileError Table :=
  match Mapping.property? entries "columns" with
  | none => .error (.tableWithoutColumns name)
  | some columns =>
      if !columns.truthy then
        .error (.tableWithoutColumns name)
      else
        match columns with
        | .map _ columns => do
            let columns ← columnsOf name columns templates
            let constraints ← constraintsOf name entries
            return { name, columns, constraints }
        | _ => .error (.columnsNotMapping name)

def ofValue (name : String) (table : Value) (templates : Mapping) : Except CompileError Table :=
  match table with
  | .map _ entries => ofEntries name entries templates
  | _ => .error (.tableWithoutColumns name)

/-- The table that an entry of a schema describes: its name and a value. -/
def ofEntry (templates : Mapping) (entry : Value × Value) : Except CompileError Table := do
  let name ← entry.1.written
  ofValue name entry.2 templates

/-- How the lines of columns are set: the nullability stands at the right end of its place. -/
def columnStyle : Layout.Style where
  rightAligned := [(Column.nullabilityPosition : Int)]

def columnLines (columns : List Column) : List String :=
  Layout.lines columnStyle (columns.map Column.cells)

/-- The aligned lines of constraints, behind an empty line where there are any. -/
def constraintLines (constraints : List Constraint) : List String :=
  if constraints.isEmpty then []
  else "" :: Layout.lines {} (constraints.map Constraint.cells)

def statementLines (table : Table) : List String :=
  ("CREATE TABLE " ++ Identifier.quoted table.name) :: "(" ::
    (Layout.bodyLines (columnLines table.columns ++ constraintLines table.constraints) ++
      [");", ""])

def statement (table : Table) : String :=
  "\n".intercalate table.statementLines

/-- The statement of the table with a given name that a value describes. -/
def compile (name : String) (table : Value) (templates : Mapping) :
    Except CompileError String :=
  (ofValue name table templates).map statement

end Table

end SchemaDdl
