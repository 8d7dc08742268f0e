import SchemaDdl.Table

/-!
# Schemas

A schema is the column templates and the tables of a document.  Both sections have to be there
before either is looked at.  A schema compiles to the statements of its tables in document order,
separated by empty lines.
-/

namespace SchemaDdl

/-- The column templates and tables of a document, by name. -/
structure Schema where
  columnTemplates : Mapping
  tables : Mapping

namespace Schema

def requireSection (entries : Mapping) (wanted : Section) : Except CompileError Value :=
  match Mapping.property? entries wanted.keyword with
  | none => .error (.missingSection wanted)
  | some body => .ok body

/-- The entries of a section, null being read as none. -/
def sectionEntries (wanted : Section) (body : Value) : Except CompileError Mapping :=
  match body with
  | .null => .ok []
  | .map _ entries => .ok entries
  | _ => .error (.sectionNotMapping wanted)

def ofEntries (entries : Mapping) : Except CompileError Schema := do
  let templates ← requireSection entries .columnTemplates
  let tables ← requireSection entries .tables
  let columnTemplates ← sectionEntries .columnTemplates templates
  let tables ← sectionEntries .tables tables
  return { columnTemplates, tables }

/-- The schema of a document, null being read as the empty mapping. -/
def ofValue (document : Value) : Except CompileError Schema :=
  match document with
  | .null => ofEntries []
  | .map _ entries => ofEntries entries
  | _ => .error .rootNotMapping

/-- The tables of a schema, resolved in document order. -/
def resolve (schema : Schema) : Except CompileError (List Table) :=
  schema.tables.mapM (Table.ofEntry schema.columnTemplates)

/-- The statements of tables, separated by empty lines. -/
def statements (tables : List Table) : String :=
  "\n".intercalate (tables.map Table.statement)

def compile (schema : Schema) : Except CompileError String :=
  schema.resolve.map statements

def compileDocument (document : Value) : Except CompileError String := do
  let schema ← ofValue document
  schema.compile

end Schema

end SchemaDdl
