import SchemaDdl.Proofs.Text.Trim
import SchemaDdl.Schema

/-!
# Reading statements

The tables of an SQL text are read from its lines: the lines in front of a closing line are those of
one statement, the first one names the table, and an empty line divides the columns from the
constraints.  A line of the body loses its indentation and the comma behind it.  In the line of a
column the type ends in front of the first word that begins another fragment; in the line of a
constraint the columns end at the first closing parenthesis that is not part of an identifier.
-/

namespace SchemaDdl

namespace Reader

abbrev Line := List Char

/-- The identifier between the accents in front of a text, and what is behind it. -/
def identifier (chars : List Char) : String × List Char :=
  let inside := chars.drop 1
  (String.ofList (inside.takeWhile (· ≠ '`')), (inside.dropWhile (· ≠ '`')).drop 1)

/-- The words with which a fragment behind the type of a column can begin. -/
def keywords : List (List Char) :=
  ["NOT".toList, "NULL".toList, "DEFAULT".toList]

/-- The characters of a text up to its first blank one. -/
def firstWord (chars : List Char) : List Char :=
  chars.takeWhile fun c => !Text.isBlank c

/-- The characters in front of the first word that is a keyword, and those from this word on.  A
word can begin only where the character in front is blank. -/
def splitAtKeyword (behindBlank : Bool) : List Char → List Char × List Char
  | [] => ([], [])
  | c :: rest =>
      if behindBlank ∧ firstWord (c :: rest) ∈ keywords then
        ([], c :: rest)
      else
        let (front, back) := splitAtKeyword (Text.isBlank c) rest
        (c :: front, back)

/-- The nullability with which a text begins, and what is behind it. -/
def nullability (chars : List Char) : String × List Char :=
  if "NOT NULL".toList.isPrefixOf chars then ("NOT NULL", chars.drop "NOT NULL".length)
  else if "NULL".toList.isPrefixOf chars then ("NULL", chars.drop "NULL".length)
  else ("", chars)

/-- The default at the end of a line, which has lost the space behind its keyword if it has no
text. -/
def default (chars : List Char) : String :=
  let fragment := Text.dropBlankStart chars
  String.ofList (if fragment = "DEFAULT".toList then "DEFAULT ".toList else fragment)

def column (line : Line) : Column :=
  let (name, behindName) := identifier line
  let (type, behindType) := splitAtKeyword true behindName
  let (nullability, behindNullability) := nullability behindType
  { name := Identifier.quoted name
    type := String.ofList (Text.dropBlankEnd (Text.dropBlankStart type))
    nullability
    default := default behindNullability }

/-- The characters up to the first closing parenthesis that is not between accents, and those behind
it. -/
def clause (insideAccents : Bool) : List Char → List Char × List Char
  | [] => ([], [])
  | c :: rest =>
      if c = ')' ∧ !insideAccents then
        ([c], rest)
      else
        let (front, back) := clause (if c = '`' then !insideAccents else insideAccents) rest
        (c :: front, back)

/-- The constraint of a line; the words of either kind have the same length. -/
def constraint (line : Line) : Constraint :=
  let (name, behindName) := identifier (Text.dropBlankStart (line.drop "CONSTRAINT".length))
  let behindName := Text.dropBlankStart behindName
  let (columns, behindColumns) :=
    clause false (Text.dropBlankStart (behindName.drop "PRIMARY KEY".length))
  { name := Identifier.quoted name
    kind := String.ofList (behindName.take "PRIMARY KEY".length)
    columns := String.ofList columns
    references := String.ofList (Text.dropBlankStart behindColumns) }

/-- The lines of a body without their indentation and the commas behind them. -/
def contents : List Line → List Line
  | [] => []
  | [line] => [line.drop Layout.indent.length]
  | line :: next :: lines =>
      (line.drop Layout.indent.length).dropLast :: contents (next :: lines)

/-- The table of the lines in front of a closing line; empty lines before them do not count. -/
def table (lines : List Line) : Table :=
  let lines := lines.dropWhile List.isEmpty
  let body := contents (lines.drop 2)
  { name := (identifier ((lines.headD []).drop "CREATE TABLE ".length)).1
    columns := (body.takeWhile (· ≠ [])).map column
    constraints := ((body.dropWhile (· ≠ [])).drop 1).map constraint }

def tablesOfLines (lines : List Line) : List Table :=
  (lines.splitOn ");".toList).dropLast.map table

def tables (sql : String) : List Table :=
  tablesOfLines (sql.toList.splitOn '\n')

end Reader

namespace Text

/-- The words of a text: its longest parts without blank characters. -/
def words (chars : List Char) : List (List Char) :=
  (chars.splitOnP isBlank).filter (· ≠ [])

end Text

/-- An identifier without accents and line feeds. -/
def Identifier.IsPlain (name : String) : Prop :=
  '`' ∉ name.toList ∧ '\n' ∉ name.toList

instance (name : String) : Decidable (Identifier.IsPlain name) :=
  inferInstanceAs (Decidable ('`' ∉ name.toList ∧ '\n' ∉ name.toList))

/-- A column whose line can be taken apart: a plain name; a type on one line that neither begins nor
ends with a blank character and has no keyword among its words; no default, or one whose text is on
one line and does not end with a blank character. -/
structure Column.TokenSafe (column : Column) : Prop where
  name : ∃ name, column.name = Identifier.quoted name ∧ Identifier.IsPlain name
  typeOnOneLine : '\n' ∉ column.type.toList
  typeStartsSolid : Text.StartsSolid column.type.toList
  typeEndsSolid : Text.EndsSolid column.type.toList
  typeWithoutKeywords : ∀ word ∈ Text.words column.type.toList, word ∉ Reader.keywords
  default : column.default = "" ∨ ∃ text, column.default = "DEFAULT " ++ text ∧
    '\n' ∉ text.toList ∧ Text.EndsSolid text.toList

/-- A constraint of a table that names plain columns, in another table as well. -/
inductive Constraint.TokenSafe (table : String) : Constraint → Prop
  | primaryKey (columns : List String)
      (plain : ∀ column ∈ columns, Identifier.IsPlain column) :
      TokenSafe table (Constraint.primaryKey table columns)
  | foreignKey (column referencesTable referencesColumn : String)
      (columnPlain : Identifier.IsPlain column)
      (referencesTablePlain : Identifier.IsPlain referencesTable)
      (referencesColumnPlain : Identifier.IsPlain referencesColumn) :
      TokenSafe table (Constraint.foreignKey table column referencesTable referencesColumn)

/-- A table whose statement can be taken apart. -/
structure Table.TokenSafe (table : Table) : Prop where
  name : Identifier.IsPlain table.name
  columns : ∀ column ∈ table.columns, column.TokenSafe
  constraints : ∀ constraint ∈ table.constraints, constraint.TokenSafe table.name

/-- A schema whose tables, if they can be resolved, have statements that can be taken apart. -/
def Schema.TokenSafe (schema : Schema) : Prop :=
  ∀ tables, schema.resolve = .ok tables → ∀ table ∈ tables, table.TokenSafe

end SchemaDdl
