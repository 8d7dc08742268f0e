import SchemaDdl.Proofs.Resolution.Table
import SchemaDdl.Proofs.Statement.ConstraintLine

/-!
# Statements determine their schema

Reading an SQL text undoes compiling: where the fragments of a schema are token-safe, the tables
that are read are the tables that were resolved.  No line but a closing line is `);`, because the
lines of a body are empty or indented, and no empty line but the one in front of the constraints
stands in a body.
-/

namespace SchemaDdl

namespace Identifier

theorem not_mem_quoted {name : String} (plain : IsPlain name) :
    '\n' ∉ (quoted name).toList := by
  rw [toList_quoted]
  simpa using plain.2

end Identifier

namespace Column

theorem TokenSafe.not_mem_cells {column : Column} (safe : column.TokenSafe)
    (isNullability : column.nullability ∈ ["", "NULL", "NOT NULL"]) :
    ∀ cell ∈ column.cells, '\n' ∉ cell.toList := by
  intro cell member
  simp only [cells, List.mem_cons, List.not_mem_nil, or_false] at member
  rcases member with rfl | rfl | rfl | rfl
  · obtain ⟨name, nameEq, plain⟩ := safe.name
    rw [nameEq]
    exact Identifier.not_mem_quoted plain
  · exact safe.typeOnOneLine
  · have : ∀ text ∈ ["", "NULL", "NOT NULL"], '\n' ∉ text.toList := by decide
    exact this _ isNullability
  · rcases safe.default with absent | ⟨text, present, onOneLine, -⟩
    · rw [absent]
      decide
    · rw [present]
      simpa using onOneLine

theorem TokenSafe.startsSolid {column : Column} (safe : column.TokenSafe) :
    Text.StartsSolid column.name.toList ∧ column.name.toList ≠ [] := by
  obtain ⟨name, nameEq, -⟩ := safe.name
  rw [nameEq, Identifier.toList_quoted]
  exact ⟨Text.startsSolid_cons (by decide) _, by simp⟩

/-- The line of a token-safe column is a content and reads as the column. -/
theorem TokenSafe.line {columns : List Column} {column : Column} (member : column ∈ columns)
    (safe : column.TokenSafe)
    (isNullability : column.nullability ∈ ["", "NULL", "NOT NULL"]) {line : String}
    (lineEq : line =
      Layout.line Table.columnStyle (Layout.widths (columns.map cells)) column.cells) :
    Layout.IsContent line ∧ Reader.column line.toList = column := by
  have isRow : column.cells ∈ columns.map cells := List.mem_map_of_mem member
  have gutter : Text.IsGap Table.columnStyle.gutter.toList := ⟨by decide, by decide⟩
  obtain ⟨chars, spread, charsEq⟩ :=
    Layout.spread_line gutter (by decide) isRow (by simp [cells])
  rw [← lineEq] at charsEq
  constructor
  · exact Layout.isContent_of_spread spread safe.startsSolid.1 safe.startsSolid.2
      (safe.not_mem_cells isNullability) charsEq
  · rw [charsEq]
    exact Reader.column_dropBlankEnd safe isNullability spread

end Column

namespace Constraint

theorem not_mem_identifierList {names : List String}
    (plain : ∀ name ∈ names, Identifier.IsPlain name) :
    '\n' ∉ (identifierList names).toList := by
  rw [identifierList, String.toList_append, String.toList_append]
  simp only [List.mem_append, not_or]
  refine ⟨⟨by decide, ?_⟩, by decide⟩
  intro member
  rcases Text.mem_intercalate member with inSeparator | ⟨quotedName, isQuoted, inQuoted⟩
  · exact absurd inSeparator (by decide)
  · obtain ⟨name, isName, rfl⟩ := List.mem_map.mp isQuoted
    exact Identifier.not_mem_quoted (plain name isName) inQuoted

theorem TokenSafe.not_mem_cells {table : String} (tablePlain : Identifier.IsPlain table)
    {constraint : Constraint} (safe : constraint.TokenSafe table) :
    ∀ cell ∈ constraint.cells, '\n' ∉ cell.toList := by
  obtain ⟨⟨name, nameEq, namePlain⟩, isKind, ⟨names, columnsEq, namesPlain⟩, isReferences⟩ :=
    safe.fragments tablePlain
  intro cell member
  simp only [cells, List.mem_cons, List.not_mem_nil, or_false] at member
  rcases member with rfl | rfl | rfl | rfl | rfl
  · decide
  · rw [nameEq]
    exact Identifier.not_mem_quoted namePlain
  · have : ∀ kind ∈ ["PRIMARY KEY", "FOREIGN KEY"], '\n' ∉ kind.toList := by decide
    exact this _ isKind
  · rw [columnsEq]
    exact not_mem_identifierList namesPlain
  · rcases isReferences with absent | ⟨referencesTable, referencesColumn, present, tableSafe,
      columnSafe⟩
    · rw [absent]
      decide
    · have inColumns : '\n' ∉ (identifierList [referencesColumn]).toList :=
        not_mem_identifierList (by simpa using columnSafe)
      have inTable := Identifier.not_mem_quoted tableSafe
      rw [present]
      simp only [String.toList_append, List.mem_append, not_or]
      exact ⟨⟨⟨by decide, inTable⟩, by decide⟩, inColumns⟩

/-- The line of a token-safe constraint is a content and reads as the constraint. -/
theorem TokenSafe.line {table : String} (tablePlain : Identifier.IsPlain table)
    {constraints : List Constraint} {constraint : Constraint}
    (member : constraint ∈ constraints) (safe : constraint.TokenSafe table) {line : String}
    (lineEq : line =
      Layout.line {} (Layout.widths (constraints.map cells)) constraint.cells) :
    Layout.IsContent line ∧ Reader.constraint line.toList = constraint := by
  have isRow : constraint.cells ∈ constraints.map cells := List.mem_map_of_mem member
  have gutter : Text.IsGap ({} : Layout.Style).gutter.toList := ⟨by decide, by decide⟩
  obtain ⟨chars, spread, charsEq⟩ :=
    Layout.spread_line gutter (by decide) isRow (by simp [cells])
  rw [← lineEq] at charsEq
  constructor
  · exact Layout.isContent_of_spread spread (by decide) (by decide)
      (safe.not_mem_cells tablePlain) charsEq
  · rw [charsEq]
    exact Reader.constraint_dropBlankEnd tablePlain safe spread

end Constraint

namespace Reader

/-- Without indentation and commas the lines of a body are the lines that were put into it. -/
theorem contents_bodyLines {lines : List String}
    (shape : ∀ line ∈ lines, line = "" ∨ Layout.IsContent line) :
    contents ((Layout.bodyLines lines).map String.toList) = lines.map String.toList := by
  induction lines with
  | nil => rfl
  | cons line lines induction =>
      cases lines with
      | nil =>
          have last : (Layout.bodyLine line "").toList.drop Layout.indent.length =
              line.toList := by
            rcases shape line (by simp) with rfl | content
            · simp
            · rw [Layout.toList_bodyLine content, List.append_assoc,
                List.drop_left' (by decide)]
              simp
          simp [Layout.bodyLines, contents, last]
      | cons next lines =>
          have first : ((Layout.bodyLine line ",").toList.drop Layout.indent.length).dropLast =
              line.toList := by
            rcases shape line (by simp) with rfl | content
            · simp
            · rw [Layout.toList_bodyLine content, List.append_assoc,
                List.drop_left' (by decide)]
              exact List.dropLast_concat
          have others := induction fun other member => shape other (List.mem_cons_of_mem _ member)
          obtain ⟨second, rest, bodyEq⟩ :
              ∃ second rest, Layout.bodyLines (next :: lines) = second :: rest := by
            cases lines <;> exact ⟨_, _, rfl⟩
          rw [bodyEq, List.map_cons] at others
          rw [Layout.bodyLines, bodyEq, List.map_cons, List.map_cons, contents, first, others]
          rfl

end Reader

namespace Table

def HasNullabilities (table : Table) : Prop :=
  ∀ column ∈ table.columns, column.nullability ∈ ["", "NULL", "NOT NULL"]

variable {table : Table}

theorem TokenSafe.columnLines_isContent (safe : table.TokenSafe)
    (nullabilities : table.HasNullabilities) :
    ∀ line ∈ columnLines table.columns, Layout.IsContent line := by
  intro line member
  obtain ⟨row, isRow, lineEq⟩ := List.mem_map.mp member
  obtain ⟨column, isColumn, rfl⟩ := List.mem_map.mp isRow
  exact ((safe.columns column isColumn).line isColumn (nullabilities column isColumn)
    lineEq.symm).1

theorem TokenSafe.map_column_columnLines (safe : table.TokenSafe)
    (nullabilities : table.HasNullabilities) :
    ((columnLines table.columns).map String.toList).map Reader.column = table.columns := by
  rw [columnLines, Layout.lines, List.map_map, List.map_map, List.map_map]
  calc
    table.columns.map _ = table.columns.map id := by
      apply List.map_congr_left
      intro column isColumn
      exact ((safe.columns column isColumn).line isColumn (nullabilities column isColumn) rfl).2
    _ = table.columns := List.map_id _

theorem TokenSafe.constraintLines_isContent (safe : table.TokenSafe) :
    ∀ line ∈ constraintLines table.constraints, line = "" ∨ Layout.IsContent line := by
  intro line member
  unfold constraintLines at member
  split at member
  · simp at member
  · rcases List.mem_cons.mp member with isEmpty | member
    · exact .inl isEmpty
    · obtain ⟨row, isRow, lineEq⟩ := List.mem_map.mp member
      obtain ⟨constraint, isConstraint, rfl⟩ := List.mem_map.mp isRow
      exact .inr ((safe.constraints constraint isConstraint).line safe.name isConstraint
        lineEq.symm).1

theorem TokenSafe.map_constraint_constraintLines (safe : table.TokenSafe) :
    (((constraintLines table.constraints).map String.toList).drop 1).map Reader.constraint =
      table.constraints := by
  unfold constraintLines
  split
  · rename_i noConstraints
    rw [List.isEmpty_iff.mp noConstraints]
    rfl
  · rw [List.map_cons, List.drop_one, List.tail_cons, Layout.lines, List.map_map, List.map_map,
      List.map_map]
    calc
      table.constraints.map _ = table.constraints.map id := by
        apply List.map_congr_left
        intro constraint isConstraint
        exact ((safe.constraints constraint isConstraint).line safe.name isConstraint rfl).2
      _ = table.constraints := List.map_id _

theorem head?_constraintLines (constraints : List Constraint) :
    ∀ line ∈ ((constraintLines constraints).map String.toList).head?, line = [] := by
  unfold constraintLines
  split <;> simp

def frontLines (table : Table) : List String :=
  ("CREATE TABLE " ++ Identifier.quoted table.name) :: "(" ::
    Layout.bodyLines (columnLines table.columns ++ constraintLines table.constraints)

theorem statementLines_eq (table : Table) :
    table.statementLines = table.frontLines ++ [");", ""] := by
  simp [statementLines, frontLines]

theorem TokenSafe.bodyLines_shape (safe : table.TokenSafe)
    (nullabilities : table.HasNullabilities) :
    ∀ line ∈ columnLines table.columns ++ constraintLines table.constraints,
      line = "" ∨ Layout.IsContent line := by
  intro line member
  rcases List.mem_append.mp member with isColumnLine | isConstraintLine
  · exact .inr (safe.columnLines_isContent nullabilities line isColumnLine)
  · exact safe.constraintLines_isContent line isConstraintLine

theorem TokenSafe.frontLines_shape (safe : table.TokenSafe)
    (nullabilities : table.HasNullabilities) :
    ∀ line ∈ table.frontLines, line.toList ≠ ");".toList ∧ '\n' ∉ line.toList := by
  intro line member
  simp only [frontLines, List.mem_cons] at member
  rcases member with rfl | rfl | member
  · have := Identifier.not_mem_quoted safe.name
    constructor
    · simp
    · simpa using this
  · decide
  · obtain ⟨content, isContent, following, isFollowing, rfl⟩ :=
      Layout.exists_of_mem_bodyLines member
    rcases safe.bodyLines_shape nullabilities content isContent with rfl | content
    · simp
    · have noLineFeed : '\n' ∉ following.toList := by
        have : ∀ following ∈ ["", ","], '\n' ∉ following.toList := by decide
        exact this following isFollowing
      have := content.onOneLine
      rw [Layout.toList_bodyLine content]
      constructor
      · simp [Layout.indent]
      · simp [Layout.indent, this, noLineFeed]

/-- The lines in front of the closing one read as the table. -/
theorem TokenSafe.table_frontLines (safe : table.TokenSafe)
    (nullabilities : table.HasNullabilities) {before : List Reader.Line}
    (empty : ∀ line ∈ before, line = []) :
    Reader.table (before ++ table.frontLines.map String.toList) = table := by
  have header : (before ++ table.frontLines.map String.toList).dropWhile List.isEmpty =
      table.frontLines.map String.toList := by
    rw [List.dropWhile_append_of_pos (by simpa using empty)]
    simp [frontLines]
  have body : Reader.contents ((table.frontLines.map String.toList).drop 2) =
      (columnLines table.columns).map String.toList ++
        (constraintLines table.constraints).map String.toList := by
    rw [← List.map_append]
    exact Reader.contents_bodyLines (safe.bodyLines_shape nullabilities)
  have columnLinesFull : ∀ line ∈ (columnLines table.columns).map String.toList,
      decide (line ≠ []) = true := by
    intro line member
    obtain ⟨text, isLine, rfl⟩ := List.mem_map.mp member
    simpa using (safe.columnLines_isContent nullabilities text isLine).nonempty
  have stops : ∀ line ∈ ((constraintLines table.constraints).map String.toList).head?,
      line = [] := head?_constraintLines table.constraints
  have noColumnLines : ((constraintLines table.constraints).map String.toList).takeWhile
      (· ≠ []) = [] := by
    cases linesEq : (constraintLines table.constraints).map String.toList with
    | nil => rfl
    | cons line lines => simp [stops line (by simp [linesEq])]
  have constraintLinesWhole : ((constraintLines table.constraints).map String.toList).dropWhile
      (· ≠ []) = (constraintLines table.constraints).map String.toList := by
    cases linesEq : (constraintLines table.constraints).map String.toList with
    | nil => rfl
    | cons line lines => simp [stops line (by simp [linesEq])]
  have name : (Reader.identifier (((table.frontLines.map String.toList).headD []).drop
      "CREATE TABLE ".length)).1 = table.name := by
    have behind : ("CREATE TABLE " ++ Identifier.quoted table.name).toList.drop
        "CREATE TABLE ".length = (Identifier.quoted table.name).toList ++ [] := by
      rw [String.toList_append, List.drop_left' (by decide), List.append_nil]
    rw [frontLines, List.map_cons, List.headD_cons, behind, Reader.identifier_quoted safe.name]
  rw [Reader.table]
  simp only [header, body, name, List.takeWhile_append_of_pos columnLinesFull,
    List.dropWhile_append_of_pos columnLinesFull, noColumnLines, constraintLinesWhole,
    List.append_nil, safe.map_column_columnLines nullabilities,
    safe.map_constraint_constraintLines]

end Table

namespace Schema

/-- Statements with an empty line between them are their lines one after the other. -/
theorem statements_eq_intercalate (tables : List Table) :
    statements tables = "\n".intercalate (tables.flatMap Table.statementLines) := by
  have nonempty (table : Table) : table.statementLines ≠ [] := by simp [Table.statementLines]
  rw [statements]
  induction tables with
  | nil => rfl
  | cons table tables induction =>
      cases tables with
      | nil => simp [Table.statement]
      | cons next tables =>
          have others : (next :: tables).flatMap Table.statementLines ≠ [] := by
            simp [nonempty next]
          rw [List.flatMap_cons, String.intercalate_append_of_ne_nil (nonempty table) others,
            ← induction, List.map_cons, List.map_cons, String.intercalate_cons_cons,
            ← List.map_cons, Table.statement]

/-- The lines of statements read as their tables; empty lines before them do not count. -/
theorem tablesOfLines_statements {tables : List Table}
    (safe : ∀ table ∈ tables, table.TokenSafe)
    (nullabilities : ∀ table ∈ tables, table.HasNullabilities) (before : List Reader.Line)
    (empty : ∀ line ∈ before, line = []) :
    Reader.tablesOfLines
      (before ++ (tables.flatMap Table.statementLines).map String.toList) = tables := by
  induction tables generalizing before with
  | nil =>
      have noClosing : ");".toList ∉ before := by
        intro member
        exact absurd (empty _ member) (by decide)
      rw [List.flatMap_nil, List.map_nil, List.append_nil, Reader.tablesOfLines,
        List.splitOn_eq_singleton noClosing]
      rfl
  | cons table tables induction =>
      have tableSafe := safe table (by simp)
      have tableNullabilities := nullabilities table (by simp)
      have others := induction (fun other member => safe other (List.mem_cons_of_mem _ member))
        (fun other member => nullabilities other (List.mem_cons_of_mem _ member)) [[]] (by simp)
      have noClosing : ");".toList ∉ before ++ table.frontLines.map String.toList := by
        intro member
        rcases List.mem_append.mp member with inBefore | inFront
        · exact absurd (empty _ inBefore) (by decide)
        · obtain ⟨line, isLine, lineEq⟩ := List.mem_map.mp inFront
          exact (tableSafe.frontLines_shape tableNullabilities line isLine).1 lineEq
      have divided : before ++ ((table :: tables).flatMap Table.statementLines).map
          String.toList = (before ++ table.frontLines.map String.toList) ++ ");".toList ::
            ([[]] ++ (tables.flatMap Table.statementLines).map String.toList) := by
        simp [Table.statementLines_eq]
      rw [Reader.tablesOfLines] at others ⊢
      rw [divided, List.splitOn_append_cons_self_of_not_mem noClosing,
        List.dropLast_cons_of_ne_nil (List.splitOn_ne_nil _ _), List.map_cons, others,
        tableSafe.table_frontLines tableNullabilities empty]

theorem tables_statements {tables : List Table} (safe : ∀ table ∈ tables, table.TokenSafe)
    (nullabilities : ∀ table ∈ tables, table.HasNullabilities) :
    Reader.tables (statements tables) = tables := by
  rw [Reader.tables, statements_eq_intercalate, String.toList_intercalate]
  cases tables with
  | nil => rfl
  | cons table tables =>
      have onOneLine : ∀ line ∈ ((table :: tables).flatMap Table.statementLines).map
          String.toList, '\n' ∉ line := by
        intro line member
        obtain ⟨text, inStatements, rfl⟩ := List.mem_map.mp member
        obtain ⟨other, isTable, inStatement⟩ := List.mem_flatMap.mp inStatements
        rw [Table.statementLines_eq] at inStatement
        rcases List.mem_append.mp inStatement with inFront | atEnd
        · exact ((safe other isTable).frontLines_shape (nullabilities other isTable) text
            inFront).2
        · have : ∀ text ∈ [");", ""], '\n' ∉ text.toList := by decide
          exact this text atEnd
      have nonempty : ((table :: tables).flatMap Table.statementLines).map String.toList ≠
          [] := by
        simp [Table.statementLines]
      have read := tablesOfLines_statements safe nullabilities [] (by simp)
      have separator : "\n".toList = ['\n'] := by decide
      rw [List.nil_append] at read
      rw [separator, List.splitOn_intercalate '\n' onOneLine nonempty, read]

theorem compile_eq_ok_iff {schema : Schema} {sql : String} :
    schema.compile = .ok sql ↔ ∃ tables, schema.resolve = .ok tables ∧ sql = statements tables := by
  rw [compile]
  cases schema.resolve with
  | error fault => simp [Except.map]
  | ok tables => simp [Except.map, eq_comm]

/-- The SQL text of a schema with token-safe fragments reads as the resolved tables; so schemas with
such fragments and the same SQL text resolve to the same tables. -/
theorem resolve_eq_tables_of_compile {schema : Schema} {sql : String}
    (compiled : schema.compile = .ok sql) (safe : schema.TokenSafe) :
    schema.resolve = .ok (Reader.tables sql) ∧
      ∀ other : Schema, other.compile = .ok sql → other.TokenSafe →
        other.resolve = schema.resolve := by
  have reads : ∀ other : Schema, other.compile = .ok sql → other.TokenSafe →
      other.resolve = .ok (Reader.tables sql) := by
    intro other otherCompiled otherSafe
    obtain ⟨tables, resolved, rfl⟩ := compile_eq_ok_iff.mp otherCompiled
    have nullabilities : ∀ table ∈ tables, table.HasNullabilities :=
      fun table isTable column => nullability_mem_of_resolve resolved isTable
    rw [tables_statements (otherSafe tables resolved) nullabilities, resolved]
  refine ⟨reads schema compiled safe, ?_⟩
  intro other otherCompiled otherSafe
  rw [reads other otherCompiled otherSafe, reads schema compiled safe]

/-- A schema with a template, a default without a text, an enumeration and keys of both kinds. -/
def shop : Schema where
  columnTemplates :=
    [(.text "id", .map none [(.text "type", .text "INT"), (.text "not_null", .bool true)])]
  tables :=
    [(.text "users", .map none
        [(.text "columns", .map none
          [(.text "id", .map none [(.text "template", .text "id")]),
            (.text "name", .map none
              [(.text "type", .text "VARCHAR"), (.text "length", .int 50),
                (.text "default", .text "")])])]),
      (.text "orders", .map none
        [(.text "columns", .map none
          [(.text "user", .map none [(.text "template", .text "id")]),
            (.text "state", .map none
              [(.text "type", .text "enum"),
                (.text "values", .list none [.text "a, b", .text "NULL"]),
                (.text "not_null", .bool false), (.text "default", .text "'a, b',")])]),
          (.text "constraints", .list none
            [.map none [(.text "type", .text "primary"), (.text "columns", .text "user")],
              .map none
                [(.text "type", .text "foreign"), (.text "column", .text "user"),
                  (.text "references_table", .text "users"),
                  (.text "references_column", .text "id")]])])]

def shopTables : List Table :=
  [{ name := "users"
     columns := [⟨"`id`", "INT", "NOT NULL", ""⟩, ⟨"`name`", "VARCHAR(50)", "", "DEFAULT "⟩]
     constraints := [] },
    { name := "orders"
      columns :=
        [⟨"`user`", "INT", "NOT NULL", ""⟩,
          ⟨"`state`", "enum('a, b', 'NULL')", "NULL", "DEFAULT 'a, b',"⟩]
      constraints :=
        [Constraint.primaryKey "orders" ["user"],
          Constraint.foreignKey "orders" "user" "users" "id"] }]

theorem resolve_shop : shop.resolve = .ok shopTables := by
  rfl

theorem tokenSafe_shop : shop.TokenSafe := by
  intro tables resolved
  rw [resolve_shop, Except.ok.injEq] at resolved
  subst resolved
  intro table isTable
  simp only [shopTables, List.mem_cons, List.not_mem_nil, or_false] at isTable
  rcases isTable with rfl | rfl
  · refine ⟨by decide, ?_, by simp⟩
    intro column isColumn
    simp only [List.mem_cons, List.not_mem_nil, or_false] at isColumn
    rcases isColumn with rfl | rfl
    · exact ⟨⟨"id", by decide, by decide⟩, by decide, by decide, by decide,
        by decide, .inl rfl⟩
    · exact ⟨⟨"name", by decide, by decide⟩, by decide, by decide, by decide,
        by decide, .inr ⟨"", by decide, by decide, by decide⟩⟩
  · refine ⟨by decide, ?_, ?_⟩
    · intro column isColumn
      simp only [List.mem_cons, List.not_mem_nil, or_false] at isColumn
      rcases isColumn with rfl | rfl
      · exact ⟨⟨"user", by decide, by decide⟩, by decide, by decide, by decide,
          by decide, .inl rfl⟩
      · exact ⟨⟨"state", by decide, by decide⟩, by decide, by decide, by decide,
          by decide, .inr ⟨"'a, b',", by decide, by decide, by decide⟩⟩
    · intro constraint isConstraint
      simp only [List.mem_cons, List.not_mem_nil, or_false] at isConstraint
      rcases isConstraint with rfl | rfl
      · exact .primaryKey ["user"] (by decide)
      · exact .foreignKey "user" "users" "id" (by decide) (by decide) (by decide)

theorem resolve_eq_tables_of_shop :
    shop.compile = .ok (statements shopTables) ∧ shop.TokenSafe ∧
      shop.resolve = .ok (Reader.tables (statements shopTables)) ∧
      ∀ other : Schema, other.compile = .ok (statements shopTables) → other.TokenSafe →
        other.resolve = shop.resolve :=
  have compiled : shop.compile = .ok (statements shopTables) :=
    compile_eq_ok_iff.mpr ⟨shopTables, resolve_shop, rfl⟩
  ⟨compiled, tokenSafe_shop, resolve_eq_tables_of_compile compiled tokenSafe_shop⟩

end Schema

end SchemaDdl
