import SchemaDdl.Proofs.Resolution.FirstFault
import SchemaDdl.Proofs.Resolution.Table
import SchemaDdl.Proofs.Statement.ColumnLine

/-!
# Bodies of statements

The body of a statement is the lines of the columns and, behind an empty line, those of the
constraints.  No line of a row is blank or begins with a blank character, because the first cell of
a row is an identifier between grave accents or a keyword.  So each line stands in the body as it
was aligned, and a comma stands behind all of them but the last.
-/

namespace SchemaDdl

namespace Layout

/-- What follows each of a number of lines: a comma, and nothing behind the last one. -/
def followings (count : Nat) : List String :=
  List.replicate (count - 1) "," ++ [""]

/-- What follows each of a number of lines in front of others: the last one, too, has a comma behind
it where there are others. -/
def followingsBefore (others count : Nat) : List String :=
  List.replicate (count - 1) "," ++ [if others = 0 then "" else ","]

theorem followings_succ {count : Nat} (positive : 1 ≤ count) :
    followings (count + 1) = "," :: followings count := by
  have successor : count + 1 - 1 = count - 1 + 1 := by omega
  rw [followings, followings, successor, List.replicate_succ, List.cons_append]

theorem followingsBefore_zero (count : Nat) : followingsBefore 0 count = followings count := rfl

theorem followingsBefore_of_pos {others count : Nat} (positive : 1 ≤ count)
    (someOther : 1 ≤ others) : followingsBefore others count = List.replicate count "," := by
  have successor : count = count - 1 + 1 := by omega
  have notNone : others ≠ 0 := by omega
  rw [followingsBefore, if_neg notNone]
  conv_rhs => rw [successor]
  rw [List.replicate_succ']

theorem length_followingsBefore (others : Nat) {count : Nat} (positive : 1 ≤ count) :
    (followingsBefore others count).length = count := by
  rw [followingsBefore, List.length_append, List.length_replicate, List.length_singleton]
  omega

theorem followings_add (front : Nat) {count : Nat} (positive : 1 ≤ count) :
    followings (front + count) = List.replicate front "," ++ followings count := by
  induction front with
  | zero => simp
  | succ front induction =>
      have successor : front + 1 + count = front + count + 1 := by omega
      rw [successor, followings_succ (by omega), induction, List.replicate_succ, List.cons_append]

theorem bodyLines_eq_zipWith (lines : List String) :
    bodyLines lines = List.zipWith bodyLine lines (followings lines.length) := by
  induction lines with
  | nil => rfl
  | cons line lines induction =>
      cases lines with
      | nil => rfl
      | cons next lines =>
          have someLine : 1 ≤ (next :: lines).length := by simp
          have first : followings (line :: next :: lines).length =
              "," :: followings (next :: lines).length := followings_succ someLine
          rw [bodyLines, induction, first, List.zipWith_cons_cons]

/-- Lines as they stand in a body, each behind the indentation and in front of what follows it. -/
def indented (lines followings : List String) : List String :=
  List.zipWith (fun line following => "    " ++ line ++ following) lines followings

theorem length_indented (lines followings : List String) :
    (indented lines followings).length = min lines.length followings.length := by
  rw [indented, List.length_zipWith]

/-- Lines behind the indentation are not empty. -/
theorem not_mem_indented (lines followings : List String) : "" ∉ indented lines followings := by
  induction lines generalizing followings with
  | nil => simp [indented]
  | cons line lines induction =>
      cases followings with
      | nil => simp [indented]
      | cons following followings =>
          rw [indented, List.zipWith_cons_cons, ← indented, List.mem_cons]
          rintro (isFirst | inRest)
          · have noChars := congrArg String.toList isFirst
            simp [String.toList_append] at noChars
          · exact induction followings inRest

/-- What follows lines in front of others is counted over all of them. -/
theorem indented_append {lines : List String} (nonempty : 1 ≤ lines.length)
    (others : List String) :
    indented (lines ++ others) (followings (lines.length + others.length)) =
      indented lines (followingsBefore others.length lines.length) ++
        indented others (followings others.length) := by
  have sameLength := (length_followingsBefore others.length nonempty).symm
  cases others with
  | nil => simp [indented, followingsBefore_zero]
  | cons other others =>
      have someOther : 1 ≤ (other :: others).length := by simp
      rw [followings_add _ someOther, ← followingsBefore_of_pos nonempty someOther]
      exact List.zipWith_append sameLength

/-- Others behind lines change the last of them only, by a comma. -/
theorem exists_indented_followingsBefore {lines : List String} (nonempty : 1 ≤ lines.length) :
    ∃ front last, ∀ others, indented lines (followingsBefore others lines.length) =
      front ++ [last ++ if others = 0 then "" else ","] := by
  obtain ⟨front, last, rfl⟩ : ∃ front last, lines = front ++ [last] :=
    (List.eq_nil_or_concat' lines).resolve_left (List.ne_nil_of_length_pos nonempty)
  refine ⟨indented front (List.replicate front.length ","), "    " ++ last, ?_⟩
  intro others
  have sameLength : front.length = (List.replicate front.length ",").length := by simp
  have frontCount : (front ++ [last]).length - 1 = front.length := by simp
  rw [followingsBefore, frontCount, indented, List.zipWith_append sameLength]
  rfl

theorem zipWith_bodyLine {lines : List String} (trimmed : ∀ line ∈ lines, IsTrimmed line)
    (followings : List String) :
    List.zipWith bodyLine lines followings = indented lines followings := by
  induction lines generalizing followings with
  | nil => simp [indented]
  | cons line lines induction =>
      rw [List.forall_mem_cons] at trimmed
      cases followings with
      | nil => simp [indented]
      | cons following followings =>
          rw [List.zipWith_cons_cons, bodyLine_eq trimmed.1, induction trimmed.2, indented,
            indented, List.zipWith_cons_cons, indent]

/-- Trimmed lines stand unchanged in a body; an empty line between two kinds of them has a part in
counting what follows, but nothing follows it. -/
theorem bodyLines_append {lines others : List String} (trimmed : ∀ line ∈ lines, IsTrimmed line)
    (othersTrimmed : ∀ line ∈ others, IsTrimmed line) (nonempty : 1 ≤ lines.length) :
    bodyLines (lines ++ if others.isEmpty then [] else "" :: others) =
      indented lines (followingsBefore others.length lines.length) ++
        (if others.length = 0 then [] else [""]) ++
          indented others (followings others.length) := by
  cases others with
  | nil =>
      rw [List.isEmpty_nil, if_pos rfl, List.append_nil, bodyLines_eq_zipWith,
        zipWith_bodyLine trimmed]
      simp [indented, followingsBefore_zero]
  | cons other others =>
      have someOther : 1 ≤ (other :: others).length := by simp
      have followingsEq :
          followings (lines ++ "" :: other :: others).length =
            followingsBefore (other :: others).length lines.length ++
              "," :: followings (other :: others).length := by
        rw [List.length_append, List.length_cons, followings_add _ (by simp),
          followings_succ someOther, followingsBefore_of_pos nonempty someOther]
      have sameLength := (length_followingsBefore (other :: others).length nonempty).symm
      rw [List.isEmpty_cons, if_neg Bool.false_ne_true, bodyLines_eq_zipWith, followingsEq,
        List.zipWith_append sameLength, List.zipWith_cons_cons, bodyLine_empty,
        zipWith_bodyLine trimmed, zipWith_bodyLine othersTrimmed]
      simp

end Layout

theorem Constraint.forall₂_of_listOfValue {table : String} {value : Value}
    {constraints : List Constraint} (resolved : listOfValue table value = .ok constraints) :
    List.Forall₂ (fun item constraint => ofValue table item = .ok constraint) value.listItems
      constraints := by
  cases value with
  | null =>
      rw [listOfValue, Except.ok.injEq] at resolved
      rw [← resolved]
      exact .nil
  | list mark items => exact mapM_eq_ok_iff.mp resolved
  | _ => simp [listOfValue] at resolved

namespace Table

/-- Missing constraints are read as null. -/
theorem constraintsOf_eq_listOfValue (table : String) (mark : Option Nat) (entries : Mapping) :
    constraintsOf table entries =
      Constraint.listOfValue table ((Value.map mark entries).property "constraints") := by
  rw [constraintsOf, Value.property, Value.entries]
  cases Mapping.property? entries "constraints" <;> rfl

/-- What a value describes under a name: its columns, of which there is one at least, and its
constraints, each in their order there. -/
structure Resolves (name : String) (value : Value) (templates : Mapping) (table : Table) :
    Prop where
  columns : List.Forall₂
    (fun entry column => Column.ofDefinition name entry.1 entry.2 templates = .ok column)
    (value.property "columns").entries table.columns
  constraints : List.Forall₂
    (fun item constraint => Constraint.ofValue name item = .ok constraint)
    (value.property "constraints").listItems table.constraints
  someColumn : 1 ≤ table.columns.length

/-- The lines of the columns and those of the constraints in the body of the statement of a table.
The rows of each kind are aligned among themselves; what follows a line is counted over both
kinds. -/
structure Lays (table : Table) (columnLines constraintLines : List String) : Prop where
  columnCount : columnLines.length = table.columns.length
  constraintCount : constraintLines.length = table.constraints.length
  lines : columnLines ++ constraintLines =
    Layout.indented
      (Layout.lines columnStyle (table.columns.map Column.cells) ++
        Layout.lines {} (table.constraints.map Constraint.cells))
      (Layout.followings (table.columns.length + table.constraints.length))
  noEmptyLine : "" ∉ columnLines ++ constraintLines

section

variable {name : String} {value : Value} {templates : Mapping} {table : Table}
  {columnLines constraintLines : List String}

theorem resolves_of_ofValue (resolved : ofValue name value templates = .ok table) :
    Resolves name value templates table ∧ table.name = name := by
  have someColumn := List.length_pos_iff.mpr (columns_ne_nil_of_ofValue resolved)
  obtain ⟨mark, entries, columnsMark, columns, rfl, found, columnsResolved, constraintsResolved,
    sameName⟩ := ofValue_eq_ok resolved
  refine ⟨⟨?_, ?_, someColumn⟩, sameName⟩
  · rw [Value.property, Value.entries, found]
    exact mapM_eq_ok_iff.mp columnsResolved
  · rw [constraintsOf_eq_listOfValue name mark] at constraintsResolved
    exact Constraint.forall₂_of_listOfValue constraintsResolved

theorem Resolves.isTrimmed_columnLine (resolves : Resolves name value templates table) :
    ∀ line ∈ Layout.lines columnStyle (table.columns.map Column.cells),
      Layout.IsTrimmed line := by
  apply Layout.isTrimmed_of_mem_lines ⟨by decide, by decide⟩ (by decide)
  intro row isRow
  obtain ⟨column, isColumn, rfl⟩ := List.mem_map.mp isRow
  obtain ⟨entry, -, resolved⟩ := exists_of_mem_mapM (mapM_eq_ok_iff.mpr resolves.columns) isColumn
  refine ⟨column.name, _, rfl, ?_⟩
  rw [Column.name_of_ofDefinition resolved, Identifier.toList_quoted]
  exact ⟨Text.startsSolid_cons (by decide) _, by simp⟩

theorem isTrimmed_constraintLine (constraints : List Constraint) :
    ∀ line ∈ Layout.lines {} (constraints.map Constraint.cells), Layout.IsTrimmed line := by
  apply Layout.isTrimmed_of_mem_lines ⟨by decide, by decide⟩ (by decide)
  intro row isRow
  obtain ⟨constraint, -, rfl⟩ := List.mem_map.mp isRow
  exact ⟨"CONSTRAINT", _, rfl, by decide, by decide⟩

/-- The lines of the columns depend on the constraints, and those of the constraints on the columns,
only in whether there are any. -/
theorem lays_iff (someColumn : 1 ≤ table.columns.length) :
    table.Lays columnLines constraintLines ↔
      columnLines = Layout.indented (Layout.lines columnStyle (table.columns.map Column.cells))
        (Layout.followingsBefore table.constraints.length table.columns.length) ∧
      constraintLines = Layout.indented (Layout.lines {} (table.constraints.map Constraint.cells))
        (Layout.followings table.constraints.length) := by
  generalize alignedEq : Layout.lines columnStyle (table.columns.map Column.cells) = aligned
  generalize othersEq : Layout.lines {} (table.constraints.map Constraint.cells) = others
  have alignedLength : aligned.length = table.columns.length := by simp [← alignedEq]
  have othersLength : others.length = table.constraints.length := by simp [← othersEq]
  rw [← alignedLength, ← othersLength]
  rw [← alignedLength] at someColumn
  have parts := Layout.indented_append someColumn others
  have frontLength : (Layout.indented aligned
      (Layout.followingsBefore others.length aligned.length)).length = aligned.length := by
    rw [Layout.length_indented, Layout.length_followingsBefore _ someColumn, Nat.min_self]
  constructor
  · intro lays
    have whole := lays.lines
    rw [alignedEq, othersEq, ← alignedLength, ← othersLength, parts] at whole
    have sameLength := lays.columnCount
    rw [← alignedLength, ← frontLength] at sameLength
    exact List.append_inj whole sameLength
  · rintro ⟨rfl, rfl⟩
    refine ⟨?_, ?_, ?_, ?_⟩
    · rw [frontLength, alignedLength]
    · rw [Layout.length_indented, ← othersLength]
      simp only [Layout.followings, List.length_append, List.length_replicate,
        List.length_singleton]
      omega
    · rw [alignedEq, othersEq, ← alignedLength, ← othersLength, parts]
    · rw [← parts]
      exact Layout.not_mem_indented _ _

/-- The lines of a statement in terms of those of its columns and constraints. -/
theorem Resolves.statementLines_eq (resolves : Resolves name value templates table)
    (lays : table.Lays columnLines constraintLines) :
    table.statementLines = ("CREATE TABLE `" ++ table.name ++ "`") :: "(" ::
      (columnLines ++ (if table.constraints.length = 0 then [] else [""]) ++ constraintLines ++
        [");", ""]) := by
  obtain ⟨rfl, rfl⟩ := (lays_iff resolves.someColumn).mp lays
  have someLine : 1 ≤ (Layout.lines columnStyle (table.columns.map Column.cells)).length := by
    rw [Layout.length_lines, List.length_map]
    exact resolves.someColumn
  have body := Layout.bodyLines_append resolves.isTrimmed_columnLine
    (isTrimmed_constraintLine table.constraints) someLine
  simp only [Layout.length_lines, List.length_map] at body
  have sameEmpty : (Layout.lines {} (table.constraints.map Constraint.cells)).isEmpty =
      table.constraints.isEmpty := by
    simp [Layout.lines]
  rw [sameEmpty] at body
  have header : "CREATE TABLE `" = "CREATE TABLE " ++ "`" := by decide
  rw [statementLines, Table.columnLines, Table.constraintLines, body, Identifier.quoted, header]
  simp only [String.append_assoc]

/-- The statement of a table that a value describes under a name, with the lines of its columns and
those of its constraints. -/
structure Renders (name : String) (value : Value) (templates : Mapping) (sql : String)
    (table : Table) (columnLines constraintLines : List String) : Prop where
  resolves : Resolves name value templates table
  lays : table.Lays columnLines constraintLines
  text : sql = "\n".intercalate (("CREATE TABLE `" ++ name ++ "`") :: "(" ::
    (columnLines ++ (if table.constraints.length = 0 then [] else [""]) ++ constraintLines ++
      [");", ""]))

theorem exists_renders_of_compile {sql : String}
    (compiled : compile name value templates = .ok sql) :
    ∃ table columnLines constraintLines,
      Renders name value templates sql table columnLines constraintLines := by
  obtain ⟨table, resolved, rfl⟩ := exists_of_map_eq_ok compiled
  obtain ⟨resolves, rfl⟩ := resolves_of_ofValue resolved
  have lays : table.Lays _ _ := (lays_iff resolves.someColumn).mpr ⟨rfl, rfl⟩
  refine ⟨table, _, _, resolves, lays, ?_⟩
  rw [statement, resolves.statementLines_eq lays]

variable {sql otherSql : String} {otherValue : Value} {otherTemplates : Mapping} {other : Table}
  {otherColumnLines otherConstraintLines : List String}

/-- The columns alone make the lines of the columns, up to a comma behind the last one. -/
theorem Renders.exists_columnLines_eq
    (renders : Renders name value templates sql table columnLines constraintLines)
    (otherRenders : Renders name otherValue templates otherSql other otherColumnLines
      otherConstraintLines)
    (sameColumns : otherValue.property "columns" = value.property "columns") :
    ∃ front last,
      columnLines = front ++ [last ++ if table.constraints.length = 0 then "" else ","] ∧
      otherColumnLines = front ++ [last ++ if other.constraints.length = 0 then "" else ","] := by
  have otherColumns := otherRenders.resolves.columns
  rw [sameColumns] at otherColumns
  have same : other.columns = table.columns :=
    eq_of_forall₂_ok otherColumns renders.resolves.columns
  obtain ⟨columnLinesEq, -⟩ := (lays_iff renders.resolves.someColumn).mp renders.lays
  obtain ⟨otherColumnLinesEq, -⟩ :=
    (lays_iff otherRenders.resolves.someColumn).mp otherRenders.lays
  have alignedLength : (Layout.lines columnStyle (table.columns.map Column.cells)).length =
      table.columns.length := by
    rw [Layout.length_lines, List.length_map]
  have someLine := renders.resolves.someColumn
  rw [← alignedLength] at someLine
  obtain ⟨front, last, ending⟩ := Layout.exists_indented_followingsBefore someLine
  rw [alignedLength] at ending
  refine ⟨front, last, ?_, ?_⟩
  · rw [columnLinesEq, ending]
  · rw [otherColumnLinesEq, same, ending]

/-- The constraints alone make the lines of the constraints. -/
theorem Renders.constraintLines_eq
    (renders : Renders name value templates sql table columnLines constraintLines)
    (otherRenders : Renders name otherValue otherTemplates otherSql other otherColumnLines
      otherConstraintLines)
    (sameConstraints : otherValue.property "constraints" = value.property "constraints") :
    otherConstraintLines = constraintLines := by
  have otherConstraints := otherRenders.resolves.constraints
  rw [sameConstraints] at otherConstraints
  have same : other.constraints = table.constraints :=
    eq_of_forall₂_ok otherConstraints renders.resolves.constraints
  obtain ⟨-, constraintLinesEq⟩ := (lays_iff renders.resolves.someColumn).mp renders.lays
  obtain ⟨-, otherConstraintLinesEq⟩ :=
    (lays_iff otherRenders.resolves.someColumn).mp otherRenders.lays
  rw [constraintLinesEq, otherConstraintLinesEq, same]

/-- The statement of a table is its header, the lines of its columns and, behind an empty line,
those of its constraints, with a comma behind all lines but the last.  Other constraints change the
lines of the columns by a comma behind the last of them only, and other columns do not change the
lines of the constraints. -/
theorem compile_renders (compiled : compile name value templates = .ok sql) :
    ∃ table columnLines constraintLines,
      Renders name value templates sql table columnLines constraintLines ∧
      ∀ otherValue otherTemplates otherSql other otherColumnLines otherConstraintLines,
        Renders name otherValue otherTemplates otherSql other otherColumnLines
          otherConstraintLines →
        (otherTemplates = templates →
          otherValue.property "columns" = value.property "columns" →
          ∃ front last,
            columnLines = front ++ [last ++ if table.constraints.length = 0 then "" else ","] ∧
            otherColumnLines =
              front ++ [last ++ if other.constraints.length = 0 then "" else ","]) ∧
        (otherValue.property "constraints" = value.property "constraints" →
          otherConstraintLines = constraintLines) := by
  obtain ⟨table, columnLines, constraintLines, renders⟩ := exists_renders_of_compile compiled
  refine ⟨table, columnLines, constraintLines, renders, ?_⟩
  intro otherValue otherTemplates otherSql other otherColumnLines otherConstraintLines otherRenders
  constructor
  · rintro rfl sameColumns
    exact renders.exists_columnLines_eq otherRenders sameColumns
  · intro sameConstraints
    exact renders.constraintLines_eq otherRenders sameConstraints

end

/-- A table with an identifier that begins with a blank character, another one that holds a line
feed, and a column with an empty type whose default is a space. -/
def journal : Value :=
  .map none
    [(.text "columns", .map none
        [(.text " id", .map none [(.text "type", .text "INT"), (.text "not_null", .bool true)]),
          (.text "a\nb", .map none
            [(.text "type", .text ""), (.text "not_null", .bool false),
              (.text "default", .text " ")])]),
      (.text "constraints", .list none
        [.map none [(.text "type", .text "primary"), (.text "columns", .text " id")]])]

def journalSql : String :=
  "CREATE TABLE `journal`\n(\n    ` id` INT NOT NULL,\n    `a\nb`         NULL DEFAULT,\n\n" ++
    "    CONSTRAINT `pk__journal__ id` PRIMARY KEY ( ` id` )\n);\n"

def journalTable : Table where
  name := "journal"
  columns := [⟨"` id`", "INT", "NOT NULL", ""⟩, ⟨"`a\nb`", "", "NULL", "DEFAULT  "⟩]
  constraints := [Constraint.primaryKey "journal" [" id"]]

theorem compile_renders_of_journal :
    compile "journal" journal [] = .ok journalSql ∧
    ∃ table columnLines constraintLines,
      Renders "journal" journal [] journalSql table columnLines constraintLines ∧
      ∀ otherValue otherTemplates otherSql other otherColumnLines otherConstraintLines,
        Renders "journal" otherValue otherTemplates otherSql other otherColumnLines
          otherConstraintLines →
        (otherTemplates = [] →
          otherValue.property "columns" = journal.property "columns" →
          ∃ front last,
            columnLines = front ++ [last ++ if table.constraints.length = 0 then "" else ","] ∧
            otherColumnLines =
              front ++ [last ++ if other.constraints.length = 0 then "" else ","]) ∧
        (otherValue.property "constraints" = journal.property "constraints" →
          otherConstraintLines = constraintLines) := by
  have resolved : ofValue "journal" journal [] = .ok journalTable := by rfl
  have text : journalTable.statement = journalSql := by decide +kernel
  have compiled : compile "journal" journal [] = .ok journalSql := by
    rw [compile, resolved, ← text]
    rfl
  exact ⟨compiled, compile_renders compiled⟩

end Table

end SchemaDdl
