import Mathlib.Data.List.Nodup
import SchemaDdl.Proofs.Constraint.Name
import SchemaDdl.Proofs.Mapping.Lookup
import SchemaDdl.Proofs.Resolution.Table
import SchemaDdl.Proofs.Statement.ReadBack
import SchemaDdl.Proofs.Value.SqlText

/-!
# Identifiers of tables and columns

The identifiers of the tables of a statement, and those of the columns of a table, are the SQL texts
of the keys of a mapping.  As the mapping holds no key twice, an identifier comes twice only where a
text is the SQL text of a key that is no text, or where two keys are not a number in the same
places.
-/

namespace SchemaDdl

namespace Mapping

/-- Whether all names of the entries can be keys, and no key comes twice. -/
def IsKeyed (entries : Mapping) : Prop :=
  (∀ entry ∈ entries, entry.1.IsKey) ∧ entries.keys.Nodup

/-- Whether no two keys are mistakable. -/
def IsDistinguishable (entries : Mapping) : Prop :=
  entries.Pairwise fun entry other => ¬ Value.Mistakable entry.1 other.1

/-- The texts of the keys of a mapping are different just where the keys are distinguishable. -/
theorem IsKeyed.nodup_iff {entries : Mapping} (keyed : entries.IsKeyed) :
    (entries.map fun entry => entry.1.sqlText).Nodup ↔ entries.IsDistinguishable := by
  obtain ⟨areKeys, distinct⟩ := keyed
  unfold IsDistinguishable
  rw [keys, List.Nodup, List.pairwise_map] at distinct
  rw [List.Nodup, List.pairwise_map]
  constructor
  · intro different
    apply different.imp
    intro entry other textsDiffer mistakable
    exact textsDiffer mistakable.1
  · intro distinguishable
    apply (distinct.and distinguishable).imp_of_mem
    intro entry other isEntry isOther keysDiffer same
    apply keysDiffer.2
    rw [← Value.sqlText_eq_iff_mistakable (areKeys entry isEntry) (areKeys other isOther)
      keysDiffer.1]
    exact same

end Mapping

namespace Value

mutual

/-- Whether every mapping in a value holds keys, and none of them twice. -/
def IsData : Value → Prop
  | .list _ items | .tuple _ items | .set _ items => AreData items
  | .map _ entries => Mapping.IsKeyed entries ∧ EntriesAreData entries
  | _ => True

def AreData : List Value → Prop
  | [] => True
  | item :: items => IsData item ∧ AreData items

def EntriesAreData : List (Value × Value) → Prop
  | [] => True
  | (_, value) :: entries => IsData value ∧ EntriesAreData entries

end

theorem EntriesAreData.of_mem {entries : Mapping} (areData : EntriesAreData entries)
    {entry : Value × Value} (isEntry : entry ∈ entries) : entry.2.IsData := by
  induction entries with
  | nil => exact absurd isEntry (by simp)
  | cons first entries induction =>
      rcases List.mem_cons.mp isEntry with rfl | isEntry
      · exact areData.1
      · exact induction areData.2 isEntry

theorem EntriesAreData.of_property? {entries : Mapping} (areData : EntriesAreData entries)
    {name : String} {value : Value} (found : Mapping.property? entries name = some value) :
    value.IsData := by
  obtain ⟨entry, isFound, rfl⟩ := Option.map_eq_some_iff.mp found
  exact areData.of_mem (List.mem_of_find?_eq_some isFound)

end Value

namespace Mapping

/-- Identifiers are different just where the keys of the mapping that they come from are
distinguishable. -/
theorem IsKeyed.nodup_quoted_iff {entries : Mapping} (keyed : entries.IsKeyed) :
    (entries.map fun entry => Identifier.quoted entry.1.sqlText).Nodup ↔
      entries.IsDistinguishable := by
  have quotedTexts : (entries.map fun entry => Identifier.quoted entry.1.sqlText) =
      (entries.map fun entry => entry.1.sqlText).map Identifier.quoted := by
    rw [List.map_map]
    rfl
  rw [quotedTexts, List.nodup_map_iff Identifier.quoted_injective, keyed.nodup_iff]

end Mapping

namespace Table

def identifier (table : Table) : String :=
  Identifier.quoted table.name

theorem nodup_columns_iff {name : String} {columns templates : Mapping} {resolved : List Column}
    (keyed : columns.IsKeyed) (isResolved : columnsOf name columns templates = .ok resolved) :
    (resolved.map Column.name).Nodup ↔ columns.IsDistinguishable := by
  have names := map_eq_of_mapM isResolved fun entry column => Column.name_of_ofDefinition
  rw [names, keyed.nodup_quoted_iff]

/-- The columns of an entry of the tables, as its table holds them, have different identifiers just
where their names in the document are distinguishable. -/
def ColumnsMatch (entry : Value × Value) (table : Table) : Prop :=
  ∃ (mark columnsMark : Option Nat) (entries columns : Mapping), entry.2 = .map mark entries ∧
    Mapping.property? entries "columns" = some (.map columnsMark columns) ∧
    ((table.columns.map Column.name).Nodup ↔ columns.IsDistinguishable)

theorem columnsMatch_of_ofValue {name : String} {templates : Mapping} {entry : Value × Value}
    {table : Table} (isData : entry.2.IsData)
    (resolved : ofValue name entry.2 templates = .ok table) : ColumnsMatch entry table := by
  obtain ⟨mark, entries, columnsMark, columns, isMapping, found, columnsResolved, -, -⟩ :=
    ofValue_eq_ok resolved
  rw [isMapping] at isData
  have columnsAreData := isData.2.of_property? found
  exact ⟨mark, columnsMark, entries, columns, isMapping, found,
    nodup_columns_iff columnsAreData.1 columnsResolved⟩

end Table

namespace Schema

theorem isData_of_sectionEntries {wanted : Section} {body : Value} {entries : Mapping}
    (isData : body.IsData) (isSection : sectionEntries wanted body = .ok entries) :
    Mapping.IsKeyed entries ∧ Value.EntriesAreData entries := by
  cases body with
  | null =>
      rw [sectionEntries, Except.ok.injEq] at isSection
      rw [← isSection]
      exact ⟨⟨by simp, by simp [Mapping.keys]⟩, trivial⟩
  | map mark entries =>
      rw [sectionEntries, Except.ok.injEq] at isSection
      rw [← isSection]
      exact isData
  | _ => exact absurd isSection (by simp [sectionEntries])

/-- The tables of a document that holds data are keyed, and what they hold is data. -/
theorem isData_tables {document : Value} {schema : Schema} (isData : document.IsData)
    (isSchema : ofValue document = .ok schema) :
    schema.tables.IsKeyed ∧ Value.EntriesAreData schema.tables := by
  have entries : ∃ entries, ofEntries entries = .ok schema ∧ Value.EntriesAreData entries := by
    cases document with
    | null => exact ⟨[], isSchema, trivial⟩
    | map mark entries => exact ⟨entries, isSchema, isData.2⟩
    | _ => exact absurd isSchema (by simp [ofValue])
  obtain ⟨entries, ofEntries, areData⟩ := entries
  simp only [Schema.ofEntries, bind_eq_ok_iff, pure_eq_ok_iff] at ofEntries
  obtain ⟨_, -, tables, found, _, -, _, isSection, rfl⟩ := ofEntries
  apply isData_of_sectionEntries _ isSection
  unfold requireSection at found
  split at found
  · exact absurd found (by simp)
  · rename_i body isBody
    rw [Except.ok.injEq] at found
    rw [← found]
    exact areData.of_property? isBody

/-- The statements of a document have different identifiers of tables just where the names of the
tables are distinguishable, and within each table the same holds for the columns. -/
theorem identifiers_nodup_iff {document : Value} {sql : String} (isData : document.IsData)
    (compiled : compileDocument document = .ok sql) :
    ∃ schema tables, ofValue document = .ok schema ∧ schema.resolve = .ok tables ∧
      sql = statements tables ∧
      ((tables.map Table.identifier).Nodup ↔ schema.tables.IsDistinguishable) ∧
      List.Forall₂ Table.ColumnsMatch schema.tables tables := by
  rw [compileDocument, bind_eq_ok_iff] at compiled
  obtain ⟨schema, isSchema, compiled⟩ := compiled
  obtain ⟨tables, resolved, isSql⟩ := compile_eq_ok_iff.mp compiled
  obtain ⟨keyed, areData⟩ := isData_tables isData isSchema
  refine ⟨schema, tables, isSchema, resolved, isSql, ?_, ?_⟩
  · have identifiers : tables.map Table.identifier =
        schema.tables.map fun entry => Identifier.quoted entry.1.sqlText := by
      apply map_eq_of_mapM resolved
      intro entry table isTable
      obtain ⟨_, _, _, _, -, -, -, -, name⟩ :=
        Table.ofValue_eq_ok (Table.ofEntry_eq_ok_iff.mp isTable).2
      rw [Table.identifier, name]
    rw [identifiers, keyed.nodup_quoted_iff]
  · have entriesAreData : ∀ entry ∈ schema.tables, entry.2.IsData :=
      fun entry isEntry => areData.of_mem isEntry
    have pairs := (List.forall₂_and_left _ _).mpr ⟨entriesAreData, mapM_eq_ok_iff.mp resolved⟩
    apply pairs.imp
    intro entry table resolvedEntry
    exact Table.columnsMatch_of_ofValue resolvedEntry.1
      (Table.ofEntry_eq_ok_iff.mp resolvedEntry.2).2

/-- A table with one column. -/
def singleColumn (name : Value) : Value :=
  .map none [(.text "columns", .map none [(name, .map none [(.text "type", .text "INT")])])]

def tablesDocument (tables : Mapping) : Value :=
  .map none [(.text "column_templates", .null), (.text "tables", .map none tables)]

/-- Tables named by a number and by a date of which the number is the year. -/
def ledger : Value :=
  tablesDocument
    [(.int 2024, singleColumn (.text "a")), (.date ⟨2024, 1, 1, by decide⟩, singleColumn .null)]

def ledgerSql : String :=
  "CREATE TABLE `2024`\n(\n    `a` INT\n);\n\n" ++
    "CREATE TABLE `2024-01-01`\n(\n    `NULL` INT\n);\n"

theorem isData_tablesDocument {first second firstColumn secondColumn : Value}
    (firstIsKey : first.IsKey) (secondIsKey : second.IsKey) (firstColumnIsKey : firstColumn.IsKey)
    (secondColumnIsKey : secondColumn.IsKey) (different : first.key? ≠ second.key?) :
    (tablesDocument
      [(first, singleColumn firstColumn), (second, singleColumn secondColumn)]).IsData := by
  simp [tablesDocument, singleColumn, Value.IsData, Value.EntriesAreData, Mapping.IsKeyed,
    Mapping.keys, Value.IsKey, Value.key?, *]

theorem identifiers_nodup_iff_of_ledger :
    ledger.IsData ∧ compileDocument ledger = .ok ledgerSql ∧
      ∃ schema tables, ofValue ledger = .ok schema ∧ schema.resolve = .ok tables ∧
        ledgerSql = statements tables ∧
        ((tables.map Table.identifier).Nodup ↔ schema.tables.IsDistinguishable) ∧
        List.Forall₂ Table.ColumnsMatch schema.tables tables := by
  have isData : ledger.IsData :=
    isData_tablesDocument trivial trivial trivial trivial (by decide)
  have compiled : compileDocument ledger = .ok ledgerSql := by rfl
  exact ⟨isData, compiled, identifiers_nodup_iff isData compiled⟩

/-- Tables named by a number and by the text of that number. -/
def numerals : Value :=
  tablesDocument [(.int 1, singleColumn (.text "a")), (.text "1", singleColumn (.text "a"))]

/-- Tables of which neither name is a number, from two origins. -/
def notNumbers : Value :=
  tablesDocument
    [(.float (.nan 0), singleColumn (.text "a")), (.float (.nan 1), singleColumn (.text "a"))]

def numberTable (name : String) : Table where
  name := name
  columns := [⟨"`a`", "INT", "", ""⟩]
  constraints := []

theorem duplicate_identifiers_of_numerals :
    numerals.IsData ∧
      compileDocument numerals = .ok (statements [numberTable "1", numberTable "1"]) ∧
      ¬([numberTable "1", numberTable "1"].map Table.identifier).Nodup ∧
      notNumbers.IsData ∧
      compileDocument notNumbers = .ok (statements [numberTable "nan", numberTable "nan"]) ∧
      ¬([numberTable "nan", numberTable "nan"].map Table.identifier).Nodup := by
  refine ⟨?_, by rfl, by decide, ?_, by rfl, by decide⟩
  · exact isData_tablesDocument trivial trivial trivial trivial (by decide)
  · exact isData_tablesDocument trivial trivial trivial trivial (by decide)

end Schema

end SchemaDdl
