import Mathlib.Data.List.Perm.Basic
import SchemaDdl.Proofs.Statement.ReadBack

/-!
# Composition of schemas from tables

The statement of a table depends on its own entry and the column templates only.  So the tables of
two sections, one after the other, compile to their two SQL texts with an empty line between them,
with the first fault of either; and tables in another order compile to their statements in that
order.
-/

namespace SchemaDdl

section Traversal

variable {ε α β γ : Type}

/-- What is done to every result of a traversal can be done in each of its steps. -/
theorem mapM_map (f : α → Except ε β) (g : β → γ) (values : List α) :
    (values.mapM fun value => (f value).map g) = (values.mapM f).map (List.map g) := by
  induction values with
  | nil => rfl
  | cons value values induction =>
      rw [List.mapM_cons, List.mapM_cons, induction]
      cases f value with
      | error fault => rfl
      | ok result => cases values.mapM f <;> rfl

/-- A traversal that succeeds does so in any order, and its results come in that order. -/
theorem exists_mapM_of_perm {f : α → Except ε β} {values others : List α} {results : List β}
    (permuted : values.Perm others) (traversed : values.mapM f = .ok results) :
    ∃ otherResults, others.mapM f = .ok otherResults ∧ results.Perm otherResults := by
  have pointwise := mapM_eq_ok_iff.mp traversed
  obtain ⟨otherResults, otherPointwise, resultsPermuted⟩ :=
    List.perm_comp_forall₂ permuted.symm pointwise
  exact ⟨otherResults, mapM_eq_ok_iff.mpr otherPointwise, resultsPermuted.symm⟩

end Traversal

namespace Table

/-- The statement of the table that an entry of a schema describes. -/
def compileEntry (templates : Mapping) (entry : Value × Value) : Except CompileError String :=
  (ofEntry templates entry).map statement

end Table

namespace Schema

/-- Whether an SQL text begins with a header and ends behind a closing line. -/
def IsStatements (sql : String) : Prop :=
  ∃ inside, sql = "CREATE TABLE `" ++ inside ++ ");\n"

/-- SQL texts one after the other, with a line feed between them where neither is empty. -/
def joined (first second : String) : String :=
  if first = "" then second
  else if second = "" then first
  else first ++ "\n" ++ second

theorem IsStatements.ne_empty {sql : String} (shape : IsStatements sql) : sql ≠ "" := by
  obtain ⟨inside, rfl⟩ := shape
  simp

theorem isStatements_statement (table : Table) : IsStatements table.statement := by
  let body := "\n".intercalate ("(" :: Layout.bodyLines
    (Table.columnLines table.columns ++ Table.constraintLines table.constraints))
  refine ⟨table.name ++ "`\n" ++ body ++ "\n", ?_⟩
  have divided : table.statementLines = table.frontLines ++ [");", ""] :=
    Table.statementLines_eq table
  have closing : "\n".intercalate [");", ""] = ");\n" := by decide
  have header : "CREATE TABLE `" = "CREATE TABLE " ++ "`" := by decide
  have headerEnd : "`\n" = "`" ++ "\n" := by decide
  rw [Table.statement, divided, String.intercalate_append_of_ne_nil (by simp [Table.frontLines])
    (by simp), closing, Table.frontLines, String.intercalate_cons_cons, header, headerEnd]
  simp only [Identifier.quoted, body, String.append_assoc]

/-- Statements after the first one do not change how the text begins, and the last one ends it. -/
theorem isStatements_intercalate {texts : List String} (nonempty : texts ≠ [])
    (shapes : ∀ text ∈ texts, IsStatements text) : IsStatements ("\n".intercalate texts) := by
  induction texts with
  | nil => exact absurd rfl nonempty
  | cons text texts induction =>
      rw [List.forall_mem_cons] at shapes
      cases texts with
      | nil => simpa using shapes.1
      | cons next texts =>
          obtain ⟨first, firstEq⟩ := shapes.1
          obtain ⟨rest, restEq⟩ := induction (by simp) shapes.2
          refine ⟨first ++ ");\n" ++ "\n" ++ "CREATE TABLE `" ++ rest, ?_⟩
          rw [String.intercalate_cons_cons, firstEq, restEq]
          simp only [String.append_assoc]

theorem joined_intercalate {first second : List String}
    (firstShapes : ∀ text ∈ first, IsStatements text)
    (secondShapes : ∀ text ∈ second, IsStatements text) :
    joined ("\n".intercalate first) ("\n".intercalate second) =
      "\n".intercalate (first ++ second) := by
  unfold joined
  by_cases firstEmpty : first = []
  · simp [firstEmpty]
  · have firstText := (isStatements_intercalate firstEmpty firstShapes).ne_empty
    rw [if_neg firstText]
    by_cases secondEmpty : second = []
    · simp [secondEmpty]
    · have secondText := (isStatements_intercalate secondEmpty secondShapes).ne_empty
      rw [if_neg secondText, String.intercalate_append_of_ne_nil firstEmpty secondEmpty]

variable {templates : Mapping}

/-- A schema compiles to the statements of its entries, each compiled by itself. -/
theorem compile_eq_mapM (templates tables : Mapping) :
    compile ⟨templates, tables⟩ =
      (tables.mapM (Table.compileEntry templates)).map ("\n".intercalate) := by
  have eachEntry : tables.mapM (Table.compileEntry templates) =
      (resolve ⟨templates, tables⟩).map (List.map Table.statement) :=
    mapM_map (Table.ofEntry templates) Table.statement tables
  rw [compile, eachEntry]
  cases resolve ⟨templates, tables⟩ <;> rfl

theorem isStatements_of_mapM {tables : Mapping} {texts : List String}
    (compiled : tables.mapM (Table.compileEntry templates) = .ok texts) :
    ∀ text ∈ texts, IsStatements text := by
  intro text member
  obtain ⟨entry, -, compiledEntry⟩ := exists_of_mem_mapM compiled member
  obtain ⟨table, -, rfl⟩ := exists_of_map_eq_ok compiledEntry
  exact isStatements_statement table

/-- Tables one after the other compile to their SQL texts one after the other; the first fault of
the tables in front is the fault of all, and where they have none, that of the tables behind. -/
theorem compile_append_eq (templates first second : Mapping) :
    compile ⟨templates, first ++ second⟩ = do
      let sql ← compile ⟨templates, first⟩
      let other ← compile ⟨templates, second⟩
      return joined sql other := by
  simp only [compile_eq_mapM, List.mapM_append]
  cases compiledFirst : first.mapM (Table.compileEntry templates) with
  | error fault => rfl
  | ok texts =>
      cases compiledSecond : second.mapM (Table.compileEntry templates) with
      | error fault => rfl
      | ok others =>
          have join := joined_intercalate (isStatements_of_mapM compiledFirst)
            (isStatements_of_mapM compiledSecond)
          exact congrArg Except.ok join.symm

/-- A schema that compiles has no SQL text only where it has no tables; any other SQL text begins
with a header and ends behind a closing line. -/
theorem isStatements_of_compile {tables : Mapping} {sql : String}
    (compiled : compile ⟨templates, tables⟩ = .ok sql) :
    (sql = "" ↔ tables = []) ∧ (sql ≠ "" → IsStatements sql) := by
  rw [compile_eq_mapM] at compiled
  cases each : tables.mapM (Table.compileEntry templates) with
  | error fault => simp [each, Except.map] at compiled
  | ok texts =>
      rw [each] at compiled
      cases compiled
      have sameLength := (mapM_eq_ok_iff.mp each).length_eq
      by_cases noTables : tables = []
      · subst noTables
        have noTexts : texts = [] := List.eq_nil_of_length_eq_zero sameLength.symm
        simp [noTexts]
      · have someTexts : texts ≠ [] := by
          rintro rfl
          exact noTables (List.eq_nil_of_length_eq_zero sameLength)
        have shape := isStatements_intercalate someTexts (isStatements_of_mapM each)
        exact ⟨⟨fun empty => absurd empty shape.ne_empty, fun empty => absurd empty noTables⟩,
          fun _ => shape⟩

/-- Tables one after the other, which make up one mapping where they have no key in common, compile
to their SQL texts with an empty line between them, and fail with the first fault in their order.
Tables in another order compile to the same statements in that order. -/
theorem compile_tables_compose (templates first second : Mapping) :
    (compile ⟨templates, first ++ second⟩ = do
      let sql ← compile ⟨templates, first⟩
      let other ← compile ⟨templates, second⟩
      return joined sql other) ∧
    ∀ sql, compile ⟨templates, first⟩ = .ok sql →
      (sql = "" ↔ first = []) ∧ (sql ≠ "" → IsStatements sql) ∧
      ∀ permuted, first.Perm permuted → ∃ texts others,
        first.mapM (Table.compileEntry templates) = .ok texts ∧
        permuted.mapM (Table.compileEntry templates) = .ok others ∧
        texts.Perm others ∧ (∀ text ∈ texts, IsStatements text) ∧
        sql = "\n".intercalate texts ∧
        compile ⟨templates, permuted⟩ = .ok ("\n".intercalate others) := by
  refine ⟨compile_append_eq templates first second, ?_⟩
  intro sql compiled
  obtain ⟨emptyIff, shape⟩ := isStatements_of_compile compiled
  refine ⟨emptyIff, shape, ?_⟩
  intro permuted permutes
  rw [compile_eq_mapM] at compiled ⊢
  cases each : first.mapM (Table.compileEntry templates) with
  | error fault => simp [each, Except.map] at compiled
  | ok texts =>
      rw [each] at compiled
      cases compiled
      obtain ⟨others, eachOther, textsPermuted⟩ := exists_mapM_of_perm permutes each
      refine ⟨texts, others, rfl, eachOther, textsPermuted, isStatements_of_mapM each, rfl, ?_⟩
      rw [eachOther]
      rfl

/-- A table with one column. -/
def tableOfColumn (column type : String) : Value :=
  .map none [(.text "columns", .map none [(.text column, .map none [(.text "type", .text type)])])]

def breads : Mapping :=
  [(.text "rye", tableOfColumn "flour" "INT"), (.text "wheat", tableOfColumn "salt" "TEXT")]

def breadsSql : String :=
  statements
    [⟨"rye", [⟨"`flour`", "INT", "", ""⟩], []⟩, ⟨"wheat", [⟨"`salt`", "TEXT", "", ""⟩], []⟩]

def cakes : Mapping :=
  [(.text "plum", tableOfColumn "sugar" "INT")]

theorem compile_tables_compose_of_breads :
    compile ⟨[], breads⟩ = .ok breadsSql ∧ breads.Perm breads.reverse ∧
    (compile ⟨[], breads ++ cakes⟩ = do
      let sql ← compile ⟨[], breads⟩
      let other ← compile ⟨[], cakes⟩
      return joined sql other) ∧
    (breadsSql = "" ↔ breads = []) ∧ (breadsSql ≠ "" → IsStatements breadsSql) ∧
    ∃ texts others,
      breads.mapM (Table.compileEntry []) = .ok texts ∧
      breads.reverse.mapM (Table.compileEntry []) = .ok others ∧
      texts.Perm others ∧ (∀ text ∈ texts, IsStatements text) ∧
      breadsSql = "\n".intercalate texts ∧
      compile ⟨[], breads.reverse⟩ = .ok ("\n".intercalate others) := by
  have compiled : compile ⟨[], breads⟩ = .ok breadsSql :=
    compile_eq_ok_iff.mpr ⟨_, rfl, rfl⟩
  have permutes : breads.Perm breads.reverse := (List.reverse_perm breads).symm
  obtain ⟨append, single⟩ := compile_tables_compose [] breads cakes
  obtain ⟨emptyIff, shape, anyOrder⟩ := single breadsSql compiled
  exact ⟨compiled, permutes, append, emptyIff, shape, anyOrder breads.reverse permutes⟩

end Schema

end SchemaDdl
