import SchemaDdl.Proofs.Resolution.Writing
import SchemaDdl.Schema

/-!
# The first fault of a document

The checks that a document has to pass are listed in document order.  Each check holds just the data
that it looks at.  A document compiles when all of its checks pass, and fails otherwise with the
fault of the first one that does not, whatever stands behind it.
-/

namespace SchemaDdl

namespace Value

def isMapping : Value → Bool
  | .map _ _ => true
  | _ => false

/-- Whether a value is a mapping, null being read as the empty one. -/
def isMappingOrNull : Value → Bool
  | .null | .map _ _ => true
  | _ => false

/-- Whether a value is a list, null being read as the empty one. -/
def isListOrNull : Value → Bool
  | .null | .list _ _ => true
  | _ => false

def entries : Value → Mapping
  | .map _ entries => entries
  | _ => []

def listItems : Value → List Value
  | .list _ items => items
  | _ => []

/-- The value of a property, a missing one being read as null. -/
def property (value : Value) (name : String) : Value :=
  (Mapping.property? value.entries name).getD .null

/-- A value with a property is a mapping. -/
theorem isMappingOrNull_of_property? {value found : Value} {name : String}
    (isProperty : Mapping.property? value.entries name = some found) :
    value.isMappingOrNull = true := by
  cases value with
  | map mark entries => rfl
  | _ => exact absurd isProperty (by simp [entries, Mapping.property?])

end Value

inductive Check
  | root (isMapping : Bool)
  | sectionPresent (wanted : Section) (present : Bool)
  | sectionBody (wanted : Section) (isMapping : Bool)
  | tableName (name : Value)
  | tableColumns (table : String) (present : Bool)
  | columnsMapping (table : String) (isMapping : Bool)
  | column (table : String) (name definition : Value)
  | constraintsList (table : String) (isList : Bool)
  | constraint (table : String) (value : Value)

namespace Check

/-- The fault that a check finds, if it does not pass. -/
def fault (templates : Mapping) : Check → Option CompileError
  | .root isMapping => if isMapping then none else some .rootNotMapping
  | .sectionPresent wanted present => if present then none else some (.missingSection wanted)
  | .sectionBody wanted isMapping => if isMapping then none else some (.sectionNotMapping wanted)
  | .tableName name => fault? name.written
  | .tableColumns table present => if present then none else some (.tableWithoutColumns table)
  | .columnsMapping table isMapping => if isMapping then none else some (.columnsNotMapping table)
  | .column table name definition => fault? (Column.ofDefinition table name definition templates)
  | .constraintsList table isList => if isList then none else some (.constraintsNotList table)
  | .constraint table value => fault? (Constraint.ofValue table value)

end Check

section FirstValue

variable {α β γ : Type}

theorem findSome?_cons_eq_or (f : β → Option γ) (value : β) (values : List β) :
    (value :: values).findSome? f = (f value).or (values.findSome? f) := by
  rw [List.findSome?_cons]
  cases f value <;> rfl

theorem findSome?_flatMap (pieces : α → List β) (f : β → Option γ) (values : List α) :
    (values.flatMap pieces).findSome? f =
      values.findSome? fun value => (pieces value).findSome? f := by
  induction values with
  | nil => rfl
  | cons value values induction =>
      rw [List.flatMap_cons, List.findSome?_append, findSome?_cons_eq_or, induction]

end FirstValue

namespace Constraint

def checks (table : String) (constraints : Value) : List Check :=
  .constraintsList table constraints.isListOrNull ::
    constraints.listItems.map (Check.constraint table)

theorem fault?_listOfValue (table : String) (constraints : Value) (templates : Mapping) :
    fault? (listOfValue table constraints) =
      (checks table constraints).findSome? (Check.fault templates) := by
  cases constraints with
  | list mark items =>
      rw [listOfValue, fault?_mapM, checks, List.findSome?_cons, List.findSome?_map]
      rfl
  | _ => rfl

end Constraint

namespace Table

def columnChecks (table : String) (columns : Mapping) : List Check :=
  columns.map fun entry => .column table entry.1 entry.2

def checks (name : String) (table : Value) : List Check :=
  .tableColumns name (table.property "columns").truthy ::
    .columnsMapping name (table.property "columns").isMapping ::
      (columnChecks name (table.property "columns").entries ++
        Constraint.checks name (table.property "constraints"))

theorem fault?_columnsOf (table : String) (columns templates : Mapping) :
    fault? (columnsOf table columns templates) =
      (columnChecks table columns).findSome? (Check.fault templates) := by
  rw [columnsOf, fault?_mapM, columnChecks, List.findSome?_map]
  rfl

theorem fault?_constraintsOf (table : String) (mark : Option Nat) (entries templates : Mapping) :
    fault? (constraintsOf table entries) =
      (Constraint.checks table ((Value.map mark entries).property "constraints")).findSome?
        (Check.fault templates) := by
  rw [constraintsOf, Value.property, Value.entries]
  cases Mapping.property? entries "constraints" with
  | none => rfl
  | some constraints => exact Constraint.fault?_listOfValue table constraints templates

theorem fault?_ofValue (name : String) (table : Value) (templates : Mapping) :
    fault? (ofValue name table templates) =
      (checks name table).findSome? (Check.fault templates) := by
  cases table with
  | map mark entries =>
      rw [ofValue, ofEntries, checks, List.findSome?_cons, List.findSome?_cons,
        List.findSome?_append, ← fault?_constraintsOf, ← fault?_columnsOf]
      rw [Value.property, Value.entries]
      cases found : Mapping.property? entries "columns" with
      | none => rfl
      | some columns =>
          cases isSet : columns.truthy with
          | false => simp [isSet, Check.fault]
          | true =>
              cases columns with
              | map columnsMark columns =>
                  simp only [isSet, Option.getD_some, Check.fault, Bool.not_true,
                    Bool.false_eq_true, if_false, if_true, Value.isMapping, Value.entries,
                    fault?_bind]
                  cases columnsOf name columns templates with
                  | error fault => rfl
                  | ok resolved => cases constraintsOf name entries <;> rfl
              | _ => simp [isSet, Check.fault, Value.isMapping]
  | _ => rfl

/-- The checks of an entry of a schema: its name is written before its value is looked at. -/
def entryChecks (entry : Value × Value) : List Check :=
  .tableName entry.1 :: checks entry.1.sqlText entry.2

theorem fault?_ofEntry (templates : Mapping) (entry : Value × Value) :
    fault? (ofEntry templates entry) =
      (entryChecks entry).findSome? (Check.fault templates) := by
  rw [ofEntry, fault?_bind, entryChecks, findSome?_cons_eq_or, Check.fault, Value.written]
  cases entry.1.isWritable with
  | false => rfl
  | true => exact fault?_ofValue _ entry.2 templates

end Table

namespace Schema

def templatesOf (document : Value) : Mapping :=
  (document.property Section.columnTemplates.keyword).entries

def sectionPresent (document : Value) (wanted : Section) : Bool :=
  (Mapping.property? document.entries wanted.keyword).isSome

def checks (document : Value) : List Check :=
  .root document.isMappingOrNull ::
    .sectionPresent .columnTemplates (sectionPresent document .columnTemplates) ::
    .sectionPresent .tables (sectionPresent document .tables) ::
    .sectionBody .columnTemplates
      (document.property Section.columnTemplates.keyword).isMappingOrNull ::
    .sectionBody .tables (document.property Section.tables.keyword).isMappingOrNull ::
    (document.property Section.tables.keyword).entries.flatMap Table.entryChecks

theorem fault?_compile (schema : Schema) :
    fault? schema.compile =
      (schema.tables.flatMap Table.entryChecks).findSome?
        (Check.fault schema.columnTemplates) := by
  have sameFault : fault? schema.compile = fault? schema.resolve := by
    rw [compile]
    cases schema.resolve <;> rfl
  rw [sameFault, resolve, fault?_mapM, findSome?_flatMap]
  simp only [Table.fault?_ofEntry]

theorem requireSection_eq (mark : Option Nat) (entries : Mapping) (wanted : Section) :
    requireSection entries wanted =
      if sectionPresent (.map mark entries) wanted then
        .ok ((Value.map mark entries).property wanted.keyword)
      else .error (.missingSection wanted) := by
  rw [requireSection, sectionPresent, Value.property, Value.entries]
  cases Mapping.property? entries wanted.keyword <;> rfl

theorem sectionEntries_eq (wanted : Section) (body : Value) :
    sectionEntries wanted body =
      if body.isMappingOrNull then .ok body.entries else .error (.sectionNotMapping wanted) := by
  cases body <;> rfl

/-- A document fails with the fault of its first check that does not pass. -/
theorem fault?_compileDocument (document : Value) :
    fault? (compileDocument document) =
      (checks document).findSome? (Check.fault (templatesOf document)) := by
  cases document with
  | map mark entries =>
      simp only [compileDocument, ofValue, ofEntries, requireSection_eq mark, sectionEntries_eq,
        bind_assoc, pure_bind, fault?_check_bind, fault?_compile, checks, findSome?_cons_eq_or,
        Check.fault]
      rfl
  | _ => rfl

theorem compileDocument_eq_ok_iff {document : Value} :
    (∃ sql, compileDocument document = .ok sql) ↔
      ∀ check ∈ checks document, check.fault (templatesOf document) = none := by
  rw [← fault?_eq_none_iff, fault?_compileDocument, List.findSome?_eq_none_iff]

theorem compileDocument_eq_error_iff {document : Value} {fault : CompileError} :
    compileDocument document = .error fault ↔
      ∃ before check after, checks document = before ++ check :: after ∧
        (∀ earlier ∈ before, earlier.fault (templatesOf document) = none) ∧
        check.fault (templatesOf document) = some fault := by
  rw [← fault?_eq_some_iff, fault?_compileDocument, List.findSome?_eq_some_iff]
  constructor
  · rintro ⟨before, check, after, split, fails, pass⟩
    exact ⟨before, check, after, split, pass, fails⟩
  · rintro ⟨before, check, after, split, pass, fails⟩
    exact ⟨before, check, after, split, fails, pass⟩

/-- A document compiles when all of its checks pass, and fails otherwise with the fault of the first
one that does not; documents with the same templates that agree up to this check fail alike. -/
theorem compileDocument_reports_first_fault (document : Value) :
    ((∃ sql, compileDocument document = .ok sql) ↔
        ∀ check ∈ checks document, check.fault (templatesOf document) = none) ∧
      (∀ fault, compileDocument document = .error fault ↔
        ∃ before check after, checks document = before ++ check :: after ∧
          (∀ earlier ∈ before, earlier.fault (templatesOf document) = none) ∧
          check.fault (templatesOf document) = some fault) ∧
      ∀ before check fault,
        before ++ [check] <+: checks document →
        (∀ earlier ∈ before, earlier.fault (templatesOf document) = none) →
        check.fault (templatesOf document) = some fault →
        ∀ other, templatesOf other = templatesOf document → before ++ [check] <+: checks other →
          compileDocument document = .error fault ∧ compileDocument other = .error fault := by
  refine ⟨compileDocument_eq_ok_iff, fun fault => compileDocument_eq_error_iff, ?_⟩
  intro before check fault shared pass fails other sameTemplates otherShared
  obtain ⟨after, split⟩ := shared
  obtain ⟨otherAfter, otherSplit⟩ := otherShared
  constructor
  · refine compileDocument_eq_error_iff.mpr ⟨before, check, after, ?_, pass, fails⟩
    rw [← split, List.append_assoc, List.singleton_append]
  · refine compileDocument_eq_error_iff.mpr ⟨before, check, otherAfter, ?_, ?_, ?_⟩
    · rw [← otherSplit, List.append_assoc, List.singleton_append]
    · rw [sameTemplates]
      exact pass
    · rw [sameTemplates]
      exact fails

/-- A document with a valid table, a table with an untyped column, and further tables. -/
def untypedNote (further : Mapping) : Value :=
  .map none
    [(.text "column_templates", .map none [(.text "id", .map none [(.text "type", .text "INT")])]),
      (.text "tables", .map none
        ((.text "users", .map none
            [(.text "columns", .map none
              [(.text "id", .map none [(.text "template", .text "id")])])]) ::
          (.text "notes", .map none
            [(.text "columns", .map none [(.text "note", .map none [(.text "length", .int 9)])]),
              (.text "constraints", .text "none")]) ::
          further))]

theorem compileDocument_untypedNote :
    compileDocument (untypedNote []) = .error (.columnWithoutType "notes" (.text "note")) ∧
      compileDocument (untypedNote [(.text "empty", .null)]) =
        .error (.columnWithoutType "notes" (.text "note")) := by
  have pass : ∀ earlier ∈ (checks (untypedNote [])).take 13,
      earlier.fault (templatesOf (untypedNote [])) = none :=
    List.findSome?_eq_none_iff.mp rfl
  exact (compileDocument_reports_first_fault (untypedNote [])).2.2
    ((checks (untypedNote [])).take 13) (.column "notes" (.text "note")
      (.map none [(.text "length", .int 9)])) _ ⟨_, rfl⟩ pass rfl
    (untypedNote [(.text "empty", .null)]) rfl ⟨_, rfl⟩

/-- A document with a table of one column. -/
def documentOf (name column definition : Value) : Value :=
  .map none
    [(.text "column_templates", .null),
      (.text "tables", .map none
        [(name, .map none [(.text "columns", .map none [(column, definition)])])])]

/-- The checks of a document with one table pass up to that of its name. -/
theorem exists_checks_documentOf (name column definition : Value) :
    ∃ before, checks (documentOf name column definition) =
        before ++ .tableName name ::
          [.tableColumns name.sqlText true, .columnsMapping name.sqlText true,
            .column name.sqlText column definition, .constraintsList name.sqlText true] ∧
      ∀ earlier ∈ before,
        earlier.fault (templatesOf (documentOf name column definition)) = none :=
  ⟨[.root true, .sectionPresent .columnTemplates true, .sectionPresent .tables true,
    .sectionBody .columnTemplates true, .sectionBody .tables true], rfl,
    List.findSome?_eq_none_iff.mp rfl⟩

/-- A document with one table whose name can be written fails for the fault of its column. -/
theorem compileDocument_documentOf {name column definition : Value} {fault : CompileError}
    (isWritable : name.isWritable = true)
    (fails : Column.ofDefinition name.sqlText column definition [] = .error fault) :
    compileDocument (documentOf name column definition) = .error fault := by
  obtain ⟨before, isChecks, pass⟩ := exists_checks_documentOf name column definition
  refine compileDocument_eq_error_iff.mpr ⟨before ++ [.tableName name,
    .tableColumns name.sqlText true, .columnsMapping name.sqlText true],
    .column name.sqlText column definition, [.constraintsList name.sqlText true], ?_, ?_,
    fault?_eq_some_iff.mpr fails⟩
  · rw [isChecks, List.append_assoc]
    rfl
  · have named : (Check.tableName name).fault (templatesOf (documentOf name column definition)) =
        none := fault?_eq_none_iff.mpr ⟨name.sqlText, Value.written_eq_ok_iff.mpr ⟨isWritable, rfl⟩⟩
    refine List.forall_mem_append.mpr ⟨pass, List.forall_mem_cons.mpr ⟨named, ?_⟩⟩
    exact List.findSome?_eq_none_iff.mp rfl

/-- A document whose only fault is that the name of its table cannot be written. -/
def longNamed : Value :=
  documentOf .longNumber (.text "a") (.map none [(.text "type", .text "b")])

/-- A table whose name cannot be written fails, though all other checks pass. -/
theorem compileDocument_longNamed :
    compileDocument longNamed = .error .numberTooLong ∧
      ∀ check ∈ checks longNamed, check ≠ .tableName .longNumber →
        check.fault (templatesOf longNamed) = none := by
  obtain ⟨before, isChecks, pass⟩ := exists_checks_documentOf .longNumber (.text "a")
    (.map none [(.text "type", .text "b")])
  have tooLong : (Check.tableName .longNumber).fault (templatesOf longNamed) =
      some .numberTooLong := by
    rw [Check.fault, fault?_eq_some_iff, Value.written_eq_error_iff]
    exact ⟨Value.isWritable_longNumber, rfl⟩
  refine ⟨compileDocument_eq_error_iff.mpr ⟨_, _, _, isChecks, pass, tooLong⟩, ?_⟩
  intro check isCheck other
  rw [longNamed, isChecks, List.mem_append, List.mem_cons] at isCheck
  rcases isCheck with earlier | same | later
  · exact pass check earlier
  · exact absurd same other
  · exact List.findSome?_eq_none_iff.mp rfl check later

end Schema

end SchemaDdl
