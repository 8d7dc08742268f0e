import SchemaDdl.Proofs.Resolution.Writing
import SchemaDdl.Schema

/-!
# Resolved tables

What the fragments of a resolved column are, and where the columns of a resolved table come from.
-/

namespace SchemaDdl

namespace Column

theorem nullabilityText_mem (properties : Mapping) :
    nullabilityText properties ∈ ["", "NULL", "NOT NULL"] := by
  unfold nullabilityText
  split
  · simp
  · split <;> simp

theorem ofProperties_eq_ok_iff {table : String} {name : Value} {properties : Mapping}
    {column : Column} :
    ofProperties table name properties = .ok column ↔
      ∃ type typeFragment defaultFragment, Mapping.property? properties "type" = some type ∧
        type.isWritable = true ∧ typeText table name properties type.sqlText = .ok typeFragment ∧
        defaultText properties = .ok defaultFragment ∧
        (∀ entry ∈ properties, isProperty entry.1 = true) ∧ name.isWritable = true ∧
        column = { name := Identifier.quoted name.sqlText
                   type := typeFragment
                   nullability := nullabilityText properties
                   default := defaultFragment } := by
  unfold ofProperties
  cases Mapping.property? properties "type" with
  | none => simp
  | some type =>
      simp only [bind_eq_ok_iff]
      constructor
      · rintro ⟨_, typeWritten, typeFragment, typed, defaultFragment, defaulted, made⟩
        obtain ⟨typeIs, rfl⟩ := Value.written_eq_ok_iff.mp typeWritten
        split at made
        · contradiction
        · rename_i found
          simp only [bind_eq_ok_iff, pure_eq_ok_iff] at made
          obtain ⟨_, nameWritten, rfl⟩ := made
          obtain ⟨nameIs, rfl⟩ := Value.written_eq_ok_iff.mp nameWritten
          have recognized : ∀ entry ∈ properties, isProperty entry.1 = true := by
            simpa using List.find?_eq_none.mp found
          exact ⟨type, typeFragment, defaultFragment, rfl, typeIs, typed, defaulted, recognized,
            nameIs, rfl⟩
      · rintro ⟨_, typeFragment, defaultFragment, isType, typeIs, typed, defaulted, recognized,
          nameIs, rfl⟩
        cases isType
        have found : properties.find? (fun entry => !isProperty entry.1) = none := by
          simpa using recognized
        refine ⟨_, Value.written_eq_ok_iff.mpr ⟨typeIs, rfl⟩, typeFragment, typed,
          defaultFragment, defaulted, ?_⟩
        rw [found]
        exact bind_eq_ok_iff.mpr ⟨_, Value.written_eq_ok_iff.mpr ⟨nameIs, rfl⟩, rfl⟩

theorem ofDefinition_eq_ok {table : String} {name definition : Value} {templates : Mapping}
    {column : Column} (resolved : ofDefinition table name definition templates = .ok column) :
    ∃ properties, ofProperties table name properties = .ok column := by
  simp only [ofDefinition, bind_eq_ok_iff] at resolved
  obtain ⟨own, -, properties, -, made⟩ := resolved
  exact ⟨properties, made⟩

theorem name_of_ofDefinition {table : String} {name definition : Value} {templates : Mapping}
    {column : Column} (resolved : ofDefinition table name definition templates = .ok column) :
    column.name = Identifier.quoted name.sqlText := by
  obtain ⟨properties, made⟩ := ofDefinition_eq_ok resolved
  obtain ⟨_, _, _, -, -, -, -, -, -, rfl⟩ := ofProperties_eq_ok_iff.mp made
  rfl

theorem nullability_mem_of_ofDefinition {table : String} {name definition : Value}
    {templates : Mapping} {column : Column}
    (resolved : ofDefinition table name definition templates = .ok column) :
    column.nullability ∈ ["", "NULL", "NOT NULL"] := by
  obtain ⟨properties, made⟩ := ofDefinition_eq_ok resolved
  obtain ⟨_, _, _, -, -, -, -, -, -, rfl⟩ := ofProperties_eq_ok_iff.mp made
  exact nullabilityText_mem properties

end Column

namespace Table

/-- A resolved table is the columns and constraints that a mapping describes. -/
theorem ofValue_eq_ok {name : String} {value : Value} {templates : Mapping} {table : Table}
    (resolved : ofValue name value templates = .ok table) :
    ∃ mark entries columnsMark columns, value = .map mark entries ∧
      Mapping.property? entries "columns" = some (.map columnsMark columns) ∧
      columnsOf name columns templates = .ok table.columns ∧
      constraintsOf name entries = .ok table.constraints ∧ table.name = name := by
  cases value with
  | map mark entries =>
      rw [ofValue, ofEntries] at resolved
      cases found : Mapping.property? entries "columns" with
      | none => simp [found] at resolved
      | some columnsValue =>
          rw [found] at resolved
          by_cases unset : (!columnsValue.truthy) = true
          · simp [unset] at resolved
          · simp only [unset, Bool.false_eq_true, if_false] at resolved
            cases columnsValue with
            | map columnsMark columns =>
                simp only [bind_eq_ok_iff, pure_eq_ok_iff] at resolved
                obtain ⟨resolvedColumns, columnsResolved, resolvedConstraints,
                  constraintsResolved, rfl⟩ := resolved
                exact ⟨mark, entries, columnsMark, columns, rfl, found, columnsResolved,
                  constraintsResolved, rfl⟩
            | _ => simp at resolved
  | _ => simp [ofValue] at resolved

/-- A table without columns is not resolved. -/
theorem columns_ne_nil_of_ofValue {name : String} {value : Value} {templates : Mapping}
    {table : Table} (resolved : ofValue name value templates = .ok table) :
    table.columns ≠ [] := by
  obtain ⟨_, entries, _, columns, rfl, found, columnsResolved, -, -⟩ := ofValue_eq_ok resolved
  intro none
  have sameLength := (mapM_eq_ok_iff.mp columnsResolved).length_eq
  rw [none] at sameLength
  have noColumns : columns = [] := List.eq_nil_of_length_eq_zero sameLength
  rw [ofValue, ofEntries, found, noColumns] at resolved
  exact absurd resolved (by simp [Value.truthy])

theorem nullability_mem_of_ofValue {name : String} {value : Value} {templates : Mapping}
    {table : Table} (resolved : ofValue name value templates = .ok table) {column : Column}
    (member : column ∈ table.columns) : column.nullability ∈ ["", "NULL", "NOT NULL"] := by
  obtain ⟨_, _, _, columns, -, -, columnsResolved, -, -⟩ := ofValue_eq_ok resolved
  obtain ⟨entry, -, columnResolved⟩ := exists_of_mem_mapM columnsResolved member
  exact Column.nullability_mem_of_ofDefinition columnResolved

/-- An entry is resolved to the table that its value describes under the text of its key. -/
theorem ofEntry_eq_ok_iff {templates : Mapping} {entry : Value × Value} {table : Table} :
    ofEntry templates entry = .ok table ↔
      entry.1.isWritable = true ∧ ofValue entry.1.sqlText entry.2 templates = .ok table := by
  simp only [ofEntry, bind_eq_ok_iff, Value.written_eq_ok_iff]
  constructor
  · rintro ⟨_, ⟨nameIs, rfl⟩, resolved⟩
    exact ⟨nameIs, resolved⟩
  · rintro ⟨nameIs, resolved⟩
    exact ⟨_, ⟨nameIs, rfl⟩, resolved⟩

end Table

namespace Schema

theorem nullability_mem_of_resolve {schema : Schema} {tables : List Table}
    (resolved : schema.resolve = .ok tables) {table : Table} (isTable : table ∈ tables)
    {column : Column} (isColumn : column ∈ table.columns) :
    column.nullability ∈ ["", "NULL", "NOT NULL"] := by
  obtain ⟨entry, -, tableResolved⟩ := exists_of_mem_mapM resolved isTable
  exact Table.nullability_mem_of_ofValue (Table.ofEntry_eq_ok_iff.mp tableResolved).2 isColumn

end Schema

end SchemaDdl
