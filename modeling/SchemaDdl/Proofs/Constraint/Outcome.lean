import SchemaDdl.Proofs.Resolution.Rejection

/-!
# Outcomes of constraints

What becomes of a value as a constraint depends on a few lookups: that of its type, and those of the
fields of that type, in a fixed order.  The name and the clauses of an accepted constraint are made
from the same texts, each an SQL text of a field.  Where one of these cannot be written, the
constraint is not accepted.
-/

namespace SchemaDdl

namespace Constraint

/-- What becomes of a value as a constraint of a table: the first fault in the order of the lookups,
or a constraint. -/
inductive Outcome (table : String) (value : Value) : Except CompileError Constraint → Prop
  | notMapping (neither : value.isMappingOrNull = false) :
      Outcome table value (.error (.constraintNotMapping table))
  | withoutType (isMapping : value.isMappingOrNull = true)
      (untyped : Mapping.property? value.entries "type" = none) :
      Outcome table value (.error (.constraintWithoutType table))
  | typeNotKey {type : Value} (typed : Mapping.property? value.entries "type" = some type)
      (holds : type.HoldsCollection) :
      Outcome table value (.error (.constraintTypeNotKey table type))
  | unknownType {type : Value} (typed : Mapping.property? value.entries "type" = some type)
      (isKey : ¬ type.HoldsCollection) (notPrimary : type ≠ .text "primary")
      (notForeign : type ≠ .text "foreign") :
      Outcome table value (.error (CompileError.constraintOfUnknownType table type).reported)
  | primaryWithoutColumns
      (typed : Mapping.property? value.entries "type" = some (.text "primary"))
      (missing : Mapping.property? value.entries "columns" = none) :
      Outcome table value (.error (.constraintWithoutField table .primaryColumns))
  | foreignWithoutColumn
      (typed : Mapping.property? value.entries "type" = some (.text "foreign"))
      (missing : Mapping.property? value.entries "column" = none) :
      Outcome table value (.error (.constraintWithoutField table .foreignColumn))
  | foreignWithoutReferencesColumn {column : Value}
      (typed : Mapping.property? value.entries "type" = some (.text "foreign"))
      (foundColumn : Mapping.property? value.entries "column" = some column)
      (missing : Mapping.property? value.entries "references_column" = none) :
      Outcome table value (.error (.constraintWithoutField table .foreignReferencesColumn))
  | foreignWithoutReferencesTable {column referencesColumn : Value}
      (typed : Mapping.property? value.entries "type" = some (.text "foreign"))
      (foundColumn : Mapping.property? value.entries "column" = some column)
      (foundReference :
        Mapping.property? value.entries "references_column" = some referencesColumn)
      (missing : Mapping.property? value.entries "references_table" = none) :
      Outcome table value (.error (.constraintWithoutField table .foreignReferencesTable))
  | primaryTooLong {columns : Value}
      (typed : Mapping.property? value.entries "type" = some (.text "primary"))
      (foundColumns : Mapping.property? value.entries "columns" = some columns)
      (isTooLong : ∃ column ∈ columns.items, column.isWritable = false) :
      Outcome table value (.error .numberTooLong)
  | foreignTooLong {column referencesColumn referencesTable : Value}
      (typed : Mapping.property? value.entries "type" = some (.text "foreign"))
      (foundColumn : Mapping.property? value.entries "column" = some column)
      (foundReference :
        Mapping.property? value.entries "references_column" = some referencesColumn)
      (foundTable : Mapping.property? value.entries "references_table" = some referencesTable)
      (isTooLong : column.isWritable = false ∨ referencesTable.isWritable = false ∨
        referencesColumn.isWritable = false) :
      Outcome table value (.error .numberTooLong)
  | primary {columns : Value} {texts : List String}
      (typed : Mapping.property? value.entries "type" = some (.text "primary"))
      (foundColumns : Mapping.property? value.entries "columns" = some columns)
      (areWritable : ∀ column ∈ columns.items, column.isWritable = true)
      (isTexts : texts = columns.items.map Value.sqlText) :
      Outcome table value (.ok {
        name := "`" ++ "__".intercalate ("pk" :: table :: texts) ++ "`"
        kind := "PRIMARY KEY"
        columns := "( " ++ ", ".intercalate (texts.map fun text => "`" ++ text ++ "`") ++ " )"
        references := "" })
  | foreign {column referencesColumn referencesTable : Value}
      {columnText referencesColumnText referencesTableText : String}
      (typed : Mapping.property? value.entries "type" = some (.text "foreign"))
      (foundColumn : Mapping.property? value.entries "column" = some column)
      (foundReference :
        Mapping.property? value.entries "references_column" = some referencesColumn)
      (foundTable : Mapping.property? value.entries "references_table" = some referencesTable)
      (areWritable : column.isWritable = true ∧ referencesTable.isWritable = true ∧
        referencesColumn.isWritable = true)
      (isColumnText : columnText = column.sqlText)
      (isReferenceText : referencesColumnText = referencesColumn.sqlText)
      (isTableText : referencesTableText = referencesTable.sqlText) :
      Outcome table value (.ok {
        name := "`" ++ String.ofList (("fk__" ++ table ++ "__" ++ referencesTableText ++ "__" ++
          columnText ++ "__" ++ referencesColumnText).toList.take 63) ++ "`"
        kind := "FOREIGN KEY"
        columns := "( `" ++ columnText ++ "` )"
        references :=
          "REFERENCES `" ++ referencesTableText ++ "` ( `" ++ referencesColumnText ++ "` )" })

theorem foreignFullName_eq (table column referencesTable referencesColumn : String) :
    foreignFullName table column referencesTable referencesColumn =
      "fk__" ++ table ++ "__" ++ referencesTable ++ "__" ++ column ++ "__" ++ referencesColumn := by
  have kindMark : "fk__" = "fk" ++ "__" := by decide
  rw [foreignFullName, nameSeparator, kindMark]
  simp only [String.intercalate_cons_cons, String.intercalate_singleton, String.append_assoc]

theorem identifierList_singleton (name : String) :
    identifierList [name] = "( `" ++ name ++ "` )" := by
  have opening : "( `" = "( " ++ "`" := by decide
  have closing : "` )" = "`" ++ " )" := by decide
  rw [identifierList, List.map_singleton, String.intercalate_singleton, Identifier.quoted, opening,
    closing]
  simp only [String.append_assoc]

theorem foreignKey_eq (table column referencesTable referencesColumn : String) :
    foreignKey table column referencesTable referencesColumn =
      { name := "`" ++ String.ofList (("fk__" ++ table ++ "__" ++ referencesTable ++ "__" ++
          column ++ "__" ++ referencesColumn).toList.take 63) ++ "`"
        kind := "FOREIGN KEY"
        columns := "( `" ++ column ++ "` )"
        references :=
          "REFERENCES `" ++ referencesTable ++ "` ( `" ++ referencesColumn ++ "` )" } := by
  have opening : "REFERENCES `" = "REFERENCES " ++ "`" := by decide
  have between : "` ( `" = "`" ++ " " ++ "( `" := by decide
  rw [foreignKey, foreignName, Text.truncate, nameLimit, foreignFullName_eq,
    identifierList_singleton, identifierList_singleton, Identifier.quoted, Identifier.quoted,
    opening, between]
  simp only [String.append_assoc]

section

variable {table : String} {value type : Value}

theorem ofValue_eq (table : String) (value : Value) :
    ofValue table value =
      if value.isMappingOrNull then ofEntries table value.entries
      else .error (.constraintNotMapping table) := by
  cases value <;> rfl

theorem ofValue_of_not_mapping (neither : value.isMappingOrNull = false) :
    ofValue table value = .error (.constraintNotMapping table) := by
  rw [ofValue_eq, neither]
  rfl

theorem ofValue_of_untyped (isMapping : value.isMappingOrNull = true)
    (untyped : Mapping.property? value.entries "type" = none) :
    ofValue table value = .error (.constraintWithoutType table) := by
  rw [ofValue_eq, if_pos isMapping, ofEntries, untyped]

theorem ofValue_of_holdsCollection (typed : Mapping.property? value.entries "type" = some type)
    (holds : type.HoldsCollection) :
    ofValue table value = .error (.constraintTypeNotKey table type) := by
  rw [← Value.key?_eq_none_iff] at holds
  rw [ofValue_eq, if_pos (Value.isMappingOrNull_of_property? typed), ofEntries, typed]
  simp only [holds]

theorem ofValue_of_key {key : Key} (typed : Mapping.property? value.entries "type" = some type)
    (isKey : type.key? = some key) :
    ofValue table value =
      if key = .text "primary" then primaryOfEntries table value.entries
      else if key = .text "foreign" then foreignOfEntries table value.entries
      else .error (CompileError.constraintOfUnknownType table type).reported := by
  rw [ofValue_eq, if_pos (Value.isMappingOrNull_of_property? typed), ofEntries, typed]
  simp only [isKey]

theorem ofValue_of_unknown (typed : Mapping.property? value.entries "type" = some type)
    (isKey : ¬ type.HoldsCollection) (notPrimary : type ≠ .text "primary")
    (notForeign : type ≠ .text "foreign") :
    ofValue table value = .error (CompileError.constraintOfUnknownType table type).reported := by
  rw [← Value.key?_eq_none_iff] at isKey
  obtain ⟨key, found⟩ := Option.ne_none_iff_exists'.mp isKey
  have otherKey : ∀ text, type ≠ .text text → key ≠ .text text := by
    rintro text other rfl
    exact other (Value.key?_eq_text_iff.mp found)
  rw [ofValue_of_key typed found, if_neg (otherKey _ notPrimary), if_neg (otherKey _ notForeign)]

theorem ofValue_of_primary
    (typed : Mapping.property? value.entries "type" = some (.text "primary")) :
    ofValue table value = primaryOfEntries table value.entries :=
  (ofValue_of_key typed rfl).trans (if_pos rfl)

theorem ofValue_of_foreign
    (typed : Mapping.property? value.entries "type" = some (.text "foreign")) :
    ofValue table value = foreignOfEntries table value.entries := by
  have notPrimary : Key.text "foreign" ≠ Key.text "primary" := by decide
  exact (ofValue_of_key typed rfl).trans ((if_neg notPrimary).trans (if_pos rfl))

end

section

variable {table : String} {entries : Mapping}
  {columns column referencesColumn referencesTable : Value}

theorem primaryOfEntries_of_missing (missing : Mapping.property? entries "columns" = none) :
    primaryOfEntries table entries = .error (.constraintWithoutField table .primaryColumns) := by
  rw [primaryOfEntries, required, ConstraintField.keyword, missing]
  rfl

theorem primaryOfEntries_of_found
    (foundColumns : Mapping.property? entries "columns" = some columns) :
    primaryOfEntries table entries = (columns.items.mapM Value.written).map (primaryKey table) := by
  rw [primaryOfEntries, required, ConstraintField.keyword, foundColumns]
  rfl

theorem primaryOfEntries_of_long (foundColumns : Mapping.property? entries "columns" = some columns)
    (isTooLong : ∃ column ∈ columns.items, column.isWritable = false) :
    primaryOfEntries table entries = .error .numberTooLong := by
  rw [primaryOfEntries_of_found foundColumns,
    Value.mapM_written_eq_error_iff.mpr ⟨isTooLong, rfl⟩]
  rfl

theorem primaryOfEntries_of_writable
    (foundColumns : Mapping.property? entries "columns" = some columns)
    (areWritable : ∀ column ∈ columns.items, column.isWritable = true) :
    primaryOfEntries table entries =
      .ok (primaryKey table (columns.items.map Value.sqlText)) := by
  rw [primaryOfEntries_of_found foundColumns, Value.mapM_written_eq_ok_iff.mpr ⟨areWritable, rfl⟩]
  rfl

theorem foreignOfEntries_of_missing_column
    (missing : Mapping.property? entries "column" = none) :
    foreignOfEntries table entries = .error (.constraintWithoutField table .foreignColumn) := by
  rw [foreignOfEntries, required, ConstraintField.keyword, missing]
  rfl

theorem foreignOfEntries_of_missing_reference
    (foundColumn : Mapping.property? entries "column" = some column)
    (missing : Mapping.property? entries "references_column" = none) :
    foreignOfEntries table entries =
      .error (.constraintWithoutField table .foreignReferencesColumn) := by
  simp only [foreignOfEntries, required, ConstraintField.keyword, foundColumn, missing]
  rfl

theorem foreignOfEntries_of_missing_table
    (foundColumn : Mapping.property? entries "column" = some column)
    (foundReference : Mapping.property? entries "references_column" = some referencesColumn)
    (missing : Mapping.property? entries "references_table" = none) :
    foreignOfEntries table entries =
      .error (.constraintWithoutField table .foreignReferencesTable) := by
  simp only [foreignOfEntries, required, ConstraintField.keyword, foundColumn, foundReference,
    missing]
  rfl

theorem foreignOfEntries_of_found
    (foundColumn : Mapping.property? entries "column" = some column)
    (foundReference : Mapping.property? entries "references_column" = some referencesColumn)
    (foundTable : Mapping.property? entries "references_table" = some referencesTable) :
    foreignOfEntries table entries =
      if column.isWritable ∧ referencesTable.isWritable ∧ referencesColumn.isWritable then
        .ok (foreignKey table column.sqlText referencesTable.sqlText referencesColumn.sqlText)
      else .error .numberTooLong := by
  simp only [foreignOfEntries, required, ConstraintField.keyword, foundColumn, foundReference,
    foundTable, Value.written_bind, ite_and]
  rfl

end

section

variable {table : String} {value : Value}

theorem outcome_of_primary
    (typed : Mapping.property? value.entries "type" = some (.text "primary")) :
    Outcome table value (primaryOfEntries table value.entries) := by
  cases foundColumns : Mapping.property? value.entries "columns" with
  | none =>
      rw [primaryOfEntries_of_missing foundColumns]
      exact .primaryWithoutColumns typed foundColumns
  | some columns =>
      by_cases areWritable : ∀ column ∈ columns.items, column.isWritable = true
      · rw [primaryOfEntries_of_writable foundColumns areWritable]
        exact .primary typed foundColumns areWritable rfl
      · have isTooLong : ∃ column ∈ columns.items, column.isWritable = false := by
          simpa using areWritable
        rw [primaryOfEntries_of_long foundColumns isTooLong]
        exact .primaryTooLong typed foundColumns isTooLong

theorem outcome_of_foreign
    (typed : Mapping.property? value.entries "type" = some (.text "foreign")) :
    Outcome table value (foreignOfEntries table value.entries) := by
  cases foundColumn : Mapping.property? value.entries "column" with
  | none =>
      rw [foreignOfEntries_of_missing_column foundColumn]
      exact .foreignWithoutColumn typed foundColumn
  | some column =>
      cases foundReference : Mapping.property? value.entries "references_column" with
      | none =>
          rw [foreignOfEntries_of_missing_reference foundColumn foundReference]
          exact .foreignWithoutReferencesColumn typed foundColumn foundReference
      | some referencesColumn =>
          cases foundTable : Mapping.property? value.entries "references_table" with
          | none =>
              rw [foreignOfEntries_of_missing_table foundColumn foundReference foundTable]
              exact .foreignWithoutReferencesTable typed foundColumn foundReference foundTable
          | some referencesTable =>
              rw [foreignOfEntries_of_found foundColumn foundReference foundTable]
              split
              · rename_i areWritable
                rw [foreignKey_eq]
                exact .foreign typed foundColumn foundReference foundTable areWritable rfl rfl rfl
              · rename_i notWritable
                refine .foreignTooLong typed foundColumn foundReference foundTable ?_
                simpa only [not_and_or, Bool.not_eq_true] using notWritable

theorem outcome_ofValue (table : String) (value : Value) :
    Outcome table value (ofValue table value) := by
  cases isMapping : value.isMappingOrNull with
  | false =>
      rw [ofValue_of_not_mapping isMapping]
      exact .notMapping isMapping
  | true =>
      cases typed : Mapping.property? value.entries "type" with
      | none =>
          rw [ofValue_of_untyped isMapping typed]
          exact .withoutType isMapping typed
      | some type =>
          by_cases holds : type.HoldsCollection
          · rw [ofValue_of_holdsCollection typed holds]
            exact .typeNotKey typed holds
          · by_cases isPrimary : type = .text "primary"
            · rw [isPrimary] at typed
              rw [ofValue_of_primary typed]
              exact outcome_of_primary typed
            · by_cases isForeign : type = .text "foreign"
              · rw [isForeign] at typed
                rw [ofValue_of_foreign typed]
                exact outcome_of_foreign typed
              · rw [ofValue_of_unknown typed holds isPrimary isForeign]
                exact .unknownType typed holds isPrimary isForeign

theorem ofValue_eq_of_outcome {result : Except CompileError Constraint}
    (outcome : Outcome table value result) : ofValue table value = result := by
  cases outcome with
  | notMapping neither => exact ofValue_of_not_mapping neither
  | withoutType isMapping untyped => exact ofValue_of_untyped isMapping untyped
  | typeNotKey typed holds => exact ofValue_of_holdsCollection typed holds
  | unknownType typed isKey notPrimary notForeign =>
      exact ofValue_of_unknown typed isKey notPrimary notForeign
  | primaryWithoutColumns typed missing =>
      rw [ofValue_of_primary typed, primaryOfEntries_of_missing missing]
  | foreignWithoutColumn typed missing =>
      rw [ofValue_of_foreign typed, foreignOfEntries_of_missing_column missing]
  | foreignWithoutReferencesColumn typed foundColumn missing =>
      rw [ofValue_of_foreign typed, foreignOfEntries_of_missing_reference foundColumn missing]
  | foreignWithoutReferencesTable typed foundColumn foundReference missing =>
      rw [ofValue_of_foreign typed,
        foreignOfEntries_of_missing_table foundColumn foundReference missing]
  | primaryTooLong typed foundColumns isTooLong =>
      rw [ofValue_of_primary typed, primaryOfEntries_of_long foundColumns isTooLong]
  | foreignTooLong typed foundColumn foundReference foundTable isTooLong =>
      rw [ofValue_of_foreign typed, foreignOfEntries_of_found foundColumn foundReference foundTable,
        if_neg]
      simpa only [not_and_or, Bool.not_eq_true] using isTooLong
  | primary typed foundColumns areWritable isTexts =>
      rw [ofValue_of_primary typed, primaryOfEntries_of_writable foundColumns areWritable, isTexts]
      rfl
  | foreign typed foundColumn foundReference foundTable areWritable isColumnText isReferenceText
      isTableText =>
      rw [ofValue_of_foreign typed, foreignOfEntries_of_found foundColumn foundReference foundTable,
        if_pos areWritable, foreignKey_eq, isColumnText, isReferenceText, isTableText]

/-- A value becomes, as a constraint of a table, just what its outcome is: there is one for each
value, and only one. -/
theorem ofValue_eq_iff_outcome (table : String) (value : Value)
    (result : Except CompileError Constraint) :
    ofValue table value = result ↔ Outcome table value result := by
  constructor
  · rintro rfl
    exact outcome_ofValue table value
  · exact ofValue_eq_of_outcome

end

/-- A primary key over a column whose name cannot be written. -/
def longKey : Value :=
  .map none [(.text "type", .text "primary"), (.text "columns", .longNumber)]

/-- A primary key that has its columns is not accepted where these cannot be written. -/
theorem ofValue_longKey :
    longKey.isMappingOrNull = true ∧
      Mapping.property? longKey.entries "type" = some (.text "primary") ∧
      Mapping.property? longKey.entries "columns" = some .longNumber ∧
      ofValue "t" longKey = .error .numberTooLong := by
  refine ⟨rfl, rfl, rfl, ?_⟩
  have notCollection : Value.longNumber.items = [.longNumber] := by
    rw [Value.longNumber]
    rfl
  refine (ofValue_of_primary rfl).trans (primaryOfEntries_of_long rfl ⟨.longNumber, ?_, ?_⟩)
  · rw [notCollection, List.mem_singleton]
  · exact Value.isWritable_longNumber

end Constraint

end SchemaDdl
