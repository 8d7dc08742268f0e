import SchemaDdl.Proofs.Resolution.Writing
import SchemaDdl.Schema

/-!
# Expansion of column templates

A schema whose column definitions all take in their templates can be written without templates: each
definition is replaced by its merged properties.  The expanded schema compiles to the same text, or
fails for the same cause.
-/

namespace SchemaDdl

namespace Template

theorem property?_keyword_of_expand {table : String} {column : Value}
    {own templates properties : Mapping}
    (expanded : expand table column own templates = .ok properties) :
    Mapping.property? properties keyword = none := by
  rw [expand] at expanded
  cases named : Mapping.property? own keyword with
  | none =>
      rw [named] at expanded
      cases expanded
      exact named
  | some template =>
      simp only [named, bind_eq_ok_iff, pure_eq_ok_iff] at expanded
      obtain ⟨body, -, bodyEntries, -, rfl⟩ := expanded
      rw [Mapping.property?, overlay, Mapping.get?_erase, if_pos rfl]

/-- Properties that name no template are merged with none, whatever the templates are. -/
theorem expand_of_property?_eq_none {table : String} {column : Value} {own templates : Mapping}
    (unnamed : Mapping.property? own keyword = none) :
    expand table column own templates = .ok own := by
  rw [expand, unnamed]

theorem expand_of_expand {table : String} {column : Value}
    {own templates properties : Mapping} (others : Mapping)
    (expanded : expand table column own templates = .ok properties) :
    expand table column properties others = .ok properties :=
  expand_of_property?_eq_none (property?_keyword_of_expand expanded)

end Template

namespace Column

/-- A definition that is a mapping takes in the template that it names. -/
def Expandable (table : String) (templates : Mapping) (entry : Value × Value) : Prop :=
  ∀ mark own, entry.2 = .map mark own →
    ∃ properties, Template.expand table entry.1 own templates = .ok properties

/-- The entry of a column with the properties of its template merged into its definition; a
definition that is not a mapping stays as it is. -/
def expand (table : String) (templates : Mapping) (entry : Value × Value) :
    Except CompileError (Value × Value) :=
  match entry.2 with
  | .map _ own => do
      let properties ← Template.expand table entry.1 own templates
      return (entry.1, .map none properties)
  | _ => .ok entry

theorem expandable_iff {table : String} {templates : Mapping} {entry : Value × Value} :
    Expandable table templates entry ↔
      ∃ expanded, expand table templates entry = .ok expanded := by
  obtain ⟨name, definition⟩ := entry
  cases definition with
  | map mark own =>
      simp only [Expandable, expand, Value.map.injEq, bind_eq_ok_iff, pure_eq_ok_iff]
      constructor
      · intro expandable
        obtain ⟨properties, merged⟩ := expandable mark own ⟨rfl, rfl⟩
        exact ⟨_, properties, merged, rfl⟩
      · rintro ⟨_, properties, merged, -⟩ _ _ ⟨rfl, rfl⟩
        exact ⟨properties, merged⟩
  | _ => simp [Expandable, expand]

/-- An expanded column resolves without templates as the column does with them. -/
theorem ofDefinition_expand {table : String} {templates : Mapping}
    {entry expanded : Value × Value} (expands : expand table templates entry = .ok expanded) :
    ofDefinition table entry.1 entry.2 templates =
      ofDefinition table expanded.1 expanded.2 [] := by
  obtain ⟨name, definition⟩ := entry
  cases definition with
  | map mark own =>
      simp only [expand, bind_eq_ok_iff, pure_eq_ok_iff] at expands
      obtain ⟨properties, merged, rfl⟩ := expands
      have again := Template.expand_of_expand [] merged
      simp only [ofDefinition, definitionProperties, bind, Except.bind, merged, again]
  | null =>
      cases expands
      have unnamed : Mapping.property? [] Template.keyword = none := rfl
      simp only [ofDefinition, definitionProperties, bind, Except.bind,
        Template.expand_of_property?_eq_none unnamed]
  | _ =>
      cases expands
      rfl

end Column

namespace Table

/-- The columns of a table, where they are a mapping, take in their templates. -/
def Expandable (templates : Mapping) (entry : Value × Value) : Prop :=
  ∀ mark entries columnsMark columns, entry.2 = .map mark entries →
    Mapping.property? entries "columns" = some (.map columnsMark columns) →
    ∀ column ∈ columns, Column.Expandable entry.1.sqlText templates column

def expandEntries (table : String) (templates entries : Mapping) :
    Except CompileError Mapping :=
  match Mapping.property? entries "columns" with
  | some (.map mark columns) => do
      let columns ← columns.mapM (Column.expand table templates)
      return Mapping.insert entries (.text "columns") (.map mark columns)
  | _ => .ok entries

/-- The name and value of a table with its columns expanded. -/
def expand (templates : Mapping) (entry : Value × Value) :
    Except CompileError (Value × Value) :=
  match entry.2 with
  | .map mark entries => do
      let entries ← expandEntries entry.1.sqlText templates entries
      return (entry.1, .map mark entries)
  | _ => .ok entry

theorem exists_expandEntries_eq_ok_iff {table : String} {templates entries : Mapping} :
    (∃ expanded, expandEntries table templates entries = .ok expanded) ↔
      ∀ mark columns, Mapping.property? entries "columns" = some (.map mark columns) →
        ∀ column ∈ columns, Column.Expandable table templates column := by
  rw [expandEntries]
  split
  · rename_i mark columns found
    simp only [found, Option.some.injEq, Value.map.injEq, Column.expandable_iff, bind_eq_ok_iff,
      pure_eq_ok_iff]
    constructor
    · rintro ⟨_, results, traversed, -⟩ _ _ ⟨rfl, rfl⟩
      exact exists_mapM_eq_ok_iff.mp ⟨results, traversed⟩
    · intro expandable
      obtain ⟨results, traversed⟩ := exists_mapM_eq_ok_iff.mpr (expandable mark columns ⟨rfl, rfl⟩)
      exact ⟨_, results, traversed, rfl⟩
  · rename_i notMapping
    exact ⟨fun _ mark columns found => absurd found (notMapping mark columns),
      fun _ => ⟨entries, rfl⟩⟩

theorem expandable_iff {templates : Mapping} {entry : Value × Value} :
    Expandable templates entry ↔ ∃ expanded, expand templates entry = .ok expanded := by
  obtain ⟨name, table⟩ := entry
  cases table with
  | map mark entries =>
      have inside : Expandable templates (name, .map mark entries) ↔
          ∃ expanded, expandEntries name.sqlText templates entries = .ok expanded := by
        rw [exists_expandEntries_eq_ok_iff]
        constructor
        · intro expandable columnsMark columns
          exact expandable mark entries columnsMark columns rfl
        · rintro expandable _ _ columnsMark columns ⟨rfl, rfl⟩
          exact expandable columnsMark columns
      simp only [inside, expand, bind_eq_ok_iff, pure_eq_ok_iff]
      constructor
      · rintro ⟨expandedEntries, expands⟩
        exact ⟨_, expandedEntries, expands, rfl⟩
      · rintro ⟨_, expandedEntries, expands, -⟩
        exact ⟨expandedEntries, expands⟩
  | _ => simp [Expandable, expand]

theorem columnsOf_expand {table : String} {templates columns expanded : Mapping}
    (expands : columns.mapM (Column.expand table templates) = .ok expanded) :
    columnsOf table columns templates = columnsOf table expanded [] := by
  have pointwise := mapM_eq_ok_iff.mp expands
  exact mapM_congr_of_forall₂
    (pointwise.imp fun _ _ columnExpands => Column.ofDefinition_expand columnExpands)

theorem property?_insert_columns (entries : Mapping) (columns : Value) (name : String) :
    Mapping.property? (Mapping.insert entries (.text "columns") columns) name =
      if name = "columns" then some columns else Mapping.property? entries name := by
  have textKey : (Value.text "columns").key? = some (.text "columns") := rfl
  rw [Mapping.property?, Mapping.get?_insert, textKey]
  by_cases same : name = "columns"
  · simp [same]
  · simp [same, Ne.symm same, Mapping.property?]

theorem ofEntries_expandEntries {table : String} {templates entries expanded : Mapping}
    (expands : expandEntries table templates entries = .ok expanded) :
    ofEntries table entries templates = ofEntries table expanded [] := by
  rw [expandEntries] at expands
  split at expands
  · rename_i mark columns found
    simp only [bind_eq_ok_iff, pure_eq_ok_iff] at expands
    obtain ⟨expandedColumns, traversed, rfl⟩ := expands
    have sameLength := (mapM_eq_ok_iff.mp traversed).length_eq
    have sameTruth : columns.isEmpty = expandedColumns.isEmpty := by
      rw [Bool.eq_iff_iff, List.isEmpty_iff_length_eq_zero, sameLength,
        List.isEmpty_iff_length_eq_zero]
    simp only [ofEntries, constraintsOf, property?_insert_columns, found, Value.truthy,
      sameTruth, columnsOf_expand traversed, reduceIte, String.reduceEq]
  · rename_i notMapping
    cases expands
    rw [ofEntries, ofEntries]
    cases found : Mapping.property? entries "columns" with
    | none => rfl
    | some columns =>
        cases columns with
        | map mark columns => exact absurd found (notMapping mark columns)
        | _ => rfl

/-- An expanded table resolves without templates as the table does with them. -/
theorem ofEntry_expand {templates : Mapping} {entry expanded : Value × Value}
    (expands : expand templates entry = .ok expanded) :
    ofEntry templates entry = ofEntry [] expanded := by
  obtain ⟨name, table⟩ := entry
  cases table with
  | map mark entries =>
      simp only [expand, bind_eq_ok_iff, pure_eq_ok_iff] at expands
      obtain ⟨expandedEntries, inside, rfl⟩ := expands
      cases written : name.written with
      | error fault => simp [ofEntry, written, bind, Except.bind]
      | ok text =>
          obtain ⟨-, rfl⟩ := Value.written_eq_ok_iff.mp written
          simpa [ofEntry, ofValue, written, bind, Except.bind] using ofEntries_expandEntries inside
  | _ =>
      cases expands
      rfl

end Table

namespace Schema

/-- Every column definition that is a mapping takes in its template. -/
def Expandable (schema : Schema) : Prop :=
  ∀ entry ∈ schema.tables, Table.Expandable schema.columnTemplates entry

/-- The schema with every column definition expanded and without templates. -/
def expand (schema : Schema) : Except CompileError Schema := do
  let tables ← schema.tables.mapM (Table.expand schema.columnTemplates)
  return { columnTemplates := [], tables }

/-- Definitions take in their templates just where the schema can be expanded. -/
theorem expandable_iff {schema : Schema} :
    schema.Expandable ↔ ∃ expanded, schema.expand = .ok expanded := by
  simp only [Expandable, Table.expandable_iff, ← exists_mapM_eq_ok_iff, expand, bind_eq_ok_iff,
    pure_eq_ok_iff]
  constructor
  · rintro ⟨tables, traversed⟩
    exact ⟨_, tables, traversed, rfl⟩
  · rintro ⟨_, tables, traversed, -⟩
    exact ⟨tables, traversed⟩

/-- Expanding the templates of a schema changes neither its text nor its fault. -/
theorem compile_expand {schema : Schema} (expandable : schema.Expandable) :
    ∃ expanded, schema.expand = .ok expanded ∧ expanded.columnTemplates = [] ∧
      expanded.compile = schema.compile := by
  obtain ⟨expanded, expands⟩ := expandable_iff.mp expandable
  refine ⟨expanded, expands, ?_⟩
  simp only [expand, bind_eq_ok_iff, pure_eq_ok_iff] at expands
  obtain ⟨tables, traversed, rfl⟩ := expands
  have pointwise := mapM_eq_ok_iff.mp traversed
  have sameTables := mapM_congr_of_forall₂
    (pointwise.imp fun _ _ tableExpands => Table.ofEntry_expand tableExpands)
  exact ⟨rfl, by rw [compile, compile, resolve, resolve, sameTables]⟩

/-- A schema with an empty template, a template inside a template, a default set to null over that
of a template, and a column without a template. -/
def stock : Schema where
  columnTemplates :=
    [(.text "plain", .null),
      (.text "counted", .map none
        [(.text "type", .text "INT"), (.text "template", .text "absent"),
          (.text "default", .int 0)])]
  tables :=
    [(.text "items", .map none
      [(.text "columns", .map none
        [(.text "id", .map none [(.text "template", .text "counted"), (.text "default", .null)]),
          (.text "name", .map none
            [(.text "type", .text "TEXT"), (.text "template", .text "plain")]),
          (.text "note", .map none [(.text "type", .text "TEXT"), (.text "not_null", .null)])])])]

theorem compile_expand_of_stock :
    stock.Expandable ∧ ∃ expanded, stock.expand = .ok expanded ∧ expanded.columnTemplates = [] ∧
      expanded.compile = stock.compile :=
  have expandable : stock.Expandable := expandable_iff.mpr ⟨_, rfl⟩
  ⟨expandable, compile_expand expandable⟩

end Schema

end SchemaDdl
