import SchemaDdl.Proofs.Resolution.FirstFault

/-!
# What a compilation reads

A compilation reads the names and columns of the tables, of each constraint its type and the fields
of that type, and the templates that the columns name.  Documents in which these are the same
compile to the same text or fail for the same cause, whatever else is in them.
-/

namespace SchemaDdl

namespace Template

variable {table : String} {column : Value} {definition templates others : Mapping}

/-- Two collections of templates have the same body, or none, under the name that a definition
gives. -/
def SameBody (templates others definition : Mapping) : Prop :=
  ∀ template key, Mapping.property? definition keyword = some template →
    template.key? = some key → Mapping.get? templates key = Mapping.get? others key

theorem expand_congr (sameBody : SameBody templates others definition) :
    expand table column definition templates = expand table column definition others := by
  rw [expand, expand]
  cases named : Mapping.property? definition keyword with
  | none => rfl
  | some template =>
      have sameFind : find table column template templates =
          find table column template others := by
        rw [find, find]
        cases isKey : template.key? with
        | none => rfl
        | some key => simp only [sameBody template key named isKey]
      simp only [sameFind]

end Template

namespace Column

theorem ofDefinition_congr {table : String} {name definition : Value} {templates others : Mapping}
    (sameBody : Template.SameBody templates others definition.entries) :
    ofDefinition table name definition templates = ofDefinition table name definition others := by
  have sameExpand : Template.expand table name definition.entries templates =
      Template.expand table name definition.entries others :=
    Template.expand_congr sameBody
  cases definition with
  | map mark own => exact congrArg (· >>= ofProperties table name) sameExpand
  | _ => rfl

end Column

namespace Constraint

/-- The fields that a constraint of a type is made from. -/
def fieldsOf (type : Value) : List ConstraintField :=
  if type.key? = some (.text "primary") then [.primaryColumns]
  else if type.key? = some (.text "foreign") then
    [.foreignColumn, .foreignReferencesColumn, .foreignReferencesTable]
  else []

/-- Two constraints read alike when they are equal, or mappings with the same type and the same
fields of that type. -/
inductive ReadsAlike : Value → Value → Prop
  | same (constraint : Value) : ReadsAlike constraint constraint
  | fields {mark otherMark : Option Nat} {entries others : Mapping}
      (sameType : Mapping.property? entries "type" = Mapping.property? others "type")
      (sameFields : ∀ type, Mapping.property? entries "type" = some type →
        ∀ field ∈ fieldsOf type,
          Mapping.property? entries field.keyword = Mapping.property? others field.keyword) :
      ReadsAlike (.map mark entries) (.map otherMark others)

/-- Lists of constraints, either of which may be missing, read alike when they are equal or their
items do. -/
inductive ListReadsAlike : Option Value → Option Value → Prop
  | same (constraints : Option Value) : ListReadsAlike constraints constraints
  | items {mark otherMark : Option Nat} {items others : List Value}
      (alike : List.Forall₂ ReadsAlike items others) :
      ListReadsAlike (some (.list mark items)) (some (.list otherMark others))

theorem required_congr {table : String} {entries others : Mapping} {field : ConstraintField}
    (sameField : Mapping.property? entries field.keyword =
      Mapping.property? others field.keyword) :
    required table entries field = required table others field := by
  rw [required, required, sameField]

theorem ofEntries_congr {table : String} {entries others : Mapping}
    (sameType : Mapping.property? entries "type" = Mapping.property? others "type")
    (sameFields : ∀ type, Mapping.property? entries "type" = some type →
      ∀ field ∈ fieldsOf type,
        Mapping.property? entries field.keyword = Mapping.property? others field.keyword) :
    ofEntries table entries = ofEntries table others := by
  rw [ofEntries, ofEntries, ← sameType]
  cases typed : Mapping.property? entries "type" with
  | none => rfl
  | some type =>
      have sameField := sameFields type typed
      rw [fieldsOf] at sameField
      cases isKey : type.key? with
      | none => simp only [isKey]
      | some key =>
          simp only [isKey, Option.some.injEq] at sameField ⊢
          split
          · rename_i primary
            rw [if_pos primary] at sameField
            rw [primaryOfEntries, primaryOfEntries,
              required_congr (sameField .primaryColumns (by simp))]
          · rename_i notPrimary
            rw [if_neg notPrimary] at sameField
            split
            · rename_i foreign
              rw [if_pos foreign] at sameField
              rw [foreignOfEntries, foreignOfEntries,
                required_congr (sameField .foreignColumn (by simp)),
                required_congr (sameField .foreignReferencesColumn (by simp)),
                required_congr (sameField .foreignReferencesTable (by simp))]
            · rfl

theorem ofValue_eq_of_readsAlike {table : String} {constraint other : Value}
    (alike : ReadsAlike constraint other) : ofValue table constraint = ofValue table other := by
  cases alike with
  | same => rfl
  | fields sameType sameFields => exact ofEntries_congr sameType sameFields

theorem listOfValue_eq_of_readsAlike {table : String} {mark otherMark : Option Nat}
    {items others : List Value} (alike : List.Forall₂ ReadsAlike items others) :
    listOfValue table (.list mark items) = listOfValue table (.list otherMark others) :=
  mapM_congr_of_forall₂ (alike.imp fun _ _ itemsAlike => ofValue_eq_of_readsAlike itemsAlike)

end Constraint

namespace Table

/-- Two tables read alike when they are equal, or mappings with the same columns and with
constraints that read alike. -/
inductive ReadsAlike : Value → Value → Prop
  | same (table : Value) : ReadsAlike table table
  | entries {mark otherMark : Option Nat} {entries others : Mapping}
      (sameColumns : Mapping.property? entries "columns" = Mapping.property? others "columns")
      (constraints : Constraint.ListReadsAlike (Mapping.property? entries "constraints")
        (Mapping.property? others "constraints")) :
      ReadsAlike (.map mark entries) (.map otherMark others)

theorem constraintsOf_eq_of_readsAlike {table : String} {entries others : Mapping}
    (alike : Constraint.ListReadsAlike (Mapping.property? entries "constraints")
      (Mapping.property? others "constraints")) :
    constraintsOf table entries = constraintsOf table others := by
  rw [constraintsOf, constraintsOf]
  generalize Mapping.property? entries "constraints" = constraints at alike
  generalize Mapping.property? others "constraints" = otherConstraints at alike
  cases alike with
  | same => rfl
  | items alike => exact Constraint.listOfValue_eq_of_readsAlike alike

theorem ofEntries_congr {name : String} {entries others templates otherTemplates : Mapping}
    (sameColumns : Mapping.property? entries "columns" = Mapping.property? others "columns")
    (sameConstraints : constraintsOf name entries = constraintsOf name others)
    (sameBodies : ∀ mark columns, Mapping.property? entries "columns" = some (.map mark columns) →
      ∀ column ∈ columns, Template.SameBody templates otherTemplates column.2.entries) :
    ofEntries name entries templates = ofEntries name others otherTemplates := by
  rw [ofEntries, ofEntries, ← sameColumns, sameConstraints]
  cases found : Mapping.property? entries "columns" with
  | none => rfl
  | some value =>
      cases value with
      | map mark columns =>
          have sameColumnsOf : columnsOf name columns templates =
              columnsOf name columns otherTemplates := by
            refine mapM_congr_of_forall₂ (List.forall₂_same.mpr ?_)
            intro column member
            exact Column.ofDefinition_congr (sameBodies mark columns found column member)
          simp only [sameColumnsOf]
      | _ => rfl

theorem ofValue_eq_of_readsAlike {name : String} {table other : Value}
    {templates otherTemplates : Mapping} (alike : ReadsAlike table other)
    (sameBodies : ∀ column ∈ (table.property "columns").entries,
      Template.SameBody templates otherTemplates column.2.entries) :
    ofValue name table templates = ofValue name other otherTemplates := by
  have inColumns (mark : Option Nat) (entries : Mapping) (isTable : table = .map mark entries)
      (columnsMark : Option Nat) (columns : Mapping)
      (found : Mapping.property? entries "columns" = some (.map columnsMark columns)) :
      (table.property "columns").entries = columns := by
    rw [isTable, Value.property, Value.entries, found]
    rfl
  cases alike with
  | same =>
      cases table with
      | map mark entries =>
          refine ofEntries_congr rfl rfl fun columnsMark columns found => ?_
          rw [← inColumns mark entries rfl columnsMark columns found]
          exact sameBodies
      | _ => rfl
  | entries sameColumns constraints =>
      refine ofEntries_congr sameColumns (constraintsOf_eq_of_readsAlike constraints)
        fun columnsMark columns found => ?_
      rw [← inColumns _ _ rfl columnsMark columns found]
      exact sameBodies

end Table

namespace Schema

def tablesOf (document : Value) : Mapping :=
  (document.property Section.tables.keyword).entries

/-- Whether a section of a document is there, and a mapping or null. -/
def HasBody (document : Value) (wanted : Section) : Prop :=
  ∃ body, Mapping.property? document.entries wanted.keyword = some body ∧
    body.isMappingOrNull = true

/-- Whether a column of some table names a template. -/
def UsesTemplate (tables : Mapping) (template : Value) : Prop :=
  ∃ entry ∈ tables, ∃ column ∈ (entry.2.property "columns").entries,
    Mapping.property? column.2.entries Template.keyword = some template

/-- Two documents read alike when their tables have the same names in the same order and read alike,
and the templates that the tables use are the same ones. -/
structure ReadsAlike (document other : Value) : Prop where
  bodies : ∀ wanted, HasBody document wanted ∧ HasBody other wanted
  tables : List.Forall₂ (fun entry other => entry.1 = other.1 ∧ Table.ReadsAlike entry.2 other.2)
    (tablesOf document) (tablesOf other)
  templates : ∀ template key, UsesTemplate (tablesOf document) template →
    template.key? = some key →
      Mapping.get? (templatesOf document) key = Mapping.get? (templatesOf other) key

/-- A document with both sections compiles as the schema of the two. -/
theorem compileDocument_eq_compile {document : Value}
    (bodies : ∀ wanted, HasBody document wanted) :
    compileDocument document = compile ⟨templatesOf document, tablesOf document⟩ := by
  obtain ⟨templates, hasTemplates, templatesBody⟩ := bodies .columnTemplates
  obtain ⟨tables, hasTables, tablesBody⟩ := bodies .tables
  cases document with
  | map mark entries =>
      rw [Value.entries] at hasTemplates hasTables
      simp only [compileDocument, ofValue, ofEntries, requireSection, hasTemplates, hasTables,
        templatesOf, tablesOf, Value.property, Value.entries, Option.getD_some, bind, Except.bind,
        sectionEntries_eq, templatesBody, tablesBody, if_true]
      rfl
  | _ => simp [Value.entries, Mapping.property?] at hasTables

theorem compile_congr {tables others templates otherTemplates : Mapping}
    (alike : List.Forall₂
      (fun entry other => entry.1 = other.1 ∧ Table.ReadsAlike entry.2 other.2) tables others)
    (sameBodies : ∀ entry ∈ tables, ∀ column ∈ (entry.2.property "columns").entries,
      Template.SameBody templates otherTemplates column.2.entries) :
    compile ⟨templates, tables⟩ = compile ⟨otherTemplates, others⟩ := by
  have sameTables : resolve ⟨templates, tables⟩ = resolve ⟨otherTemplates, others⟩ := by
    refine mapM_congr_of_forall₂ ?_
    induction alike with
    | nil => exact .nil
    | cons first rest induction =>
        rw [List.forall_mem_cons] at sameBodies
        refine .cons ?_ (induction sameBodies.2)
        rw [Table.ofEntry, Table.ofEntry, ← first.1]
        exact bind_congr fun name => Table.ofValue_eq_of_readsAlike first.2 sameBodies.1
  rw [compile, compile, sameTables]

/-- Documents that read alike compile to the same text or fail for the same cause. -/
theorem compileDocument_eq_of_readsAlike {document other : Value}
    (alike : ReadsAlike document other) : compileDocument document = compileDocument other := by
  rw [compileDocument_eq_compile fun wanted => (alike.bodies wanted).1,
    compileDocument_eq_compile fun wanted => (alike.bodies wanted).2]
  refine compile_congr alike.tables ?_
  intro entry isTable column isColumn template key named isKey
  exact alike.templates template key ⟨entry, isTable, column, isColumn, named⟩ isKey

/-- A document with one table, and with further entries at its top, among its templates, in its
table and in its constraint. -/
def inventory (top templates table constraint : Mapping) : Value :=
  .map none (top ++
    [(.text "column_templates", .map none
        (templates ++ [(.text "id", .map none [(.text "type", .text "INT")])])),
      (.text "tables", .map none
        [(.text "items", .map none (table ++
          [(.text "columns", .map none [(.text "id", .map none [(.text "template", .text "id")])]),
            (.text "constraints", .list none
              [.map none (constraint ++
                [(.text "type", .text "primary"), (.text "columns", .text "id")])])]))])])

/-- Entries that are not read, a template that is no mapping among them. -/
def annotatedInventory : Value :=
  inventory [(.text "version", .int 2)] [(.text "broken", .list none [])]
    [(.text "engine", .text "memory")] [(.text "column", .null)]

theorem compileDocument_annotatedInventory :
    ReadsAlike (inventory [] [] [] []) annotatedInventory ∧
      compileDocument (inventory [] [] [] []) = compileDocument annotatedInventory := by
  have sameConstraint : Constraint.ReadsAlike
      (.map none [(.text "type", .text "primary"), (.text "columns", .text "id")])
      (.map none [(.text "column", .null), (.text "type", .text "primary"),
        (.text "columns", .text "id")]) := by
    refine .fields rfl ?_
    rintro type ⟨⟩ field isField
    rw [List.mem_singleton.mp isField]
    rfl
  have alike : ReadsAlike (inventory [] [] [] []) annotatedInventory := by
    refine ⟨?_, .cons ⟨rfl, .entries rfl (.items (.cons sameConstraint .nil))⟩ .nil, ?_⟩
    · rintro (_ | _)
      · exact ⟨⟨_, rfl, rfl⟩, ⟨_, rfl, rfl⟩⟩
      · exact ⟨⟨_, rfl, rfl⟩, ⟨_, rfl, rfl⟩⟩
    · rintro template key ⟨entry, isTable, column, isColumn, named⟩ isKey
      rw [List.mem_singleton.mp isTable] at isColumn
      rw [List.mem_singleton.mp isColumn] at named
      cases named
      cases isKey
      rfl
  exact ⟨alike, compileDocument_eq_of_readsAlike alike⟩

end Schema

end SchemaDdl
