import SchemaDdl.Proofs.Mapping.Lookup
import SchemaDdl.Proofs.Resolution.LongNumber
import SchemaDdl.Proofs.Resolution.Reading
import SchemaDdl.Proofs.Resolution.Rejection

/-!
# Order in documents

The order of the tables, of the columns of a table and of the items of a list matters; the order of
all other entries of a document does not.  Documents that differ in it compile to the same text or
fail for the same cause, but of several properties that a column cannot have either may be the one
reported.  Where one of them is a number that is too long to be reported, even the kind of the cause
depends on the order.
-/

namespace SchemaDdl

theorem Mapping.AreShort.of_forall₂ {entries others : Mapping}
    (pointwise : List.Forall₂
      (fun entry other => entry.1 = other.1 ∧ (entry.2.IsShort → other.2.IsShort)) entries others)
    (short : entries.AreShort) : others.AreShort := by
  induction pointwise with
  | nil => exact short
  | cons first rest induction =>
      rw [Mapping.AreShort, List.forall_mem_cons] at short ⊢
      exact ⟨⟨first.1 ▸ short.1.1, first.2 short.1.2⟩, induction short.2⟩

namespace Value

/-- Two values are equal, or mappings with the same entries in any order, up to related values. -/
inductive Rearranged (related : Option Key → Value → Value → Prop) : Value → Value → Prop
  | same (value : Value) : Rearranged related value value
  | entries (mark otherMark : Option Nat) {entries others : Mapping}
      (rearranged : Mapping.Rearranged related entries others) :
      Rearranged related (.map mark entries) (.map otherMark others)

/-- Two values are equal, or mappings with the same keys in the same order and related values. -/
inductive Entrywise (related : Value → Value → Prop) : Value → Value → Prop
  | same (value : Value) : Entrywise related value value
  | entries (mark otherMark : Option Nat) {entries others : Mapping}
      (pointwise : List.Forall₂ (fun entry other => entry.1 = other.1 ∧ related entry.2 other.2)
        entries others) :
      Entrywise related (.map mark entries) (.map otherMark others)

/-- Two values are equal, or lists with related items. -/
inductive Itemwise (related : Value → Value → Prop) : Value → Value → Prop
  | same (value : Value) : Itemwise related value value
  | items (mark otherMark : Option Nat) {items others : List Value}
      (pointwise : List.Forall₂ related items others) :
      Itemwise related (.list mark items) (.list otherMark others)

/-- Two values are equal, or mappings with the same entries in any order. -/
def Shuffled : Value → Value → Prop :=
  Rearranged fun _ value other => value = other

theorem Shuffled.similar {value other : Value} (shuffled : Shuffled value other) :
    value.entries.Similar other.entries ∧
      Mapping.Similar value.entries.reverse other.entries.reverse := by
  cases shuffled with
  | same => exact ⟨.refl _, .refl _⟩
  | entries mark otherMark rearranged =>
      rename_i entries others
      obtain ⟨distinct, permuted⟩ := rearranged.perm
      have reversed := entries.reverse_perm
      have distinctReversed : (Mapping.keys entries.reverse).Nodup := by
        rw [Mapping.keys_reverse]
        exact (List.reverse_perm _).nodup_iff.mpr distinct
      exact ⟨Mapping.similar_of_perm permuted distinct, Mapping.similar_of_perm
        (reversed.trans (permuted.trans others.reverse_perm.symm)) distinctReversed⟩

/-- Lookups in rearranged mappings find related values. -/
theorem Rearranged.get? {related : Option Key → Value → Value → Prop}
    (refl : ∀ key value, related key value value) {value other : Value}
    (rearranged : Rearranged related value other) (key : Key) :
    Option.Rel (related (some key)) (Mapping.get? value.entries key)
      (Mapping.get? other.entries key) := by
  cases rearranged with
  | same =>
      cases Mapping.get? value.entries key with
      | none => exact .none
      | some found => exact .some (refl _ found)
  | entries mark otherMark rearranged => exact rearranged.get? key

/-- Mappings with related values are rearranged when one of them is turned round. -/
theorem rearranged_reverse {related : Option Key → Value → Value → Prop}
    {entries others : Mapping} (distinct : entries.keys.Nodup)
    (pointwise : List.Forall₂
      (fun entry other => entry.1 = other.1 ∧ related entry.1.key? entry.2 other.2)
        entries others) :
    Rearranged related (.map none entries) (.map none others.reverse) :=
  .entries none none ⟨distinct, entries.reverse, entries.reverse_perm.symm,
    List.rel_reverse pointwise⟩

theorem Rearranged.isShort {related : Option Key → Value → Value → Prop}
    (transfer : ∀ key value other, related key value other → value.IsShort → other.IsShort)
    {value other : Value} (rearranged : Rearranged related value other) (short : value.IsShort) :
    other.IsShort := by
  cases rearranged with
  | same => exact short
  | entries mark otherMark rearranged =>
      obtain ⟨-, middle, permuted, pointwise⟩ := rearranged
      refine isShort_map_iff.mpr (Mapping.AreShort.of_forall₂ (pointwise.imp ?_) ?_)
      · exact fun entry other isRelated => ⟨isRelated.1, transfer _ _ _ isRelated.2⟩
      · exact fun entry member => short.areShort entry (permuted.mem_iff.mpr member)

theorem Entrywise.isShort {related : Value → Value → Prop}
    (transfer : ∀ value other, related value other → value.IsShort → other.IsShort)
    {value other : Value} (entrywise : Entrywise related value other) (short : value.IsShort) :
    other.IsShort := by
  cases entrywise with
  | same => exact short
  | entries mark otherMark pointwise =>
      refine isShort_map_iff.mpr (Mapping.AreShort.of_forall₂ (pointwise.imp ?_) short.areShort)
      exact fun entry other isRelated => ⟨isRelated.1, transfer _ _ isRelated.2⟩

theorem Itemwise.isShort {related : Value → Value → Prop}
    (transfer : ∀ value other, related value other → value.IsShort → other.IsShort)
    {value other : Value} (itemwise : Itemwise related value other) (short : value.IsShort) :
    other.IsShort := by
  cases itemwise with
  | same => exact short
  | items mark otherMark pointwise =>
      rw [isShort_list_iff] at short ⊢
      induction pointwise with
      | nil => exact List.forall_mem_nil _
      | cons first rest induction =>
          rw [List.forall_mem_cons] at short ⊢
          exact ⟨transfer _ _ first short.1, induction short.2⟩

theorem Shuffled.isShort {value other : Value} (shuffled : Shuffled value other) :
    value.IsShort → other.IsShort :=
  Rearranged.isShort (fun _ value other (same : value = other) short => same ▸ short) shuffled

theorem shuffled_of_perm {entries others : Mapping} (distinct : entries.keys.Nodup)
    (permuted : entries.Perm others) : Shuffled (.map none entries) (.map none others) :=
  .entries none none ⟨distinct, others, permuted, List.forall₂_same.mpr fun _ _ => ⟨rfl, rfl⟩⟩

theorem shuffled_reverse {entries : Mapping} (distinct : entries.keys.Nodup) :
    Shuffled (.map none entries) (.map none entries.reverse) :=
  shuffled_of_perm distinct entries.reverse_perm.symm

/-- Two values related entry by entry are mappings, or one value that is none. -/
theorem Entrywise.cases {related : Value → Value → Prop} (refl : ∀ value, related value value)
    {value other : Value} (entrywise : Entrywise related value other) :
    (∃ mark otherMark entries others, value = .map mark entries ∧ other = .map otherMark others ∧
      List.Forall₂ (fun entry other => entry.1 = other.1 ∧ related entry.2 other.2)
        entries others) ∨
      value = other ∧ value.isMapping = false := by
  cases entrywise with
  | same =>
      cases value with
      | map mark entries =>
          exact .inl ⟨mark, mark, entries, entries, rfl, rfl,
            List.forall₂_same.mpr fun entry _ => ⟨rfl, refl entry.2⟩⟩
      | _ => exact .inr ⟨rfl, rfl⟩
  | entries mark otherMark pointwise =>
      exact .inl ⟨mark, otherMark, _, _, rfl, rfl, pointwise⟩

end Value

/-- Two computations end alike: with related values, or with the same fault, but for the property
reported of a column with properties that it cannot have. -/
inductive EndsAlike {α β : Type} (related : α → β → Prop) :
    Except CompileError α → Except CompileError β → Prop
  | ok {value : α} {other : β} (isRelated : related value other) :
      EndsAlike related (.ok value) (.ok other)
  | error (fault : CompileError) : EndsAlike related (.error fault) (.error fault)
  | property (table : String) (column first second : Value) :
      EndsAlike related (.error (CompileError.unrecognizedProperty table column first).reported)
        (.error (CompileError.unrecognizedProperty table column second).reported)

namespace EndsAlike

variable {α β γ δ : Type}

theorem cases {result other : Except CompileError α} (endsAlike : EndsAlike (· = ·) result other) :
    result = other ∨ ∃ table column first second,
      result = .error (CompileError.unrecognizedProperty table column first).reported ∧
        other = .error (CompileError.unrecognizedProperty table column second).reported := by
  cases endsAlike with
  | ok same => exact .inl (congrArg _ same)
  | error fault => exact .inl rfl
  | property table column first second => exact .inr ⟨table, column, first, second, rfl, rfl⟩

theorem refl (result : Except CompileError α) : EndsAlike (· = ·) result result := by
  cases result with
  | ok value => exact .ok rfl
  | error fault => exact .error fault

theorem bind {related : α → β → Prop} {further : γ → δ → Prop} {result : Except CompileError α}
    {other : Except CompileError β} {next : α → Except CompileError γ}
    {otherNext : β → Except CompileError δ} (first : EndsAlike related result other)
    (rest : ∀ value otherValue, related value otherValue →
      EndsAlike further (next value) (otherNext otherValue)) :
    EndsAlike further (result >>= next) (other >>= otherNext) := by
  cases first with
  | ok isRelated => exact rest _ _ isRelated
  | error fault => exact .error fault
  | property table column first second => exact .property table column first second

theorem map {result other : Except CompileError α} (f : α → β)
    (endsAlike : EndsAlike (· = ·) result other) :
    EndsAlike (· = ·) (result.map f) (other.map f) := by
  cases endsAlike with
  | ok same => exact .ok (congrArg f same)
  | error fault => exact .error fault
  | property table column first second => exact .property table column first second

/-- Traversals end alike when their steps do at each position. -/
theorem mapM {f : α → Except CompileError γ} {g : β → Except CompileError γ} {values : List α}
    {others : List β}
    (pointwise : List.Forall₂ (fun value other => EndsAlike (· = ·) (f value) (g other))
      values others) :
    EndsAlike (· = ·) (values.mapM f) (others.mapM g) := by
  induction pointwise with
  | nil => exact .ok rfl
  | cons first rest induction =>
      rw [List.mapM_cons, List.mapM_cons]
      refine first.bind ?_
      rintro result _ rfl
      refine induction.bind ?_
      rintro results _ rfl
      exact .ok rfl

end EndsAlike

namespace Column

variable {table : String} {name definition other : Value}

/-- Whether a key is one of the properties that a column can have. -/
def isPropertyKey (key : Option Key) : Bool :=
  propertyNames.any fun name => key = some (.text name)

theorem leftover_eq_none_iff {properties : Mapping} :
    properties.find? (fun entry => !isProperty entry.1) = none ↔
      ∀ key ∈ properties.keys, isPropertyKey key = true := by
  have isKey (entry : Value × Value) : isProperty entry.1 = isPropertyKey entry.1.key? := rfl
  simp only [List.find?_eq_none, Mapping.keys, List.forall_mem_map, isKey, Bool.not_eq_true',
    Bool.not_eq_false]

theorem ofProperties_endsAlike {properties others : Mapping}
    (similar : properties.Similar others) :
    EndsAlike (· = ·) (ofProperties table name properties) (ofProperties table name others) := by
  have sameNullability : nullabilityText properties = nullabilityText others := by
    simp only [nullabilityText, similar.property?]
  have sameDefault : defaultText properties = defaultText others := by
    simp only [defaultText, similar.property?]
  have sameType (type : String) :
      typeText table name properties type = typeText table name others type := by
    simp only [typeText, similar.property?]
  have sameLeftover : properties.find? (fun entry => !isProperty entry.1) = none ↔
      others.find? (fun entry => !isProperty entry.1) = none := by
    simp only [leftover_eq_none_iff, similar.keys]
  rw [ofProperties, ofProperties, similar.property?, sameNullability, sameDefault]
  cases Mapping.property? others "type" with
  | none => exact .error _
  | some type =>
      simp only [sameType]
      refine (EndsAlike.refl _).bind ?_
      rintro typeName _ rfl
      refine (EndsAlike.refl _).bind ?_
      rintro typeFragment _ rfl
      refine (EndsAlike.refl _).bind ?_
      rintro defaultFragment _ rfl
      cases leftover : properties.find? fun entry => !isProperty entry.1 with
      | none =>
          rw [sameLeftover.mp leftover]
          exact .refl _
      | some extra =>
          cases otherLeftover : others.find? fun entry => !isProperty entry.1 with
          | none =>
              rw [sameLeftover.mpr otherLeftover] at leftover
              contradiction
          | some otherExtra => exact .property table name extra.1 otherExtra.1

theorem definitionProperties_endsAlike (shuffled : Value.Shuffled definition other) :
    EndsAlike (fun own others => own.Similar others ∧
        Mapping.Similar own.reverse others.reverse)
      (definitionProperties table name definition) (definitionProperties table name other) := by
  have similar := shuffled.similar
  cases shuffled with
  | same =>
      cases definition with
      | map mark own => exact .ok similar
      | null => exact .ok similar
      | _ => exact .error _
  | entries mark otherMark rearranged => exact .ok similar

end Column

namespace Template

variable {templates others : Mapping}

/-- Two collections of templates have shuffled bodies under the same names. -/
def Shuffled (templates others : Mapping) : Prop :=
  ∀ key, Option.Rel Value.Shuffled (Mapping.get? templates key) (Mapping.get? others key)

theorem find_endsAlike {table : String} {column template : Value}
    (shuffled : Shuffled templates others) :
    EndsAlike Value.Shuffled (find table column template templates)
      (find table column template others) := by
  rw [find, find]
  cases template.key? with
  | none => exact .error _
  | some key =>
      have bodies := shuffled key
      simp only
      generalize Mapping.get? templates key = body at bodies
      generalize Mapping.get? others key = otherBody at bodies
      cases bodies with
      | none => exact .error _
      | some bodies => exact .ok bodies

theorem bodyProperties_endsAlike {template body other : Value}
    (shuffled : Value.Shuffled body other) :
    EndsAlike Mapping.Similar (bodyProperties template body) (bodyProperties template other) := by
  have similar := shuffled.similar.1
  cases shuffled with
  | same =>
      cases body with
      | map mark entries => exact .ok similar
      | null => exact .ok similar
      | _ => exact .error _
  | entries mark otherMark rearranged => exact .ok similar

theorem expand_endsAlike {table : String} {column : Value} {own other : Mapping}
    (similar : own.Similar other) (reversed : Mapping.Similar own.reverse other.reverse)
    (shuffled : Shuffled templates others) :
    EndsAlike Mapping.Similar (expand table column own templates)
      (expand table column other others) := by
  rw [expand, expand, similar.property?]
  cases Mapping.property? other keyword with
  | none => exact .ok similar
  | some template =>
      refine (find_endsAlike shuffled).bind fun body otherBody bodies => ?_
      refine (bodyProperties_endsAlike bodies).bind fun properties otherProperties alike => ?_
      exact .ok (alike.overlay reversed)

end Template

namespace Column

theorem ofDefinition_endsAlike {table : String} {name definition other : Value}
    {templates others : Mapping} (shuffled : Value.Shuffled definition other)
    (templatesShuffled : Template.Shuffled templates others) :
    EndsAlike (· = ·) (ofDefinition table name definition templates)
      (ofDefinition table name other others) := by
  refine (definitionProperties_endsAlike shuffled).bind ?_
  rintro own otherOwn ⟨similar, reversed⟩
  refine (Template.expand_endsAlike similar reversed templatesShuffled).bind ?_
  exact fun properties otherProperties alike => ofProperties_endsAlike alike

end Column

namespace Constraint

theorem readsAlike_of_shuffled {constraint other : Value}
    (shuffled : Value.Shuffled constraint other) : ReadsAlike constraint other := by
  have similar := shuffled.similar.1
  cases shuffled with
  | same => exact .same constraint
  | entries mark otherMark rearranged =>
      exact .fields (similar.property? "type") fun _ _ field _ => similar.property? field.keyword

theorem listOfValue_eq_of_shuffled {table : String} {constraints others : Value}
    (shuffled : Value.Itemwise Value.Shuffled constraints others) :
    listOfValue table constraints = listOfValue table others := by
  cases shuffled with
  | same => rfl
  | items mark otherMark pointwise =>
      exact listOfValue_eq_of_readsAlike (pointwise.imp fun _ _ => readsAlike_of_shuffled)

end Constraint

namespace Table

/-- Two tables have the same entries in any order, but for the order of the entries in the
definitions of columns and in constraints. -/
def Rearranged : Value → Value → Prop :=
  Value.Rearranged fun key value other =>
    if key = some (.text "columns") then Value.Entrywise Value.Shuffled value other
    else if key = some (.text "constraints") then Value.Itemwise Value.Shuffled value other
    else value = other

variable {name : String} {entries others templates otherTemplates : Mapping}

theorem isShort_of_rearranged {table other : Value} (rearranged : Rearranged table other) :
    table.IsShort → other.IsShort := by
  refine Value.Rearranged.isShort (fun key value other related => ?_) rearranged
  split at related
  · exact related.isShort fun _ _ => Value.Shuffled.isShort
  · split at related
    · exact related.isShort fun _ _ => Value.Shuffled.isShort
    · rw [related]
      exact id

theorem rearranged_properties {table other : Value} (rearranged : Rearranged table other) :
    Option.Rel (Value.Entrywise Value.Shuffled) (Mapping.property? table.entries "columns")
        (Mapping.property? other.entries "columns") ∧
      Option.Rel (Value.Itemwise Value.Shuffled) (Mapping.property? table.entries "constraints")
        (Mapping.property? other.entries "constraints") := by
  have related := Value.Rearranged.get? (fun key value => ?_) rearranged
  · constructor
    · simpa [Mapping.property?] using related (.text "columns")
    · simpa [Mapping.property?] using related (.text "constraints")
  · split
    · exact .same value
    · split
      · exact .same value
      · rfl

theorem columnsOf_endsAlike
    (pointwise : List.Forall₂
      (fun entry other => entry.1 = other.1 ∧ Value.Shuffled entry.2 other.2) entries others)
    (templatesShuffled : Template.Shuffled templates otherTemplates) :
    EndsAlike (· = ·) (columnsOf name entries templates)
      (columnsOf name others otherTemplates) := by
  refine EndsAlike.mapM (pointwise.imp ?_)
  rintro ⟨column, definition⟩ ⟨_, other⟩ ⟨rfl, shuffled⟩
  exact Column.ofDefinition_endsAlike shuffled templatesShuffled

theorem constraintsOf_eq_of_shuffled
    (shuffled : Option.Rel (Value.Itemwise Value.Shuffled)
      (Mapping.property? entries "constraints") (Mapping.property? others "constraints")) :
    constraintsOf name entries = constraintsOf name others := by
  rw [constraintsOf, constraintsOf]
  generalize Mapping.property? entries "constraints" = constraints at shuffled
  generalize Mapping.property? others "constraints" = otherConstraints at shuffled
  cases shuffled with
  | none => rfl
  | some shuffled => exact Constraint.listOfValue_eq_of_shuffled shuffled

theorem ofEntries_endsAlike
    (columns : Option.Rel (Value.Entrywise Value.Shuffled)
      (Mapping.property? entries "columns") (Mapping.property? others "columns"))
    (constraints : Option.Rel (Value.Itemwise Value.Shuffled)
      (Mapping.property? entries "constraints") (Mapping.property? others "constraints"))
    (templatesShuffled : Template.Shuffled templates otherTemplates) :
    EndsAlike (· = ·) (ofEntries name entries templates)
      (ofEntries name others otherTemplates) := by
  rw [ofEntries, ofEntries, constraintsOf_eq_of_shuffled constraints]
  generalize Mapping.property? entries "columns" = columns at columns
  generalize Mapping.property? others "columns" = otherColumns at columns
  cases columns with
  | none => exact .error _
  | some entrywise =>
      obtain ⟨mark, otherMark, columns, otherColumns, rfl, rfl, pointwise⟩ | ⟨rfl, notMapping⟩ :=
        entrywise.cases fun value => .same value
      · have sameTruth : (Value.map mark columns).truthy =
            (Value.map otherMark otherColumns).truthy := by
          cases pointwise <;> rfl
        simp only [sameTruth]
        split
        · exact .error _
        · refine (columnsOf_endsAlike pointwise templatesShuffled).bind ?_
          rintro resolved _ rfl
          exact .refl _
      · -- Columns that are no mapping fail before the templates are looked at.
        rename_i columns
        cases columns with
        | map mark columns => contradiction
        | _ => exact .refl _

theorem ofValue_endsAlike {table other : Value} (rearranged : Rearranged table other)
    (templatesShuffled : Template.Shuffled templates otherTemplates) :
    EndsAlike (· = ·) (ofValue name table templates) (ofValue name other otherTemplates) := by
  obtain ⟨columns, constraints⟩ := rearranged_properties rearranged
  cases rearranged with
  | same =>
      cases table with
      | map mark entries => exact ofEntries_endsAlike columns constraints templatesShuffled
      | _ => exact .refl _
  | entries mark otherMark rearranged =>
      exact ofEntries_endsAlike columns constraints templatesShuffled

end Table

namespace Schema

/-- Two documents have the same entries in any order, but for the order of the entries in the bodies
of templates and in tables. -/
def Rearranged : Value → Value → Prop :=
  Value.Rearranged fun key value other =>
    if key = some (.text Section.columnTemplates.keyword) then
      Value.Rearranged (fun _ => Value.Shuffled) value other
    else if key = some (.text Section.tables.keyword) then
      Value.Entrywise Table.Rearranged value other
    else value = other

/-- Two schemas have templates with shuffled bodies, and rearranged tables with the same names in
the same order. -/
structure Alike (schema other : Schema) : Prop where
  templates : Template.Shuffled schema.columnTemplates other.columnTemplates
  tables : List.Forall₂ (fun entry other => entry.1 = other.1 ∧ Table.Rearranged entry.2 other.2)
    schema.tables other.tables

theorem requireSection_endsAlike {related : Value → Value → Prop} {entries others : Mapping}
    {wanted : Section}
    (bodies : Option.Rel related (Mapping.property? entries wanted.keyword)
      (Mapping.property? others wanted.keyword)) :
    EndsAlike related (requireSection entries wanted) (requireSection others wanted) := by
  rw [requireSection, requireSection]
  generalize Mapping.property? entries wanted.keyword = body at bodies
  generalize Mapping.property? others wanted.keyword = otherBody at bodies
  cases bodies with
  | none => exact .error _
  | some bodies => exact .ok bodies

theorem templateEntries_endsAlike {body other : Value}
    (rearranged : Value.Rearranged (fun _ => Value.Shuffled) body other) :
    EndsAlike Template.Shuffled (sectionEntries .columnTemplates body)
      (sectionEntries .columnTemplates other) := by
  have shuffled : Template.Shuffled body.entries other.entries :=
    rearranged.get? fun _ => .same
  cases rearranged with
  | same =>
      cases body with
      | map mark entries => exact .ok shuffled
      | null => exact .ok shuffled
      | _ => exact .error _
  | entries mark otherMark rearranged => exact .ok shuffled

theorem tableEntries_endsAlike {body other : Value}
    (entrywise : Value.Entrywise Table.Rearranged body other) :
    EndsAlike
      (List.Forall₂ fun entry other => entry.1 = other.1 ∧ Table.Rearranged entry.2 other.2)
      (sectionEntries .tables body) (sectionEntries .tables other) := by
  obtain ⟨mark, otherMark, entries, others, rfl, rfl, pointwise⟩ | ⟨rfl, notMapping⟩ :=
    entrywise.cases .same
  · exact .ok pointwise
  · cases body with
    | map mark entries => contradiction
    | null => exact .ok .nil
    | _ => exact .error _

theorem ofEntries_endsAlike {entries others : Mapping}
    (templates : Option.Rel (Value.Rearranged fun _ => Value.Shuffled)
      (Mapping.property? entries Section.columnTemplates.keyword)
      (Mapping.property? others Section.columnTemplates.keyword))
    (tables : Option.Rel (Value.Entrywise Table.Rearranged)
      (Mapping.property? entries Section.tables.keyword)
      (Mapping.property? others Section.tables.keyword)) :
    EndsAlike Alike (ofEntries entries) (ofEntries others) := by
  refine (requireSection_endsAlike templates).bind fun _ _ templatesRearranged => ?_
  refine (requireSection_endsAlike tables).bind fun _ _ tablesRearranged => ?_
  refine (templateEntries_endsAlike templatesRearranged).bind fun _ _ templates => ?_
  refine (tableEntries_endsAlike tablesRearranged).bind fun _ _ tables => ?_
  exact .ok ⟨templates, tables⟩

theorem ofValue_endsAlike {document other : Value} (rearranged : Rearranged document other) :
    EndsAlike Alike (ofValue document) (ofValue other) := by
  have related := rearranged.get? fun key value => by
    split
    · exact .same value
    · split
      · exact .same value
      · rfl
  have endsAlike := ofEntries_endsAlike
    (by simpa [Mapping.property?] using related (.text Section.columnTemplates.keyword))
    (by simpa [Mapping.property?, Section.keyword] using related (.text Section.tables.keyword))
  cases rearranged with
  | same =>
      cases document with
      | map mark entries => exact endsAlike
      | null => exact endsAlike
      | _ => exact .error _
  | entries mark otherMark rearranged => exact endsAlike

theorem compile_endsAlike {schema other : Schema} (alike : Alike schema other) :
    EndsAlike (· = ·) schema.compile other.compile := by
  refine EndsAlike.map statements (EndsAlike.mapM (alike.tables.imp ?_))
  rintro ⟨name, table⟩ ⟨_, otherTable⟩ ⟨rfl, rearranged⟩
  refine (EndsAlike.refl _).bind ?_
  rintro text _ rfl
  exact Table.ofValue_endsAlike rearranged alike.templates

theorem isShort_of_rearranged {document other : Value} (rearranged : Rearranged document other) :
    document.IsShort → other.IsShort := by
  refine Value.Rearranged.isShort (fun key value other related => ?_) rearranged
  split at related
  · exact related.isShort fun _ _ _ => Value.Shuffled.isShort
  · split at related
    · exact related.isShort fun _ _ => Table.isShort_of_rearranged
    · rw [related]
      exact id

theorem compileDocument_endsAlike {document other : Value}
    (rearranged : Rearranged document other) :
    EndsAlike (· = ·) (compileDocument document) (compileDocument other) :=
  (ofValue_endsAlike rearranged).bind fun _ _ alike => compile_endsAlike alike

/-- Rearranged documents compile to the same text or fail for the same cause, but for the property
that is reported of a column with properties that it cannot have.  Only where the report of one of
these shows a number that is too long does the cause give way to that. -/
theorem compileDocument_of_rearranged {document other : Value}
    (rearranged : Rearranged document other) :
    (compileDocument document = compileDocument other ∨
      ∃ table column first second,
        compileDocument document =
            .error (CompileError.unrecognizedProperty table column first).reported ∧
          compileDocument other =
            .error (CompileError.unrecognizedProperty table column second).reported) ∧
    (document.IsShort →
      compileDocument document = compileDocument other ∨
        ∃ table column first second,
          compileDocument document = .error (.unrecognizedProperty table column first) ∧
            compileDocument other = .error (.unrecognizedProperty table column second)) := by
  have endsAlike := (compileDocument_endsAlike rearranged).cases
  refine ⟨endsAlike, fun short => ?_⟩
  have otherShort := isShort_of_rearranged rearranged short
  rcases endsAlike with same | ⟨table, column, first, second, fails, otherFails⟩
  · exact .inl same
  · exact .inr ⟨table, column, first, second, compileDocument_of_reported short fails,
      compileDocument_of_reported otherShort otherFails⟩

/-- A document with a table whose column has two properties that it cannot have; its mappings whose
order does not matter are arranged by a function. -/
def parcels (arrange : Mapping → Mapping) : Value :=
  .map none (arrange
    [(.text "column_templates", .map none (arrange
        [(.text "id", .map none (arrange
            [(.text "type", .text "INT"), (.text "not_null", .bool true)])),
          (.text "code", .null)])),
      (.text "tables", .map none
        [(.text "parcels", .map none (arrange
          [(.text "columns", .map none
              [(.text "id", .map none (arrange
                [(.text "template", .text "id"), (.text "size", .int 4),
                  (.text "colour", .text "red")]))]),
            (.text "constraints", .list none
              [.map none (arrange
                [(.text "type", .text "primary"), (.text "columns", .text "id")])])]))])])

theorem compileDocument_of_rearranged_parcels :
    Rearranged (parcels id) (parcels List.reverse) ∧ (parcels id).IsShort ∧
      compileDocument (parcels id) ≠ compileDocument (parcels List.reverse) ∧
      ∃ table column first second,
        compileDocument (parcels id) = .error (.unrecognizedProperty table column first) ∧
          compileDocument (parcels List.reverse) =
            .error (.unrecognizedProperty table column second) := by
  have rearranged : Rearranged (parcels id) (parcels List.reverse) := by
    refine Value.rearranged_reverse (by decide) (.cons ⟨rfl, ?_⟩ (.cons ⟨rfl, ?_⟩ .nil))
    · refine Value.rearranged_reverse (by decide) (.cons ⟨rfl, ?_⟩ (.cons ⟨rfl, ?_⟩ .nil))
      · exact Value.shuffled_reverse (by decide)
      · exact .same .null
    · refine .entries none none (.cons ⟨rfl, ?_⟩ .nil)
      refine Value.rearranged_reverse (by decide) (.cons ⟨rfl, ?_⟩ (.cons ⟨rfl, ?_⟩ .nil))
      · exact .entries none none (.cons ⟨rfl, Value.shuffled_reverse (by decide)⟩ .nil)
      · exact .items none none (.cons (Value.shuffled_reverse (by decide)) .nil)
  have short : (parcels id).IsShort := by
    have size : Text.isWritable 4 = true := by decide
    simp [parcels, Mapping.AreShort, size]
  have size : compileDocument (parcels id) =
      .error (.unrecognizedProperty "parcels" (.text "id") (.text "size")) := rfl
  have colour : compileDocument (parcels List.reverse) =
      .error (.unrecognizedProperty "parcels" (.text "id") (.text "colour")) := rfl
  have differ : compileDocument (parcels id) ≠ compileDocument (parcels List.reverse) := by
    rw [size, colour]
    simp
  exact ⟨rearranged, short, differ,
    ((compileDocument_of_rearranged rearranged).2 short).resolve_left differ⟩

/-- The properties of a column with a type and two further keys. -/
def overcharged (first second : Value) : Mapping :=
  [(.text "type", .text "INT"), (first, .bool true), (second, .bool true)]

theorem property?_overcharged {first second : Value} {name : String}
    (firstOther : first ≠ .text name) (secondOther : second ≠ .text name) :
    Mapping.property? (overcharged first second) name =
      Mapping.property? [(.text "type", .text "INT")] name := by
  rw [Mapping.property?, Mapping.property?, overcharged, Mapping.get?_cons, Mapping.get?_cons,
    Mapping.get?_cons, Mapping.get?_cons, if_neg (Value.key?_eq_text_iff.not.mpr firstOther),
    if_neg (Value.key?_eq_text_iff.not.mpr secondOther)]

theorem ofDefinition_overcharged {table : String} {name first second : Value}
    (firstOther : ∀ property ∈ Template.keyword :: Column.propertyNames, first ≠ .text property)
    (secondOther : ∀ property ∈ Template.keyword :: Column.propertyNames, second ≠ .text property) :
    Column.ofDefinition table name (.map none (overcharged first second)) [] =
      .error (CompileError.unrecognizedProperty table name first).reported := by
  have plain {property : String} (isName : property ∈ Template.keyword :: Column.propertyNames) :
      Mapping.property? (overcharged first second) property =
        Mapping.property? [(.text "type", .text "INT")] property :=
    property?_overcharged (firstOther property isName) (secondOther property isName)
  have expanded : Template.expand table name (overcharged first second) [] =
      .ok (overcharged first second) := by
    rw [Template.expand, plain (by decide)]
    rfl
  have isType : Column.typeText table name (overcharged first second) "INT" = .ok "INT" := by
    rw [Column.typeText, plain (by decide)]
    rfl
  have isDefault : Column.defaultText (overcharged first second) = .ok "" := by
    rw [Column.defaultText, plain (by decide)]
    rfl
  have leftover : (overcharged first second).find? (fun entry => !Column.isProperty entry.1) =
      some (first, .bool true) := by
    have isForeign : Column.isProperty first = false := by
      rw [Column.isProperty, List.any_eq_false]
      intro property isName
      rw [decide_eq_true_eq, Value.key?_eq_text_iff]
      exact firstOther property (List.mem_cons_of_mem _ isName)
    rw [overcharged, List.find?_cons_of_neg (by decide),
      List.find?_cons_of_pos (by rw [isForeign]; rfl)]
  have made : Column.ofProperties table name (overcharged first second) =
      .error (CompileError.unrecognizedProperty table name first).reported := by
    rw [Column.ofProperties, plain (by decide)]
    simp only [Mapping.property?, Mapping.get?_cons, Value.key?, if_true, bind_eq_error_iff]
    refine .inr ⟨"INT", rfl, .inr ⟨_, isType, .inr ⟨_, isDefault, ?_⟩⟩⟩
    rw [leftover]
  calc Column.ofDefinition table name (.map none (overcharged first second)) [] =
      Template.expand table name (overcharged first second) [] >>= Column.ofProperties table name :=
        rfl
    _ = Column.ofProperties table name (overcharged first second) := by
        rw [expanded]
        rfl
    _ = .error (CompileError.unrecognizedProperty table name first).reported := made

theorem rearranged_documentOf {name column definition other : Value}
    (shuffled : Value.Shuffled definition other) :
    Rearranged (documentOf name column definition) (documentOf name column other) := by
  have sections : (Mapping.keys
      [(.text "column_templates", .null), (.text "tables", .null)]).Nodup := by decide
  refine .entries none none ⟨sections, _, .refl _, .cons ⟨rfl, ?_⟩ (.cons ⟨rfl, ?_⟩ .nil)⟩
  · exact .same .null
  · refine .entries none none (.cons ⟨rfl, ?_⟩ .nil)
    refine .entries none none ⟨by simp [Mapping.keys], _, .refl _, .cons ⟨rfl, ?_⟩ .nil⟩
    exact .entries none none (.cons ⟨rfl, shuffled⟩ .nil)

/-- A document with a table whose column has two further keys. -/
def crates (first second : Value) : Value :=
  documentOf (.text "crates") (.text "id") (.map none (overcharged first second))

/-- Of two properties that a column cannot have the first one is reported, so where one of them is a
number that is too long for a report it depends on their order whether there is one. -/
theorem compileDocument_crates :
    Rearranged (crates .longNumber (.text "size")) (crates (.text "size") .longNumber) ∧
      compileDocument (crates .longNumber (.text "size")) = .error .numberTooLong ∧
      compileDocument (crates (.text "size") .longNumber) =
        .error (.unrecognizedProperty "crates" (.text "id") (.text "size")) := by
  have longOther : ∀ property ∈ Template.keyword :: Column.propertyNames,
      Value.longNumber ≠ .text property := fun property _ => Value.longNumber_ne_text property
  have sizeOther : ∀ property ∈ Template.keyword :: Column.propertyNames,
      Value.text "size" ≠ .text property := by simp [Template.keyword, Column.propertyNames]
  have distinct : (overcharged .longNumber (.text "size")).keys.Nodup := by
    have notText (text : String) : Value.longNumber.key? ≠ some (.text text) :=
      Value.key?_eq_text_iff.not.mpr (Value.longNumber_ne_text text)
    simp [overcharged, Mapping.keys, Value.key?, notText, (notText _).symm]
  refine ⟨rearranged_documentOf (Value.shuffled_of_perm distinct (.cons _ (.swap _ _ _))), ?_, ?_⟩
  · refine compileDocument_documentOf rfl ((ofDefinition_overcharged longOther sizeOther).trans ?_)
    rw [CompileError.reported_eq_numberTooLong List.mem_cons_self Value.isWritable_longNumber]
  · exact compileDocument_documentOf rfl (ofDefinition_overcharged sizeOther longOther)

end Schema

end SchemaDdl
