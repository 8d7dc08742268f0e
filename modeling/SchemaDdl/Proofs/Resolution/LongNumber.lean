import SchemaDdl.Proofs.Resolution.FirstFault

/-!
# Documents without long numbers

The texts that a compilation needs, for the SQL text or for a report, are those of values that stand
in the document.  So a document in which no whole number is too long never fails for one.
-/

namespace SchemaDdl

namespace Value

/-- Whether a whole number that is too long to be written stands in a value. -/
inductive HoldsLongNumber : Value → Prop
  | int {number : Int} (isTooLong : Text.isWritable number = false) : HoldsLongNumber (.int number)
  | list (mark : Option Nat) {items : List Value} {item : Value} (member : item ∈ items)
      (holds : HoldsLongNumber item) : HoldsLongNumber (.list mark items)
  | tuple (mark : Option Nat) {items : List Value} {item : Value} (member : item ∈ items)
      (holds : HoldsLongNumber item) : HoldsLongNumber (.tuple mark items)
  | set (mark : Option Nat) {items : List Value} {item : Value} (member : item ∈ items)
      (holds : HoldsLongNumber item) : HoldsLongNumber (.set mark items)
  | key (mark : Option Nat) {entries : Mapping} {entry : Value × Value} (member : entry ∈ entries)
      (holds : HoldsLongNumber entry.1) : HoldsLongNumber (.map mark entries)
  | value (mark : Option Nat) {entries : Mapping} {entry : Value × Value} (member : entry ∈ entries)
      (holds : HoldsLongNumber entry.2) : HoldsLongNumber (.map mark entries)

/-- Whether all whole numbers in a value can be written. -/
def IsShort (value : Value) : Prop :=
  ¬value.HoldsLongNumber

end Value

/-- Whether all whole numbers in the keys and values of a mapping can be written. -/
def Mapping.AreShort (entries : Mapping) : Prop :=
  ∀ entry ∈ entries, entry.1.IsShort ∧ entry.2.IsShort

namespace Value

@[simp]
theorem isShort_null : IsShort .null := by
  rintro ⟨⟩

@[simp]
theorem isShort_bool (value : Bool) : IsShort (.bool value) := by
  rintro ⟨⟩

@[simp]
theorem isShort_text (text : String) : IsShort (.text text) := by
  rintro ⟨⟩

@[simp]
theorem isShort_int_iff {number : Int} : IsShort (.int number) ↔ Text.isWritable number = true := by
  rw [← Bool.not_eq_false]
  refine not_congr ⟨?_, .int⟩
  rintro ⟨isTooLong⟩
  exact isTooLong

@[simp]
theorem isShort_list_iff {mark : Option Nat} {items : List Value} :
    IsShort (.list mark items) ↔ ∀ item ∈ items, item.IsShort := by
  constructor
  · exact fun short item member holds => short (.list mark member holds)
  · intro short isHeld
    cases isHeld with
    | list mark member holds => exact short _ member holds

@[simp]
theorem isShort_map_iff {mark : Option Nat} {entries : Mapping} :
    IsShort (.map mark entries) ↔ entries.AreShort := by
  constructor
  · exact fun short entry member => ⟨fun holds => short (.key mark member holds),
      fun holds => short (.value mark member holds)⟩
  · intro short isHeld
    cases isHeld with
    | key mark member holds => exact (short _ member).1 holds
    | value mark member holds => exact (short _ member).2 holds

theorem IsShort.areShort {value : Value} (short : value.IsShort) : value.entries.AreShort := by
  cases value with
  | map mark entries => exact isShort_map_iff.mp short
  | _ => exact List.forall_mem_nil _

theorem IsShort.items {value : Value} (short : value.IsShort) :
    ∀ item ∈ value.items, item.IsShort := by
  intro item member
  cases value with
  | list mark items => exact isShort_list_iff.mp short item member
  | tuple mark items => exact fun holds => short (.tuple mark member holds)
  | _ =>
      rw [List.mem_singleton.mp member]
      exact short

theorem IsShort.listItems {value : Value} (short : value.IsShort) :
    ∀ item ∈ value.listItems, item.IsShort := by
  intro item member
  cases value with
  | list mark items => exact isShort_list_iff.mp short item member
  | _ => exact absurd member List.not_mem_nil

mutual

theorem isWritableWithin_of_isShort (enclosing : List Nat) :
    ∀ value : Value, value.IsShort → isWritableWithin enclosing value = true
  | .int number => fun short => by
      rw [isWritableWithin, ← Bool.not_eq_false]
      exact fun isTooLong => short (.int isTooLong)
  | .list mark items | .tuple mark items | .set mark items => fun short => by
      rw [isWritableWithin, areWritableWithin_of_isShort _ items, Bool.or_true]
      intro item member holds
      exact short (by constructor <;> assumption)
  | .map mark entries => fun short => by
      rw [isWritableWithin, entriesWritableWithin_of_areShort _ entries short.areShort,
        Bool.or_true]
  | .null | .bool _ | .float _ | .text _ | .bytes _ | .date _ | .moment _ => fun _ => rfl

theorem areWritableWithin_of_isShort (enclosing : List Nat) :
    ∀ items : List Value, (∀ item ∈ items, item.IsShort) →
      areWritableWithin enclosing items = true
  | [] => fun _ => rfl
  | item :: items => fun short => by
      rw [List.forall_mem_cons] at short
      rw [areWritableWithin, isWritableWithin_of_isShort _ item short.1,
        areWritableWithin_of_isShort _ items short.2]
      rfl

theorem entriesWritableWithin_of_areShort (enclosing : List Nat) :
    ∀ entries : Mapping, entries.AreShort → entriesWritableWithin enclosing entries = true
  | [] => fun _ => rfl
  | (key, value) :: entries => fun short => by
      rw [Mapping.AreShort, List.forall_mem_cons] at short
      rw [entriesWritableWithin, isWritableWithin_of_isShort _ key short.1.1,
        isWritableWithin_of_isShort _ value short.1.2,
        entriesWritableWithin_of_areShort _ entries short.2]
      rfl

end

theorem IsShort.isWritable {value : Value} (short : value.IsShort) : value.isWritable = true :=
  isWritableWithin_of_isShort [] value short

theorem IsShort.written_ne_error {value : Value} (short : value.IsShort) (fault : CompileError) :
    value.written ≠ .error fault := by
  intro fails
  have tooLong := (written_eq_error_iff.mp fails).1
  rw [short.isWritable] at tooLong
  contradiction

theorem mapM_written_ne_error {values : List Value} (short : ∀ value ∈ values, value.IsShort)
    (fault : CompileError) : values.mapM Value.written ≠ .error fault := by
  intro fails
  obtain ⟨value, member, tooLong⟩ := (mapM_written_eq_error_iff.mp fails).1
  rw [(short value member).isWritable] at tooLong
  contradiction

end Value

/-- A cause is reported as it is where the values that its wording shows are short. -/
theorem CompileError.reported_of_isShort {error : CompileError}
    (short : ∀ value ∈ error.shown, value.IsShort) : error.reported = error := by
  have areWritable : error.shown.all Value.isWritable = true :=
    List.all_eq_true.mpr fun value member => (short value member).isWritable
  rw [reported, if_pos areWritable]

theorem CompileError.false_of_reported_numberTooLong {α : Type} {error : CompileError}
    (fails : (.error error.reported : Except CompileError α) = .error .numberTooLong)
    (other : error ≠ .numberTooLong) (short : ∀ value ∈ error.shown, value.IsShort) : False := by
  rw [reported_of_isShort short] at fails
  exact other (Except.error.inj fails)

namespace Mapping

variable {entries body definition : Mapping}

theorem AreShort.get? (short : entries.AreShort) {key : Key} {value : Value}
    (found : entries.get? key = some value) : value.IsShort := by
  obtain ⟨entry, isFound, rfl⟩ := Option.map_eq_some_iff.mp found
  exact (short entry (List.mem_of_find?_eq_some isFound)).2

theorem AreShort.insert (short : entries.AreShort) {key value : Value} (keyShort : key.IsShort)
    (valueShort : value.IsShort) : (entries.insert key value).AreShort := by
  induction entries with
  | nil => exact List.forall_mem_singleton.mpr ⟨keyShort, valueShort⟩
  | cons entry entries induction =>
      rw [AreShort, List.forall_mem_cons] at short
      rw [Mapping.insert, AreShort]
      split
      · exact List.forall_mem_cons.mpr ⟨⟨short.1.1, valueShort⟩, short.2⟩
      · exact List.forall_mem_cons.mpr ⟨short.1, induction short.2⟩

theorem AreShort.insertAll (bodyShort : body.AreShort) (definitionShort : definition.AreShort) :
    (body.insertAll definition).AreShort := by
  induction definition generalizing body with
  | nil => exact bodyShort
  | cons entry definition induction =>
      rw [AreShort, List.forall_mem_cons] at definitionShort
      exact induction (bodyShort.insert definitionShort.1.1 definitionShort.1.2) definitionShort.2

theorem AreShort.overlay (bodyShort : body.AreShort) (definitionShort : definition.AreShort) :
    (Template.overlay body definition).AreShort := by
  intro entry member
  exact bodyShort.insertAll definitionShort entry (List.mem_filter.mp member).1

end Mapping

theorem Mapping.AreShort.property? {entries : Mapping} (short : entries.AreShort) {name : String}
    {value : Value} (found : Mapping.property? entries name = some value) : value.IsShort :=
  short.get? found

theorem Value.IsShort.property {value : Value} (short : value.IsShort) (name : String) :
    (value.property name).IsShort := by
  rw [Value.property]
  cases found : Mapping.property? value.entries name with
  | none => exact isShort_null
  | some own => exact short.areShort.get? found

namespace Column

variable {table : String} {name definition : Value} {properties templates : Mapping}

theorem typeText_ne_of_areShort (type : String) (nameShort : name.IsShort)
    (short : properties.AreShort) :
    typeText table name properties type ≠ .error .numberTooLong := by
  intro fails
  rw [typeText] at fails
  split at fails
  · rename_i length found
    exact (short.property? found).written_ne_error _ (bind_pure_eq_error_iff.mp fails)
  · split at fails
    · split at fails
      · exact CompileError.false_of_reported_numberTooLong fails (by simp)
          (List.forall_mem_singleton.mpr nameShort)
      · rename_i values found
        exact Value.mapM_written_ne_error (short.property? found).items _
          (bind_pure_eq_error_iff.mp fails)
    · contradiction

theorem defaultText_ne_of_areShort (short : properties.AreShort) :
    defaultText properties ≠ .error .numberTooLong := by
  intro fails
  rw [defaultText] at fails
  split at fails
  · contradiction
  · rename_i default found
    exact (short.property? found).written_ne_error _ (bind_pure_eq_error_iff.mp fails)

theorem ofProperties_ne_of_areShort (nameShort : name.IsShort) (short : properties.AreShort) :
    ofProperties table name properties ≠ .error .numberTooLong := by
  intro fails
  rw [ofProperties] at fails
  split at fails
  · exact CompileError.false_of_reported_numberTooLong fails (by simp)
      (List.forall_mem_singleton.mpr nameShort)
  · rename_i type found
    simp only [bind_eq_error_iff] at fails
    rcases fails with tooLong | ⟨typeName, -, typeFails | ⟨typeFragment, -, defaultFails |
      ⟨defaultFragment, -, leftover⟩⟩⟩
    · exact (short.property? found).written_ne_error _ tooLong
    · exact typeText_ne_of_areShort _ nameShort short typeFails
    · exact defaultText_ne_of_areShort short defaultFails
    · split at leftover
      · rename_i extra isExtra
        have extraShort := (short extra (List.mem_of_find?_eq_some isExtra)).1
        refine CompileError.false_of_reported_numberTooLong leftover (by simp) ?_
        simpa [CompileError.shown] using ⟨extraShort, nameShort⟩
      · exact nameShort.written_ne_error _ (bind_pure_eq_error_iff.mp leftover)

end Column

namespace Template

variable {table : String} {column : Value} {definition templates properties : Mapping}

theorem areShort_of_bodyProperties {template body : Value} (bodyShort : body.IsShort)
    (found : bodyProperties template body = .ok properties) : properties.AreShort := by
  cases body with
  | null =>
      cases found
      exact List.forall_mem_nil _
  | map mark entries =>
      cases found
      exact bodyShort.areShort
  | _ => contradiction

theorem areShort_of_expand (definitionShort : definition.AreShort)
    (templatesShort : templates.AreShort)
    (expanded : expand table column definition templates = .ok properties) :
    properties.AreShort := by
  rw [expand] at expanded
  split at expanded
  · cases expanded
    exact definitionShort
  · simp only [bind_eq_ok_iff, pure_eq_ok_iff] at expanded
    obtain ⟨body, isFound, bodyEntries, isBody, rfl⟩ := expanded
    rw [find] at isFound
    split at isFound
    · contradiction
    · split at isFound
      · contradiction
      · rename_i found
        cases isFound
        exact (areShort_of_bodyProperties (templatesShort.get? found) isBody).overlay
          definitionShort

theorem expand_ne_of_areShort (columnShort : column.IsShort)
    (definitionShort : definition.AreShort) :
    expand table column definition templates ≠ .error .numberTooLong := by
  intro fails
  rw [expand] at fails
  split at fails
  · contradiction
  · rename_i template named
    have templateShort := definitionShort.property? named
    simp only [bind_eq_error_iff] at fails
    rcases fails with unfound | ⟨body, -, malformed | ⟨entries, -, made⟩⟩
    · rw [find] at unfound
      split at unfound
      · cases unfound
      · split at unfound
        · refine CompileError.false_of_reported_numberTooLong unfound (by simp) ?_
          simpa [CompileError.shown] using ⟨templateShort, columnShort⟩
        · contradiction
    · cases body with
      | null => contradiction
      | map mark entries => contradiction
      | _ =>
          exact CompileError.false_of_reported_numberTooLong malformed (by simp)
            (List.forall_mem_singleton.mpr templateShort)
    · contradiction

end Template

theorem Column.ofDefinition_ne_of_isShort {table : String} {name definition : Value}
    {templates : Mapping} (nameShort : name.IsShort) (short : definition.IsShort)
    (templatesShort : templates.AreShort) :
    ofDefinition table name definition templates ≠ .error .numberTooLong := by
  intro fails
  simp only [ofDefinition, bind_eq_error_iff] at fails
  rcases fails with malformed | ⟨own, isOwn, unexpanded | ⟨properties, expanded, unmade⟩⟩
  · cases definition with
    | null => contradiction
    | map mark entries => contradiction
    | _ =>
        exact CompileError.false_of_reported_numberTooLong malformed (by simp)
          (List.forall_mem_singleton.mpr nameShort)
  all_goals
    have ownShort : own.AreShort := by
      cases definition with
      | null =>
          cases isOwn
          exact List.forall_mem_nil _
      | map mark entries =>
          cases isOwn
          exact short.areShort
      | _ => contradiction
  · exact Template.expand_ne_of_areShort nameShort ownShort unexpanded
  · exact ofProperties_ne_of_areShort nameShort
      (Template.areShort_of_expand ownShort templatesShort expanded) unmade

namespace Constraint

variable {table : String} {entries : Mapping}

theorem required_ne (table : String) (entries : Mapping) (field : ConstraintField) :
    required table entries field ≠ .error .numberTooLong := by
  rw [required]
  split <;> simp

theorem isShort_of_required (short : entries.AreShort) {field : ConstraintField} {value : Value}
    (found : required table entries field = .ok value) : value.IsShort := by
  rw [required] at found
  split at found
  · contradiction
  · rename_i isProperty
    cases found
    exact short.property? isProperty

theorem ofEntries_ne_of_areShort (short : entries.AreShort) :
    ofEntries table entries ≠ .error .numberTooLong := by
  intro fails
  rw [ofEntries] at fails
  split at fails
  · cases fails
  · rename_i type typed
    split at fails
    · cases fails
    · split at fails
      · simp only [primaryOfEntries, ↓bind_pure_eq_error_iff, bind_eq_error_iff] at fails
        rcases fails with missing | ⟨columns, found, tooLong⟩
        · exact required_ne _ _ _ missing
        · exact Value.mapM_written_ne_error (isShort_of_required short found).items _ tooLong
      · split at fails
        · simp only [foreignOfEntries, ↓bind_pure_eq_error_iff, bind_eq_error_iff] at fails
          rcases fails with missing | ⟨column, isColumn, missing | ⟨reference, isReference,
            missing | ⟨referenced, isReferenced, tooLong | ⟨_, -, tooLong | ⟨_, -, tooLong⟩⟩⟩⟩⟩
          · exact required_ne _ _ _ missing
          · exact required_ne _ _ _ missing
          · exact required_ne _ _ _ missing
          · exact (isShort_of_required short isColumn).written_ne_error _ tooLong
          · exact (isShort_of_required short isReferenced).written_ne_error _ tooLong
          · exact (isShort_of_required short isReference).written_ne_error _ tooLong
        · exact CompileError.false_of_reported_numberTooLong fails (by simp)
            (List.forall_mem_singleton.mpr (short.property? typed))

theorem ofValue_ne_of_isShort {value : Value} (short : value.IsShort) :
    ofValue table value ≠ .error .numberTooLong := by
  cases value with
  | null => exact ofEntries_ne_of_areShort (List.forall_mem_nil _)
  | map mark entries => exact ofEntries_ne_of_areShort short.areShort
  | _ => simp [ofValue]

end Constraint

namespace Check

/-- Whether all whole numbers in the values that a check looks at can be written. -/
def IsShort : Check → Prop
  | .tableName name => name.IsShort
  | .column _ name definition => name.IsShort ∧ definition.IsShort
  | .constraint _ value => value.IsShort
  | _ => True

theorem fault_ne_of_isShort {templates : Mapping} (templatesShort : templates.AreShort)
    {check : Check} (short : check.IsShort) : check.fault templates ≠ some .numberTooLong := by
  cases check with
  | tableName name =>
      rw [fault, Ne, fault?_eq_some_iff]
      exact short.written_ne_error _
  | column table name definition =>
      rw [fault, Ne, fault?_eq_some_iff]
      exact Column.ofDefinition_ne_of_isShort short.1 short.2 templatesShort
  | constraint table value =>
      rw [fault, Ne, fault?_eq_some_iff]
      exact Constraint.ofValue_ne_of_isShort short
  | _ =>
      rw [fault]
      split <;> simp

end Check

theorem Table.isShort_of_mem_entryChecks {entry : Value × Value} (keyShort : entry.1.IsShort)
    (short : entry.2.IsShort) {check : Check} (member : check ∈ entryChecks entry) :
    check.IsShort := by
  simp only [entryChecks, checks, columnChecks, Constraint.checks, List.mem_cons, List.mem_append,
    List.mem_map] at member
  rcases member with rfl | rfl | rfl | ⟨column, isColumn, rfl⟩ | rfl | ⟨value, isValue, rfl⟩
  · exact keyShort
  · trivial
  · trivial
  · exact (short.property "columns").areShort column isColumn
  · trivial
  · exact (short.property "constraints").listItems value isValue

namespace Schema

theorem isShort_of_mem_checks {document : Value} (short : document.IsShort) {check : Check}
    (member : check ∈ checks document) : check.IsShort := by
  simp only [checks, List.mem_cons, List.mem_flatMap] at member
  rcases member with rfl | rfl | rfl | rfl | rfl | ⟨entry, isEntry, inEntry⟩
  iterate 5 trivial
  obtain ⟨keyShort, valueShort⟩ := (short.property Section.tables.keyword).areShort entry isEntry
  exact Table.isShort_of_mem_entryChecks keyShort valueShort inEntry

/-- A document in which no whole number is too long does not fail for one. -/
theorem compileDocument_ne_of_isShort {document : Value} (short : document.IsShort) :
    compileDocument document ≠ .error .numberTooLong := by
  intro fails
  obtain ⟨before, check, after, split, -, tooLong⟩ := compileDocument_eq_error_iff.mp fails
  have member : check ∈ checks document := by
    rw [split]
    exact List.mem_append_right _ List.mem_cons_self
  exact Check.fault_ne_of_isShort (short.property Section.columnTemplates.keyword).areShort
    (isShort_of_mem_checks short member) tooLong

/-- The causes for which a document without long numbers fails are reported as they are. -/
theorem compileDocument_of_reported {document : Value} (short : document.IsShort)
    {error : CompileError} (fails : compileDocument document = .error error.reported) :
    compileDocument document = .error error := by
  rcases error.reported_eq_or with same | tooLong
  · rw [fails, same]
  · rw [tooLong] at fails
    exact absurd fails (compileDocument_ne_of_isShort short)

end Schema

end SchemaDdl
