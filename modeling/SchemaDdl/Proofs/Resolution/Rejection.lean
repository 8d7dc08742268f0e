import SchemaDdl.Proofs.Resolution.LongNumber

/-!
# Rejections

The name of a template and the type of a constraint are looked up, so they have to be keys.  A value
is a key unless it holds a list, a set or a mapping.  A document compiles or is rejected with a
report, unless the first of its checks that does not pass looks up a value that is no key, or needs
the text of a number that is too long to be written.
-/

namespace SchemaDdl

namespace Key

theorem ofBinary_ne_text (halvings : Nat) (mantissa exponent : Int) (text : String) :
    ofBinary halvings mantissa exponent ≠ .text text := by
  induction halvings generalizing mantissa exponent with
  | zero => simp [ofBinary]
  | succ halvings induction =>
      rw [ofBinary]
      split
      · exact induction _ _
      · simp

theorem ofNumber_ne_text (mantissa exponent : Int) (text : String) :
    ofNumber mantissa exponent ≠ .text text := by
  rw [ofNumber]
  split
  · simp
  · exact ofBinary_ne_text _ _ _ _

theorem ofItems_ne_text (keys : List Key) (text : String) : ofItems keys ≠ .text text := by
  cases keys <;> simp [ofItems]

end Key

namespace Value

/-- Whether a value is a list, a set or a mapping, or a tuple with such a value in it. -/
inductive HoldsCollection : Value → Prop
  | list (mark : Option Nat) (items : List Value) : HoldsCollection (.list mark items)
  | set (mark : Option Nat) (items : List Value) : HoldsCollection (.set mark items)
  | map (mark : Option Nat) (entries : Mapping) : HoldsCollection (.map mark entries)
  | tuple (mark : Option Nat) {items : List Value} {item : Value} (member : item ∈ items)
      (holds : HoldsCollection item) : HoldsCollection (.tuple mark items)

theorem holdsCollection_tuple_iff {mark : Option Nat} {items : List Value} :
    HoldsCollection (.tuple mark items) ↔ ∃ item ∈ items, HoldsCollection item := by
  constructor
  · rintro (_ | _ | _ | ⟨_, member, holds⟩)
    exact ⟨_, member, holds⟩
  · rintro ⟨item, member, holds⟩
    exact .tuple mark member holds

theorem not_holdsCollection_null : ¬ HoldsCollection .null := by
  rintro ⟨⟩

/-- A property of a value that is no mapping is read as null. -/
theorem not_holdsCollection_property {value : Value} (empty : value.entries = [])
    (name : String) : ¬ (value.property name).HoldsCollection := by
  rw [property, empty]
  exact not_holdsCollection_null

mutual

theorem key?_eq_none_iff : ∀ value : Value, value.key? = none ↔ value.HoldsCollection
  | .list mark items => iff_of_true rfl (.list mark items)
  | .set mark items => iff_of_true rfl (.set mark items)
  | .map mark entries => iff_of_true rfl (.map mark entries)
  | .tuple mark items => by
      rw [key?, Option.map_eq_none_iff, itemKeys?_eq_none_iff items, holdsCollection_tuple_iff]
  | .float (.finite negative mantissa exponent) => iff_of_false nofun nofun
  | .float (.infinite negative) => iff_of_false nofun nofun
  | .float (.nan origin) => iff_of_false nofun nofun
  | .moment value => by
      refine iff_of_false ?_ nofun
      rw [key?]
      cases value.instant? <;> simp
  | .null | .bool _ | .int _ | .text _ | .bytes _ | .date _ => iff_of_false nofun nofun

theorem itemKeys?_eq_none_iff :
    ∀ items : List Value, itemKeys? items = none ↔ ∃ item ∈ items, item.HoldsCollection
  | [] => by simp [itemKeys?]
  | item :: items => by
      rw [List.exists_mem_cons_iff, ← key?_eq_none_iff item, ← itemKeys?_eq_none_iff items,
        itemKeys?]
      cases key? item <;> cases itemKeys? items <;> simp

end

/-- Only a text is the key that a text is. -/
theorem key?_eq_text_iff {value : Value} {text : String} :
    value.key? = some (.text text) ↔ value = .text text := by
  constructor
  · intro isKey
    cases value with
    | text own => simpa [key?] using isKey
    | bool own => simp [key?, Key.ofNumber_ne_text] at isKey
    | int own => simp [key?, Key.ofNumber_ne_text] at isKey
    | float own => cases own <;> simp [key?, Key.ofNumber_ne_text] at isKey
    | tuple mark items =>
        rw [key?, Option.map_eq_some_iff] at isKey
        obtain ⟨keys, -, same⟩ := isKey
        exact absurd same (Key.ofItems_ne_text keys text)
    | moment own =>
        rw [key?] at isKey
        cases instant : own.instant? <;> simp [instant] at isKey
    | _ => simp [key?] at isKey
  · rintro rfl
    rfl

end Value

namespace CompileError

/-- Whether a cause is reported, or is a number that is too long for a report or for the SQL
text. -/
def IsReported (error : CompileError) : Prop :=
  error.isRejection = true ∨ error = .numberTooLong

theorem isReported_reported {error : CompileError} (rejects : error.isRejection = true) :
    error.reported.IsReported := by
  rcases error.reported_eq_or with same | tooLong
  · rw [same]
    exact .inl rejects
  · exact .inr tooLong

theorem isRejection_eq_false_iff {error : CompileError} :
    error.isRejection = false ↔ ¬error.IsReported ∨ error = .numberTooLong := by
  cases error <;> simp [IsReported, isRejection, message?]

end CompileError

theorem Value.isReported_of_written {value : Value} {error : CompileError}
    (fails : value.written = .error error) : error.IsReported :=
  .inr (written_eq_error_iff.mp fails).2

theorem Value.isReported_of_mapM_written {values : List Value} {error : CompileError}
    (fails : values.mapM written = .error error) : error.IsReported :=
  .inr (mapM_written_eq_error_iff.mp fails).2

namespace Column

theorem isReported_of_typeText {table type : String} {name : Value} {properties : Mapping}
    {error : CompileError} (fails : typeText table name properties type = .error error) :
    error.IsReported := by
  rw [typeText] at fails
  split at fails
  · exact Value.isReported_of_written (bind_pure_eq_error_iff.mp fails)
  · split at fails
    · split at fails
      · cases fails
        exact CompileError.isReported_reported rfl
      · exact Value.isReported_of_mapM_written (bind_pure_eq_error_iff.mp fails)
    · contradiction

theorem isReported_of_defaultText {properties : Mapping} {error : CompileError}
    (fails : defaultText properties = .error error) : error.IsReported := by
  rw [defaultText] at fails
  split at fails
  · contradiction
  · exact Value.isReported_of_written (bind_pure_eq_error_iff.mp fails)

theorem isReported_of_ofProperties {table : String} {name : Value} {properties : Mapping}
    {error : CompileError} (fails : ofProperties table name properties = .error error) :
    error.IsReported := by
  rw [ofProperties] at fails
  split at fails
  · cases fails
    exact CompileError.isReported_reported rfl
  · simp only [bind_eq_error_iff] at fails
    rcases fails with long | ⟨typeName, -, untyped | ⟨typeFragment, -, unwritten |
      ⟨defaultFragment, -, leftover⟩⟩⟩
    · exact Value.isReported_of_written long
    · exact isReported_of_typeText untyped
    · exact isReported_of_defaultText unwritten
    · split at leftover
      · cases leftover
        exact CompileError.isReported_reported rfl
      · exact Value.isReported_of_written (bind_pure_eq_error_iff.mp leftover)

end Column

namespace Template

/-- Taking in a template fails with a report where its name is a key. -/
theorem isReported_of_expand {table : String} {column template : Value}
    {definition templates : Mapping} {error : CompileError}
    (named : Mapping.property? definition keyword = some template)
    (isKey : template.key? ≠ none)
    (fails : expand table column definition templates = .error error) :
    error.IsReported := by
  rw [expand, named] at fails
  simp only [bind_eq_error_iff] at fails
  rcases fails with unfound | ⟨body, -, malformed | ⟨properties, -, overlaid⟩⟩
  · rw [find] at unfound
    split at unfound
    · rename_i noKey
      exact absurd noKey isKey
    · split at unfound
      · cases unfound
        exact CompileError.isReported_reported rfl
      · contradiction
  · cases body with
    | null => cases malformed
    | map mark entries => cases malformed
    | _ =>
        cases malformed
        exact CompileError.isReported_reported rfl
  · contradiction

end Template

namespace Constraint

theorem isReported_of_required {table : String} {entries : Mapping} {field : ConstraintField}
    {error : CompileError} (fails : required table entries field = .error error) :
    error.IsReported := by
  rw [required] at fails
  split at fails
  · cases fails
    exact .inl rfl
  · contradiction

theorem isReported_of_primaryOfEntries {table : String} {entries : Mapping} {error : CompileError}
    (fails : primaryOfEntries table entries = .error error) : error.IsReported := by
  simp only [primaryOfEntries, ↓bind_pure_eq_error_iff, bind_eq_error_iff] at fails
  rcases fails with missing | ⟨columns, -, long⟩
  · exact isReported_of_required missing
  · exact Value.isReported_of_mapM_written long

theorem isReported_of_foreignOfEntries {table : String} {entries : Mapping} {error : CompileError}
    (fails : foreignOfEntries table entries = .error error) : error.IsReported := by
  simp only [foreignOfEntries, ↓bind_pure_eq_error_iff, bind_eq_error_iff] at fails
  rcases fails with missing | ⟨_, -, missing | ⟨_, -, missing | ⟨_, -, unwritten⟩⟩⟩
  · exact isReported_of_required missing
  · exact isReported_of_required missing
  · exact isReported_of_required missing
  · rcases unwritten with long | ⟨_, -, long | ⟨_, -, long⟩⟩
    · exact Value.isReported_of_written long
    · exact Value.isReported_of_written long
    · exact Value.isReported_of_written long

/-- A constraint fails with a report where its type is a key. -/
theorem isReported_of_ofEntries {table : String} {type : Value} {entries : Mapping}
    {error : CompileError} (typed : Mapping.property? entries "type" = some type)
    (isKey : type.key? ≠ none) (fails : ofEntries table entries = .error error) :
    error.IsReported := by
  rw [ofEntries, typed] at fails
  simp only at fails
  split at fails
  · rename_i noKey
    exact absurd noKey isKey
  · split at fails
    · exact isReported_of_primaryOfEntries fails
    · split at fails
      · exact isReported_of_foreignOfEntries fails
      · cases fails
        exact CompileError.isReported_reported rfl

theorem holdsCollection_iff_ofValue {table : String} {value : Value} :
    (value.property "type").HoldsCollection ↔
      ∃ error, ofValue table value = .error error ∧ ¬error.IsReported := by
  cases value with
  | map mark entries =>
      rw [Value.property, Value.entries, ofValue]
      cases typed : Mapping.property? entries "type" with
      | none =>
          refine iff_of_false Value.not_holdsCollection_null ?_
          rintro ⟨error, fails, unreported⟩
          rw [ofEntries, typed] at fails
          cases fails
          exact unreported (.inl rfl)
      | some type =>
          rw [Option.getD_some, ← Value.key?_eq_none_iff]
          constructor
          · intro noKey
            refine ⟨.constraintTypeNotKey table type, ?_, by simp [CompileError.IsReported,
              CompileError.isRejection, CompileError.message?]⟩
            simp only [ofEntries, typed, noKey]
          · rintro ⟨error, fails, unreported⟩
            by_contra isKey
            exact unreported (isReported_of_ofEntries typed isKey fails)
  | _ =>
      refine iff_of_false (Value.not_holdsCollection_property rfl _) ?_
      rintro ⟨error, fails, unreported⟩
      cases fails
      exact unreported (.inl rfl)

end Constraint

namespace Column

theorem holdsCollection_iff_ofDefinition {table : String} {name definition : Value}
    {templates : Mapping} :
    (definition.property Template.keyword).HoldsCollection ↔
      ∃ error, ofDefinition table name definition templates = .error error ∧
        ¬error.IsReported := by
  cases definition with
  | map mark own =>
      rw [Value.property, Value.entries, ofDefinition, definitionProperties]
      simp only [bind_eq_error_iff, reduceCtorEq, Except.ok.injEq, exists_eq_left', false_or]
      cases named : Mapping.property? own Template.keyword with
      | none =>
          refine iff_of_false Value.not_holdsCollection_null ?_
          rintro ⟨error, unexpanded | ⟨properties, -, fails⟩, unreported⟩
          · rw [Template.expand, named] at unexpanded
            contradiction
          · exact unreported (isReported_of_ofProperties fails)
      | some template =>
          rw [Option.getD_some, ← Value.key?_eq_none_iff]
          constructor
          · intro noKey
            refine ⟨.templateNameNotKey table name template, .inl ?_, by simp
              [CompileError.IsReported, CompileError.isRejection, CompileError.message?]⟩
            simp only [Template.expand, named, Template.find, noKey]
            rfl
          · rintro ⟨error, unexpanded | ⟨properties, -, fails⟩, unreported⟩
            · by_contra isKey
              exact unreported (Template.isReported_of_expand named isKey unexpanded)
            · exact absurd (isReported_of_ofProperties fails) unreported
  | null =>
      refine iff_of_false (Value.not_holdsCollection_property rfl _) ?_
      rintro ⟨error, fails, unreported⟩
      have unnamed : Mapping.property? [] Template.keyword = none := rfl
      simp only [ofDefinition, definitionProperties, bind_eq_error_iff, reduceCtorEq,
        Except.ok.injEq, exists_eq_left', false_or, Template.expand, unnamed] at fails
      exact unreported (isReported_of_ofProperties fails)
  | _ =>
      refine iff_of_false (Value.not_holdsCollection_property rfl _) ?_
      rintro ⟨error, fails, unreported⟩
      cases fails
      exact unreported (CompileError.isReported_reported rfl)

end Column

namespace Check

/-- Whether a check looks up a value that holds a collection, as the name of a template or as the
type of a constraint. -/
def LooksUpCollection : Check → Prop
  | .column _ _ definition => (definition.property Template.keyword).HoldsCollection
  | .constraint _ value => (value.property "type").HoldsCollection
  | _ => False

/-- Whether a check needs the text of a value that cannot be written, for the SQL text or for a
report. -/
def WritesLongNumber (templates : Mapping) (check : Check) : Prop :=
  check.fault templates = some .numberTooLong

/-- The checks that fail for a lookup are those that look up a value that holds a collection; they
always do. -/
theorem looksUpCollection_iff (templates : Mapping) (check : Check) :
    check.LooksUpCollection ↔
      ∃ error, check.fault templates = some error ∧ ¬error.IsReported := by
  cases check with
  | column table name definition =>
      simp only [fault, fault?_eq_some_iff]
      exact Column.holdsCollection_iff_ofDefinition
  | constraint table value =>
      simp only [fault, fault?_eq_some_iff]
      exact Constraint.holdsCollection_iff_ofValue
  | tableName name =>
      refine iff_of_false not_false ?_
      rintro ⟨error, fails, unreported⟩
      rw [fault, fault?_eq_some_iff] at fails
      exact unreported (Value.isReported_of_written fails)
  | _ =>
      refine iff_of_false not_false ?_
      rintro ⟨error, fails, unreported⟩
      rw [fault, ite_eq_iff] at fails
      rcases fails with ⟨-, passes⟩ | ⟨-, fails⟩
      · contradiction
      · cases fails
        exact unreported (.inl rfl)

/-- The checks that fail without a rejection look up a value that holds a collection, or need the
text of one that cannot be written. -/
theorem exists_not_isRejection_iff (templates : Mapping) (check : Check) :
    (∃ error, check.fault templates = some error ∧ error.isRejection = false) ↔
      check.LooksUpCollection ∨ check.WritesLongNumber templates := by
  rw [check.looksUpCollection_iff templates, WritesLongNumber]
  simp only [CompileError.isRejection_eq_false_iff, and_or_left, exists_or, exists_eq_right]

end Check

namespace Schema

/-- Whether a document compiles, or is rejected with a report. -/
def EndsProperly (document : Value) : Prop :=
  (∃ sql, compileDocument document = .ok sql) ∨
    ∃ error, compileDocument document = .error error ∧ error.isRejection = true

/-- A document ends properly unless the first of its checks that does not pass is an improper one,
where these are all checks that can fail without a report. -/
theorem endsProperly_iff {improper : Check → Prop} (document : Value)
    (isImproper : ∀ check ∈ checks document, improper check ↔
      ∃ error, check.fault (templatesOf document) = some error ∧ error.isRejection = false) :
    EndsProperly document ↔
      ∀ before check after, checks document = before ++ check :: after →
        (∀ earlier ∈ before, earlier.fault (templatesOf document) = none) → ¬improper check := by
  have isCheck {before after : List Check} {check : Check}
      (split : checks document = before ++ check :: after) : check ∈ checks document := by
    rw [split]
    exact List.mem_append_right _ List.mem_cons_self
  constructor
  · rintro ends before check after split pass fails
    obtain ⟨error, fails, unrejected⟩ := (isImproper check (isCheck split)).mp fails
    have stops : compileDocument document = .error error :=
      compileDocument_eq_error_iff.mpr ⟨before, check, after, split, pass, fails⟩
    rcases ends with ⟨sql, compiles⟩ | ⟨other, fails, rejected⟩
    · rw [stops] at compiles
      contradiction
    · rw [stops, Except.error.injEq] at fails
      rw [← fails, unrejected] at rejected
      contradiction
  · intro proper
    cases result : compileDocument document with
    | ok sql => exact .inl ⟨sql, result⟩
    | error error =>
        obtain ⟨before, check, after, split, pass, fails⟩ := compileDocument_eq_error_iff.mp result
        refine .inr ⟨error, result, ?_⟩
        rw [← Bool.not_eq_false]
        intro unrejected
        exact proper before check after split pass
          ((isImproper check (isCheck split)).mpr ⟨error, fails, unrejected⟩)

/-- A document compiles or is rejected properly, unless the first of its checks that does not pass
looks up a value that holds a collection, or needs the text of one that cannot be written.  Where
all whole numbers of the document can be written, only the former remains. -/
theorem text_or_rejection_iff (document : Value) :
    (EndsProperly document ↔
      ∀ before check after, checks document = before ++ check :: after →
        (∀ earlier ∈ before, earlier.fault (templatesOf document) = none) →
        ¬check.LooksUpCollection ∧ ¬check.WritesLongNumber (templatesOf document)) ∧
    (document.IsShort →
      (EndsProperly document ↔
        ∀ before check after, checks document = before ++ check :: after →
          (∀ earlier ∈ before, earlier.fault (templatesOf document) = none) →
          ¬check.LooksUpCollection)) := by
  have isImproper (check : Check) :=
    (check.exists_not_isRejection_iff (templatesOf document)).symm
  constructor
  · simp only [← not_or]
    exact endsProperly_iff document fun check _ => isImproper check
  · intro short
    refine endsProperly_iff document fun check isCheck => ?_
    rw [← isImproper, or_iff_left]
    exact Check.fault_ne_of_isShort (short.property Section.columnTemplates.keyword).areShort
      (isShort_of_mem_checks short isCheck)

/-- A document with one table, whose column names a template and whose constraint has a type. -/
def orders (template type : Value) : Value :=
  .map none
    [(.text "column_templates", .map none [(.text "id", .map none [(.text "type", .text "INT")])]),
      (.text "tables", .map none
        [(.text "orders", .map none
          [(.text "columns", .map none [(.text "id", .map none [(.text "template", template)])]),
            (.text "constraints", .list none
              [.map none [(.text "type", type), (.text "columns", .text "id")]])])])]

/-- A list as the name of a template is looked up by the first check that does not pass. -/
theorem exists_lookup_of_orders :
    (orders (.list none []) (.text "primary")).IsShort ∧
      ¬EndsProperly (orders (.list none []) (.text "primary")) ∧
      ∃ before check after,
        checks (orders (.list none []) (.text "primary")) = before ++ check :: after ∧
          (∀ earlier ∈ before,
            earlier.fault (templatesOf (orders (.list none []) (.text "primary"))) = none) ∧
          check.LooksUpCollection := by
  have short : (orders (.list none []) (.text "primary")).IsShort := by
    simp [orders, Mapping.AreShort]
  have named : compileDocument (orders (.list none []) (.text "primary")) =
      .error (.templateNameNotKey "orders" (.text "id") (.list none [])) := rfl
  have improper : ¬EndsProperly (orders (.list none []) (.text "primary")) := by
    simp [EndsProperly, named, CompileError.isRejection, CompileError.message?]
  refine ⟨short, improper, ?_⟩
  simpa using ((text_or_rejection_iff _).2 short).not.mp improper

/-- A list as the name of a template, or as the type of a constraint, is not rejected. -/
theorem not_text_or_rejection_of_list :
    (compileDocument (orders (.list none []) (.text "primary")) =
        .error (.templateNameNotKey "orders" (.text "id") (.list none [])) ∧
      compileDocument (orders (.text "id") (.list none [])) =
        .error (.constraintTypeNotKey "orders" (.list none []))) ∧
    ∀ document ∈ [orders (.list none []) (.text "primary"), orders (.text "id") (.list none [])],
      ¬EndsProperly document := by
  have named : compileDocument (orders (.list none []) (.text "primary")) =
      .error (.templateNameNotKey "orders" (.text "id") (.list none [])) := rfl
  have typed : compileDocument (orders (.text "id") (.list none [])) =
      .error (.constraintTypeNotKey "orders" (.list none [])) := rfl
  refine ⟨⟨named, typed⟩, ?_⟩
  simp [EndsProperly, named, typed, CompileError.isRejection, CompileError.message?]

end Schema

end SchemaDdl
