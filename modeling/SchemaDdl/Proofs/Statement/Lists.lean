import SchemaDdl.Proofs.Column.Outcome
import SchemaDdl.Proofs.Constraint.Outcome
import SchemaDdl.Proofs.Statement.ColumnLine

/-!
# Lists in statements

The values of an enumeration and the columns of a primary key are written as lists, each item
between marks.  Where the items hold no mark, they are the parts between marks, whatever else they
hold.  Only the empty list of values is not read back: it is written as the list of the empty text.
-/

namespace SchemaDdl

namespace Text

/-- The parts between marks, from within a part that was read up to here or from between two parts.
A mark opens a part or closes the one that is open; what is not closed is no part. -/
def partsFrom (mark : Char) : Option (List Char) → List Char → List String
  | _, [] => []
  | none, c :: rest =>
      if c = mark then partsFrom mark (some []) rest else partsFrom mark none rest
  | some part, c :: rest =>
      if c = mark then String.ofList part :: partsFrom mark none rest
      else partsFrom mark (some (part ++ [c])) rest

/-- The parts of a text between marks, in order. -/
def markedParts (mark : Char) (text : String) : List String :=
  partsFrom mark none text.toList

section

variable {mark : Char}

theorem partsFrom_outside {front : List Char} (unmarked : mark ∉ front) (rest : List Char) :
    partsFrom mark none (front ++ rest) = partsFrom mark none rest := by
  induction front with
  | nil => rfl
  | cons c front induction =>
      rw [List.mem_cons, not_or] at unmarked
      rw [List.cons_append, partsFrom, if_neg (Ne.symm unmarked.1), induction unmarked.2]

theorem partsFrom_inside {content : List Char} (unmarked : mark ∉ content)
    (part rest : List Char) :
    partsFrom mark (some part) (content ++ mark :: rest) =
      String.ofList (part ++ content) :: partsFrom mark none rest := by
  induction content generalizing part with
  | nil => rw [List.nil_append, partsFrom, if_pos rfl, List.append_nil]
  | cons c content induction =>
      rw [List.mem_cons, not_or] at unmarked
      rw [List.cons_append, partsFrom, if_neg (Ne.symm unmarked.1), induction unmarked.2,
        List.append_assoc, List.singleton_append]

theorem partsFrom_marked {text : String} (unmarked : mark ∉ text.toList) (rest : List Char) :
    partsFrom mark none (mark :: (text.toList ++ [mark]) ++ rest) =
      text :: partsFrom mark none rest := by
  rw [List.cons_append, partsFrom, if_pos rfl, List.append_assoc, List.singleton_append,
    partsFrom_inside unmarked, List.nil_append, String.ofList_toList]

/-- The parts of marked texts with separators between them are the texts. -/
theorem partsFrom_intercalate {marked : String → String}
    (isMarked : ∀ text, (marked text).toList = mark :: (text.toList ++ [mark]))
    {separator : String} (separatorUnmarked : mark ∉ separator.toList) {texts : List String}
    (unmarked : ∀ text ∈ texts, mark ∉ text.toList) (rest : List Char) :
    partsFrom mark none ((separator.intercalate (texts.map marked)).toList ++ rest) =
      texts ++ partsFrom mark none rest := by
  induction texts with
  | nil => simp
  | cons text texts induction =>
      rw [List.forall_mem_cons] at unmarked
      cases texts with
      | nil =>
          rw [List.map_singleton, String.intercalate_singleton, isMarked,
            partsFrom_marked unmarked.1, List.singleton_append]
      | cons next texts =>
          rw [List.map_cons, List.map_cons, String.intercalate_cons_cons, String.toList_append,
            String.toList_append, isMarked, List.append_assoc, List.append_assoc,
            partsFrom_marked unmarked.1, partsFrom_outside separatorUnmarked,
            ← List.map_cons, induction unmarked.2, ← List.cons_append]

end

end Text

/-- Whether the texts of the items of a value hold no mark. -/
def Value.IsUnmarked (mark : Char) (value : Value) : Prop :=
  ∀ item ∈ value.items, mark ∉ item.sqlText.toList

instance (mark : Char) (value : Value) : Decidable (value.IsUnmarked mark) :=
  List.decidableBAll _ _

namespace Column

/-- A definition is accepted as a column of an enumeration type without a length, and a value is
what it has as the values of the enumeration. -/
structure ListsValues (table : String) (name definition : Value) (templates : Mapping)
    (values : Value) (column : Column) : Prop where
  accepted : ofDefinition table name definition templates = .ok column
  listed : ∃ properties type,
    Template.expand table name definition.entries templates = .ok properties ∧
      Mapping.property? properties "type" = some type ∧ isEnumType type.sqlText = true ∧
      Mapping.property? properties "length" = none ∧
      Mapping.property? properties "values" = some values

theorem ListsValues.exists_type_eq {table : String} {name definition values : Value}
    {templates : Mapping} {column : Column}
    (lists : ListsValues table name definition templates values column) :
    ∃ type, isEnumType type = true ∧
      column.type = type ++ enumList (values.items.map Value.sqlText) := by
  obtain ⟨accepted, properties, type, expanded, typed, isEnum, noLength, listed⟩ := lists
  rw [ofDefinition_eq] at accepted
  split at accepted
  · rw [expanded] at accepted
    obtain ⟨other, typeFragment, _, isType, -, made, -, -, -, rfl⟩ :=
      ofProperties_eq_ok_iff.mp accepted
    obtain rfl : other = type := Option.some.inj (isType.symm.trans typed)
    simp only [typeText, noLength, isEnum, listed, if_true, bind_eq_ok_iff,
      Value.mapM_written_eq_ok_iff, pure_eq_ok_iff] at made
    obtain ⟨_, ⟨-, rfl⟩, rfl⟩ := made
    exact ⟨other.sqlText, isEnum, rfl⟩
  · cases accepted

theorem not_mem_of_isEnumType {type : String} (isEnum : isEnumType type = true) :
    '\'' ∉ type.toList := by
  intro member
  rw [isEnumType, decide_eq_true_eq] at isEnum
  have lowered := List.mem_map_of_mem (f := Char.toLower) member
  rw [isEnum] at lowered
  exact absurd lowered (by decide)

/-- The values that the list of an enumeration shows: an empty one shows the empty text. -/
def shownValues (values : List String) : List String :=
  if values = [] then [""] else values

theorem length_shownValues_eq_iff {values : List String} :
    (shownValues values).length = values.length ↔ values ≠ [] := by
  cases values <;> simp [shownValues]

theorem eq_iff_of_shownValues_eq {values others : List String}
    (same : shownValues values = shownValues others) :
    values = others ↔ (values = [] ↔ others = []) := by
  cases values <;> cases others <;> simp_all [shownValues]

theorem enumList_eq (values : List String) :
    enumList values =
      "(" ++ ", ".intercalate ((shownValues values).map fun value => "'" ++ value ++ "'") ++
        ")" := by
  -- What separates two values closes the first one and opens the second one.
  have between : "', '" = "'" ++ ", " ++ "'" := by decide
  have opening : "('" = "(" ++ "'" := by decide
  have closing : "')" = "'" ++ ")" := by decide
  have joined : ∀ (value : String) (values : List String),
      "'" ++ "', '".intercalate (value :: values) ++ "'" =
        ", ".intercalate ((value :: values).map fun value => "'" ++ value ++ "'") := by
    intro value values
    induction values generalizing value with
    | nil => rfl
    | cons next values induction =>
        have rest := induction next
        rw [List.map_cons] at rest
        rw [String.intercalate_cons_cons, List.map_cons, List.map_cons,
          String.intercalate_cons_cons, ← rest]
        simp only [between, String.append_assoc]
  cases values with
  | nil => rfl
  | cons value values =>
      rw [shownValues, if_neg (List.cons_ne_nil value values), ← joined, enumList, opening, closing]
      simp only [String.append_assoc]

/-- The parts between apostrophes of the type of an enumeration are the values that it shows. -/
theorem markedParts_enumList {type : String} (isEnum : isEnumType type = true)
    {values : List String} (unmarked : ∀ value ∈ values, '\'' ∉ value.toList) :
    Text.markedParts '\'' (type ++ enumList values) = shownValues values := by
  have shownUnmarked : ∀ value ∈ shownValues values, '\'' ∉ value.toList := by
    rw [shownValues]
    split
    · decide
    · exact unmarked
  rw [Text.markedParts, enumList_eq, String.toList_append, String.toList_append,
    String.toList_append, List.append_assoc,
    Text.partsFrom_outside (not_mem_of_isEnumType isEnum), Text.partsFrom_outside (by decide),
    Text.partsFrom_intercalate (by simp) (by decide) shownUnmarked]
  exact List.append_nil _

theorem ListsValues.markedParts_eq {table : String} {name definition values : Value}
    {templates : Mapping} {column : Column}
    (lists : ListsValues table name definition templates values column)
    (unmarked : values.IsUnmarked '\'') :
    Text.markedParts '\'' column.type = shownValues (values.items.map Value.sqlText) := by
  obtain ⟨type, isEnum, typeEq⟩ := lists.exists_type_eq
  rw [typeEq, markedParts_enumList isEnum (List.forall_mem_map.mpr unmarked)]

end Column

namespace Constraint

/-- A value is accepted as a primary key, and another one is what it has as its columns. -/
structure ListsColumns (table : String) (value columns : Value) (constraint : Constraint) :
    Prop where
  accepted : ofValue table value = .ok constraint
  isPrimary : Mapping.property? value.entries "type" = some (.text "primary")
  listed : Mapping.property? value.entries "columns" = some columns

theorem ListsColumns.columns_eq {table : String} {value columns : Value} {constraint : Constraint}
    (lists : ListsColumns table value columns constraint) :
    constraint.columns = identifierList (columns.items.map Value.sqlText) := by
  have accepted := lists.accepted
  rw [ofValue_of_primary lists.isPrimary, primaryOfEntries_of_found lists.listed] at accepted
  obtain ⟨_, written, rfl⟩ := exists_of_map_eq_ok accepted
  rw [← (Value.mapM_written_eq_ok_iff.mp written).2]
  rfl

/-- The parts between accents of a list of identifiers are the identifiers. -/
theorem markedParts_identifierList {names : List String}
    (unmarked : ∀ name ∈ names, '`' ∉ name.toList) :
    Text.markedParts '`' (identifierList names) = names := by
  rw [Text.markedParts, identifierList, String.toList_append, String.toList_append,
    List.append_assoc, Text.partsFrom_outside (by decide),
    Text.partsFrom_intercalate Identifier.toList_quoted (by decide) unmarked]
  exact List.append_nil _

theorem ListsColumns.markedParts_eq {table : String} {value columns : Value}
    {constraint : Constraint} (lists : ListsColumns table value columns constraint)
    (unmarked : columns.IsUnmarked '`') :
    Text.markedParts '`' constraint.columns = columns.items.map Value.sqlText := by
  rw [lists.columns_eq, markedParts_identifierList (List.forall_mem_map.mpr unmarked)]

end Constraint

namespace Table

/-- Lists of items without marks are read back from the statement, the values of an enumeration
where there are some.  An enumeration without values shows one, and cannot be told from the one
whose only value is the empty text; a primary key without columns shows none. -/
theorem lists_read_back (table otherTable : String) :
    (∀ (name definition : Value) (templates : Mapping) (values : Value) (column : Column),
      Column.ListsValues table name definition templates values column →
      values.IsUnmarked '\'' →
      ((Text.markedParts '\'' column.type).length = values.items.length ↔ values.items ≠ []) ∧
      ∀ (otherName otherDefinition : Value) (otherTemplates : Mapping) (otherValues : Value)
        (other : Column),
        Column.ListsValues otherTable otherName otherDefinition otherTemplates otherValues other →
        otherValues.IsUnmarked '\'' → column.type = other.type →
        (values.items.map Value.sqlText = otherValues.items.map Value.sqlText ↔
          (values.items = [] ↔ otherValues.items = []))) ∧
    ∀ (value columns : Value) (constraint : Constraint),
      Constraint.ListsColumns table value columns constraint → columns.IsUnmarked '`' →
      (Text.markedParts '`' constraint.columns).length = columns.items.length ∧
      (Text.markedParts '`' constraint.columns ≠ [] ↔ columns.items ≠ []) ∧
      ∀ (otherValue otherColumns : Value) (other : Constraint),
        Constraint.ListsColumns otherTable otherValue otherColumns other →
        otherColumns.IsUnmarked '`' → constraint.columns = other.columns →
        columns.items.map Value.sqlText = otherColumns.items.map Value.sqlText := by
  constructor
  · intro name definition templates values column lists unmarked
    have shown := lists.markedParts_eq unmarked
    constructor
    · rw [shown, ← List.length_map Value.sqlText, Column.length_shownValues_eq_iff, ne_eq,
        List.map_eq_nil_iff]
    · intro _ _ _ otherValues other otherLists otherUnmarked sameType
      have sameShown : Column.shownValues (values.items.map Value.sqlText) =
          Column.shownValues (otherValues.items.map Value.sqlText) := by
        rw [← shown, sameType, otherLists.markedParts_eq otherUnmarked]
      rw [Column.eq_iff_of_shownValues_eq sameShown, List.map_eq_nil_iff, List.map_eq_nil_iff]
  · intro value columns constraint lists unmarked
    have read := lists.markedParts_eq unmarked
    refine ⟨?_, ?_, ?_⟩
    · rw [read, List.length_map]
    · rw [read, ne_eq, List.map_eq_nil_iff]
    · intro _ otherColumns other otherLists otherUnmarked sameColumns
      rw [← read, sameColumns, otherLists.markedParts_eq otherUnmarked]

/-- An enumeration over texts that look like parts of the list, with a template for its type. -/
def separators : Value :=
  .map none [(.text "values", .list none [.text ", ", .text "", .text ")", .null]),
    (.text "template", .text "choice")]

def choiceTemplates : Mapping :=
  [(.text "choice", .map none [(.text "type", .text "Enum")])]

/-- A primary key whose columns have separators in their names. -/
def separatorKey : Value :=
  .map none [(.text "type", .text "primary"),
    (.text "columns", .tuple none [.text "a, b", .int 7])]

theorem lists_read_back_of_separators :
    Column.ListsValues "orders" (.text "mark") separators choiceTemplates
        (.list none [.text ", ", .text "", .text ")", .null])
        ⟨"`mark`", "Enum(', ', '', ')', 'NULL')", "", ""⟩ ∧
      (Text.markedParts '\'' "Enum(', ', '', ')', 'NULL')").length = 4 ∧
      Constraint.ListsColumns "orders" separatorKey (.tuple none [.text "a, b", .int 7])
        ⟨"`pk__orders__a, b__7`", "PRIMARY KEY", "( `a, b`, `7` )", ""⟩ ∧
      (Text.markedParts '`' "( `a, b`, `7` )").length = 2 := by
  have listsValues : Column.ListsValues "orders" (.text "mark") separators choiceTemplates
      (.list none [.text ", ", .text "", .text ")", .null])
      ⟨"`mark`", "Enum(', ', '', ')', 'NULL')", "", ""⟩ :=
    ⟨rfl, _, _, rfl, rfl, rfl, rfl, rfl⟩
  have listsColumns : Constraint.ListsColumns "orders" separatorKey
      (.tuple none [.text "a, b", .int 7])
      ⟨"`pk__orders__a, b__7`", "PRIMARY KEY", "( `a, b`, `7` )", ""⟩ :=
    ⟨rfl, rfl, rfl⟩
  have valuesUnmarked : (Value.list none
      [.text ", ", .text "", .text ")", .null]).IsUnmarked '\'' := by decide
  have columnsUnmarked : (Value.tuple none [.text "a, b", .int 7]).IsUnmarked '`' := by decide
  obtain ⟨valuesRead, columnsRead⟩ := lists_read_back "orders" "orders"
  exact ⟨listsValues,
    (valuesRead _ _ _ _ _ listsValues valuesUnmarked).1.mpr (by simp [Value.items]),
    listsColumns, (columnsRead _ _ _ listsColumns columnsUnmarked).1⟩

/-- A definition of an enumeration with the given values. -/
def stateOf (values : List Value) : Value :=
  .map none [(.text "type", .text "enum"), (.text "values", .list none values)]

def keyWithoutColumns : Value :=
  .map none [(.text "type", .text "primary"), (.text "columns", .list none [])]

/-- Empty lists are accepted: the values of an enumeration are then those of another one, and a
primary key has no columns. -/
theorem empty_lists_accepted :
    Column.ListsValues "orders" (.text "state") (stateOf []) [] (.list none [])
        ⟨"`state`", "enum('')", "", ""⟩ ∧
      Column.ListsValues "orders" (.text "state") (stateOf [.text ""]) [] (.list none [.text ""])
        ⟨"`state`", "enum('')", "", ""⟩ ∧
      Text.markedParts '\'' "enum('')" = [""] ∧
      (Text.markedParts '\'' "enum('')").length ≠ (Value.list none []).items.length ∧
      (Value.list none []).items.map Value.sqlText ≠
        (Value.list none [.text ""]).items.map Value.sqlText ∧
      Constraint.ListsColumns "orders" keyWithoutColumns (.list none [])
        ⟨"`pk__orders`", "PRIMARY KEY", "(  )", ""⟩ ∧
      Text.markedParts '`' "(  )" = [] :=
  ⟨⟨rfl, _, _, rfl, rfl, rfl, rfl, rfl⟩, ⟨rfl, _, _, rfl, rfl, rfl, rfl, rfl⟩, by decide, by decide,
    by decide, ⟨rfl, rfl, rfl⟩, by decide⟩

end Table

end SchemaDdl
