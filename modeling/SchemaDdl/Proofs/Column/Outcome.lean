import SchemaDdl.Proofs.Resolution.Table
import SchemaDdl.Proofs.Template.Overlay

/-!
# Outcomes of columns

What becomes of a definition as a column depends on its effective properties: on the values under
the five names that a column can have, each taken from the definition or else from its template, and
on the order of the keys where one of them is another name.
-/

namespace SchemaDdl

namespace Column

/-- Whether a key is one of the names of properties. -/
def IsKnown (key : Value) : Prop :=
  ∃ name ∈ ["type", "length", "not_null", "default", "values"], key = .text name

/-- What comes of the type of a column as its type fragment, from what there is as its length and
its values. -/
inductive TypeText (table : String) (name type : Value) :
    Option Value → Option Value → Except CompileError String → Prop
  | typeTooLong {length values : Option Value} (isTooLong : type.isWritable = false) :
      TypeText table name type length values (.error .numberTooLong)
  | lengthTooLong {length : Value} {values : Option Value} (typeIs : type.isWritable = true)
      (isTooLong : length.isWritable = false) :
      TypeText table name type (some length) values (.error .numberTooLong)
  | length {length : Value} {values : Option Value} (typeIs : type.isWritable = true)
      (lengthIs : length.isWritable = true) :
      TypeText table name type (some length) values
        (.ok (type.sqlText ++ "(" ++ length.sqlText ++ ")"))
  | withoutValues (typeIs : type.isWritable = true) (isEnum : isEnumType type.sqlText = true) :
      TypeText table name type none none
        (.error (CompileError.enumWithoutValues table name).reported)
  | valueTooLong {values : Value} (typeIs : type.isWritable = true)
      (isEnum : isEnumType type.sqlText = true)
      (isTooLong : ∃ value ∈ values.items, value.isWritable = false) :
      TypeText table name type none (some values) (.error .numberTooLong)
  | values {values : Value} (typeIs : type.isWritable = true)
      (isEnum : isEnumType type.sqlText = true)
      (valuesAre : ∀ value ∈ values.items, value.isWritable = true) :
      TypeText table name type none (some values)
        (.ok (type.sqlText ++
          ("('" ++ "', '".intercalate (values.items.map Value.sqlText) ++ "')")))
  | plain {values : Option Value} (typeIs : type.isWritable = true)
      (notEnum : isEnumType type.sqlText = false) :
      TypeText table name type none values (.ok type.sqlText)

inductive NullabilityText : Option Value → String → Prop
  | absent : NullabilityText none ""
  | notNull {value : Value} (isSet : value.truthy = true) : NullabilityText (some value) "NOT NULL"
  | null {value : Value} (isUnset : value.truthy = false) : NullabilityText (some value) "NULL"

inductive DefaultText : Option Value → Except CompileError String → Prop
  | absent : DefaultText none (.ok "")
  | tooLong {value : Value} (isTooLong : value.isWritable = false) :
      DefaultText (some value) (.error .numberTooLong)
  | present {value : Value} (valueIs : value.isWritable = true) :
      DefaultText (some value) (.ok ("DEFAULT " ++ value.sqlText))

/-- What is made of the values under names, and of keys in order: the first fault, or a column. -/
inductive Made (table : String) (name : Value) (value? : String → Option Value)
    (keys : List Value) : Except CompileError Column → Prop
  | withoutType (untyped : value? "type" = none) :
      Made table name value? keys (.error (CompileError.columnWithoutType table name).reported)
  | typeFails {type : Value} {fault : CompileError} (typed : value? "type" = some type)
      (fails : TypeText table name type (value? "length") (value? "values") (.error fault)) :
      Made table name value? keys (.error fault)
  | defaultFails {type : Value} {typeFragment : String} {fault : CompileError}
      (typed : value? "type" = some type)
      (isTypeText :
        TypeText table name type (value? "length") (value? "values") (.ok typeFragment))
      (fails : DefaultText (value? "default") (.error fault)) :
      Made table name value? keys (.error fault)
  | unrecognizedProperty {type : Value} {typeFragment defaultFragment : String}
      {before after : List Value} {extra : Value} (typed : value? "type" = some type)
      (isTypeText :
        TypeText table name type (value? "length") (value? "values") (.ok typeFragment))
      (isDefaultText : DefaultText (value? "default") (.ok defaultFragment))
      (split : keys = before ++ extra :: after) (known : ∀ key ∈ before, IsKnown key)
      (unknown : ¬ IsKnown extra) :
      Made table name value? keys
        (.error (CompileError.unrecognizedProperty table name extra).reported)
  | nameTooLong {type : Value} {typeFragment defaultFragment : String}
      (typed : value? "type" = some type)
      (isTypeText :
        TypeText table name type (value? "length") (value? "values") (.ok typeFragment))
      (isDefaultText : DefaultText (value? "default") (.ok defaultFragment))
      (known : ∀ key ∈ keys, IsKnown key) (isTooLong : name.isWritable = false) :
      Made table name value? keys (.error .numberTooLong)
  | column {type : Value} {typeFragment nullabilityFragment defaultFragment : String}
      (typed : value? "type" = some type)
      (isTypeText :
        TypeText table name type (value? "length") (value? "values") (.ok typeFragment))
      (isDefaultText : DefaultText (value? "default") (.ok defaultFragment))
      (known : ∀ key ∈ keys, IsKnown key) (nameIs : name.isWritable = true)
      (isNullabilityText : NullabilityText (value? "not_null") nullabilityFragment) :
      Made table name value? keys (.ok {
        name := "`" ++ name.sqlText ++ "`"
        type := typeFragment
        nullability := nullabilityFragment
        default := defaultFragment })

/-- What becomes of a definition as a column of a table. -/
inductive Outcome (table : String) (name definition : Value) (templates : Mapping) :
    Except CompileError Column → Prop
  | notMapping (neither : definition.isMappingOrNull = false) :
      Outcome table name definition templates
        (.error (CompileError.columnNotMapping table name).reported)
  | templateNameNotKey {template : Value}
      (named : Mapping.property? definition.entries "template" = some template)
      (holds : template.HoldsCollection) :
      Outcome table name definition templates (.error (.templateNameNotKey table name template))
  | unknownTemplate {template : Value} {key : Key}
      (named : Mapping.property? definition.entries "template" = some template)
      (isKey : template.key? = some key) (absent : Mapping.get? templates key = none) :
      Outcome table name definition templates
        (.error (CompileError.unknownTemplate table name template).reported)
  | templateNotMapping {template body : Value} {key : Key}
      (named : Mapping.property? definition.entries "template" = some template)
      (isKey : template.key? = some key) (found : Mapping.get? templates key = some body)
      (neither : body.isMappingOrNull = false) :
      Outcome table name definition templates
        (.error (CompileError.templateNotMapping template).reported)
  | effective {body : Mapping} {result : Except CompileError Column}
      (isMapping : definition.isMappingOrNull = true)
      (takesIn : Template.TakesIn definition.entries templates body)
      (made : Made table name (Template.effective? body definition.entries)
        (Template.effectiveKeys body definition.entries) result) :
      Outcome table name definition templates result

theorem isProperty_iff {key : Value} : isProperty key = true ↔ IsKnown key := by
  simp only [isProperty, IsKnown, propertyNames, List.any_eq_true, decide_eq_true_eq,
    Value.key?_eq_text_iff]

section

variable {table : String} {name type : Value} {properties : Mapping} {text : String}

theorem typeText_iff {result : Except CompileError String} :
    type.written >>= typeText table name properties = result ↔
      TypeText table name type (Mapping.property? properties "length")
        (Mapping.property? properties "values") result := by
  rw [Value.written_bind, typeText]
  generalize Mapping.property? properties "length" = length?
  generalize Mapping.property? properties "values" = values?
  constructor
  · rintro rfl
    cases typeIs : type.isWritable with
    | false => exact .typeTooLong typeIs
    | true =>
        cases length? with
        | some length =>
            simp only [if_true, Value.written_bind]
            split
            · rename_i lengthIs
              exact .length typeIs lengthIs
            · rename_i notWritable
              exact .lengthTooLong typeIs (eq_false_of_ne_true notWritable)
        | none =>
            simp only [if_true, Value.mapM_written_bind]
            split
            · rename_i isEnum
              cases values? with
              | none => exact .withoutValues typeIs isEnum
              | some values =>
                  dsimp only
                  split
                  · rename_i valuesAre
                    exact .values typeIs isEnum valuesAre
                  · rename_i notWritable
                    exact .valueTooLong typeIs isEnum (by simpa using notWritable)
            · rename_i notEnum
              exact .plain typeIs (eq_false_of_ne_true notEnum)
  · intro isText
    cases isText with
    | typeTooLong isTooLong => simp [isTooLong]
    | lengthTooLong typeIs isTooLong =>
        simp only [typeIs, if_true, Value.written_bind]
        exact if_neg (ne_true_of_eq_false isTooLong)
    | length typeIs lengthIs =>
        simp only [typeIs, if_true, Value.written_bind]
        exact if_pos lengthIs
    | withoutValues typeIs isEnum => simp [typeIs, isEnum]
    | valueTooLong typeIs isEnum isTooLong =>
        simp only [typeIs, isEnum, if_true, Value.mapM_written_bind]
        exact if_neg (by simpa using isTooLong)
    | values typeIs isEnum valuesAre =>
        simp only [typeIs, isEnum, if_true, Value.mapM_written_bind]
        exact if_pos valuesAre
    | plain typeIs notEnum => simp [typeIs, notEnum]

theorem nullabilityText_iff :
    nullabilityText properties = text ↔
      NullabilityText (Mapping.property? properties "not_null") text := by
  rw [nullabilityText]
  generalize Mapping.property? properties "not_null" = notNull?
  constructor
  · rintro rfl
    cases notNull? with
    | none => exact .absent
    | some notNull =>
        dsimp only
        split
        · rename_i isSet
          exact .notNull isSet
        · rename_i isUnset
          exact .null (eq_false_of_ne_true isUnset)
  · intro isText
    cases isText with
    | absent => rfl
    | notNull isSet => exact if_pos isSet
    | null isUnset => exact if_neg (ne_true_of_eq_false isUnset)

theorem defaultText_iff {result : Except CompileError String} :
    defaultText properties = result ↔
      DefaultText (Mapping.property? properties "default") result := by
  rw [defaultText]
  generalize Mapping.property? properties "default" = default?
  constructor
  · rintro rfl
    cases default? with
    | none => exact .absent
    | some default =>
        simp only [Value.written_bind]
        split
        · rename_i valueIs
          exact .present valueIs
        · rename_i notWritable
          exact .tooLong (eq_false_of_ne_true notWritable)
  · intro isText
    cases isText with
    | absent => rfl
    | tooLong isTooLong =>
        exact (Value.written_bind _ _).trans (if_neg (ne_true_of_eq_false isTooLong))
    | present valueIs => exact (Value.written_bind _ _).trans (if_pos valueIs)

theorem ofProperties_of_untyped (untyped : Mapping.property? properties "type" = none) :
    ofProperties table name properties =
      .error (CompileError.columnWithoutType table name).reported := by
  rw [ofProperties, untyped]

/-- Properties with a type make the fragments of its type and of the default first, and then a
column unless one of their keys is unknown. -/
theorem ofProperties_of_typed (typed : Mapping.property? properties "type" = some type) :
    ofProperties table name properties =
      type.written >>= typeText table name properties >>= fun typeFragment =>
        defaultText properties >>= fun defaultFragment =>
          match (properties.map Prod.fst).find? (fun key => !isProperty key) with
          | some extra => .error (CompileError.unrecognizedProperty table name extra).reported
          | none =>
              if name.isWritable then .ok {
                name := Identifier.quoted name.sqlText
                type := typeFragment
                nullability := nullabilityText properties
                default := defaultFragment }
              else .error .numberTooLong := by
  rw [ofProperties, typed]
  simp only [List.find?_map, Function.comp_def, bind_assoc]
  cases properties.find? fun entry => !isProperty entry.1 with
  | some extra => rfl
  | none => simp only [Option.map_none, Value.written_bind name]; rfl

theorem find?_not_isProperty_eq_none_iff {keys : List Value} :
    (keys.find? fun key => !isProperty key) = none ↔ ∀ key ∈ keys, IsKnown key := by
  simp [← isProperty_iff]

theorem find?_not_isProperty_eq_some_iff {keys : List Value} {extra : Value} :
    (keys.find? fun key => !isProperty key) = some extra ↔
      ∃ before after, keys = before ++ extra :: after ∧ (∀ key ∈ before, IsKnown key) ∧
        ¬ IsKnown extra := by
  rw [List.find?_eq_some_iff_append]
  simp only [Bool.not_eq_true', ← isProperty_iff, Bool.not_not, Bool.not_eq_true]
  constructor
  · rintro ⟨unknown, before, after, split, known⟩
    exact ⟨before, after, split, known, unknown⟩
  · rintro ⟨before, after, split, known, unknown⟩
    exact ⟨unknown, before, after, split, known⟩

theorem made_ofProperties (table : String) (name : Value) (properties : Mapping) :
    Made table name (Mapping.property? properties) (properties.map Prod.fst)
      (ofProperties table name properties) := by
  cases typed : Mapping.property? properties "type" with
  | none =>
      rw [ofProperties_of_untyped typed]
      exact .withoutType typed
  | some type =>
      rw [ofProperties_of_typed typed]
      cases typeMade : type.written >>= typeText table name properties with
      | error fault => exact .typeFails typed (typeText_iff.mp typeMade)
      | ok typeFragment =>
          have isTypeText := typeText_iff.mp typeMade
          cases defaultMade : defaultText properties with
          | error fault => exact .defaultFails typed isTypeText (defaultText_iff.mp defaultMade)
          | ok defaultFragment =>
              have isDefaultText := defaultText_iff.mp defaultMade
              dsimp only [bind, Except.bind]
              cases found : (properties.map Prod.fst).find? fun key => !isProperty key with
              | some extra =>
                  obtain ⟨before, after, split, known, unknown⟩ :=
                    find?_not_isProperty_eq_some_iff.mp found
                  exact .unrecognizedProperty typed isTypeText isDefaultText split known unknown
              | none =>
                  have known := find?_not_isProperty_eq_none_iff.mp found
                  dsimp only
                  split
                  · rename_i nameIs
                    exact .column typed isTypeText isDefaultText known nameIs
                      (nullabilityText_iff.mp rfl)
                  · rename_i notWritable
                    exact .nameTooLong typed isTypeText isDefaultText known
                      (eq_false_of_ne_true notWritable)

/-- Properties make what their values and keys make. -/
theorem ofProperties_eq_iff_made {result : Except CompileError Column} :
    ofProperties table name properties = result ↔
      Made table name (Mapping.property? properties) (properties.map Prod.fst) result := by
  constructor
  · rintro rfl
    exact made_ofProperties table name properties
  · intro made
    cases made with
    | withoutType untyped => exact ofProperties_of_untyped untyped
    | typeFails typed fails =>
        rw [ofProperties_of_typed typed, typeText_iff.mpr fails]
        rfl
    | defaultFails typed isTypeText fails =>
        rw [ofProperties_of_typed typed, typeText_iff.mpr isTypeText, defaultText_iff.mpr fails]
        rfl
    | unrecognizedProperty typed isTypeText isDefaultText split known unknown =>
        rw [ofProperties_of_typed typed, typeText_iff.mpr isTypeText,
          defaultText_iff.mpr isDefaultText,
          find?_not_isProperty_eq_some_iff.mpr ⟨_, _, split, known, unknown⟩]
        rfl
    | nameTooLong typed isTypeText isDefaultText known isTooLong =>
        rw [ofProperties_of_typed typed, typeText_iff.mpr isTypeText,
          defaultText_iff.mpr isDefaultText, find?_not_isProperty_eq_none_iff.mpr known, isTooLong]
        rfl
    | column typed isTypeText isDefaultText known nameIs isNullabilityText =>
        rw [ofProperties_of_typed typed, typeText_iff.mpr isTypeText,
          defaultText_iff.mpr isDefaultText, find?_not_isProperty_eq_none_iff.mpr known, nameIs,
          nullabilityText_iff.mpr isNullabilityText]
        rfl

end

section

variable {table : String} {name definition template : Value} {templates : Mapping}

theorem ofDefinition_eq (table : String) (name definition : Value) (templates : Mapping) :
    ofDefinition table name definition templates =
      if definition.isMappingOrNull then
        Template.expand table name definition.entries templates >>= ofProperties table name
      else .error (CompileError.columnNotMapping table name).reported := by
  cases definition <;> rfl

theorem ofDefinition_of_not_mapping (neither : definition.isMappingOrNull = false) :
    ofDefinition table name definition templates =
      .error (CompileError.columnNotMapping table name).reported := by
  rw [ofDefinition_eq, neither]
  rfl

/-- A definition fails as the template does that it names. -/
theorem ofDefinition_of_expand_error {fault : CompileError}
    (named : Mapping.property? definition.entries "template" = some template)
    (fails : Template.expand table name definition.entries templates = .error fault) :
    ofDefinition table name definition templates = .error fault := by
  rw [ofDefinition_eq, if_pos (Value.isMappingOrNull_of_property? named), fails]
  rfl

theorem ofDefinition_eq_iff_made {body : Mapping} {result : Except CompileError Column}
    (distinct : definition.entries.keys.Nodup) (isMapping : definition.isMappingOrNull = true)
    (takesIn : Template.TakesIn definition.entries templates body) :
    ofDefinition table name definition templates = result ↔
      Made table name (Template.effective? body definition.entries)
        (Template.effectiveKeys body definition.entries) result := by
  obtain ⟨properties, expanded, values, keys⟩ :=
    Template.exists_expand_of_takesIn table name distinct takesIn
  rw [ofDefinition_eq, if_pos isMapping, expanded, ← values, ← keys]
  exact ofProperties_eq_iff_made

theorem outcome_ofDefinition (table : String) (name : Value) (templates : Mapping)
    (distinct : definition.entries.keys.Nodup) :
    Outcome table name definition templates (ofDefinition table name definition templates) := by
  cases isMapping : definition.isMappingOrNull with
  | false =>
      rw [ofDefinition_of_not_mapping isMapping]
      exact .notMapping isMapping
  | true =>
      have takenIn : ∀ body, Template.TakesIn definition.entries templates body →
          Outcome table name definition templates
            (ofDefinition table name definition templates) := by
        intro body takesIn
        exact .effective isMapping takesIn
          ((ofDefinition_eq_iff_made distinct isMapping takesIn).mp rfl)
      cases named : Mapping.property? definition.entries "template" with
      | none => exact takenIn [] (.unnamed named)
      | some template =>
          cases isKey : template.key? with
          | none =>
              have holds := (Value.key?_eq_none_iff template).mp isKey
              rw [ofDefinition_of_expand_error named
                (Template.expand_of_holdsCollection named holds)]
              exact .templateNameNotKey named holds
          | some key =>
              cases found : Mapping.get? templates key with
              | none =>
                  rw [ofDefinition_of_expand_error named
                    (Template.expand_of_unknown named isKey found)]
                  exact .unknownTemplate named isKey found
              | some body =>
                  cases bodyIsMapping : body.isMappingOrNull with
                  | false =>
                      rw [ofDefinition_of_expand_error named
                        (Template.expand_of_not_mapping named isKey found bodyIsMapping)]
                      exact .templateNotMapping named isKey found bodyIsMapping
                  | true => exact takenIn body.entries (.named named isKey found bodyIsMapping)

/-- A definition without a repeated key becomes, as a column of a table, just what its outcome
is. -/
theorem ofDefinition_eq_iff_outcome (table : String) (name : Value) (templates : Mapping)
    (distinct : definition.entries.keys.Nodup) (result : Except CompileError Column) :
    ofDefinition table name definition templates = result ↔
      Outcome table name definition templates result := by
  constructor
  · rintro rfl
    exact outcome_ofDefinition table name templates distinct
  · intro outcome
    cases outcome with
    | notMapping neither => exact ofDefinition_of_not_mapping neither
    | templateNameNotKey named holds =>
        exact ofDefinition_of_expand_error named (Template.expand_of_holdsCollection named holds)
    | unknownTemplate named isKey absent =>
        exact ofDefinition_of_expand_error named (Template.expand_of_unknown named isKey absent)
    | templateNotMapping named isKey found neither =>
        exact ofDefinition_of_expand_error named
          (Template.expand_of_not_mapping named isKey found neither)
    | effective isMapping takesIn made =>
        exact (ofDefinition_eq_iff_made distinct isMapping takesIn).mpr made

end

/-- A definition that names its template by the truth value that is its key, and sets two of its
properties to values that count as unset. -/
def price : Value :=
  .map none
    [(.text "default", .null), (.text "length", .int 8), (.text "template", .bool true),
      (.text "not_null", .float (.finite true 0 0))]

def priceTemplates : Mapping :=
  [(.int 1, .map none
    [(.text "template", .text "absent"), (.text "not_null", .bool true),
      (.text "type", .text "DECIMAL"), (.text "default", .int 0)])]

theorem outcome_of_price :
    price.entries.keys.Nodup ∧
      ofDefinition "items" (.text "price") price priceTemplates =
        .ok ⟨"`price`", "DECIMAL(8)", "NULL", "DEFAULT NULL"⟩ ∧
      Outcome "items" (.text "price") price priceTemplates
        (.ok ⟨"`price`", "DECIMAL(8)", "NULL", "DEFAULT NULL"⟩) := by
  have distinct : price.entries.keys.Nodup := by decide
  have resolved : ofDefinition "items" (.text "price") price priceTemplates =
      .ok ⟨"`price`", "DECIMAL(8)", "NULL", "DEFAULT NULL"⟩ := by rfl
  exact ⟨distinct, resolved,
    (ofDefinition_eq_iff_outcome "items" (.text "price") priceTemplates distinct _).mp resolved⟩

/-- A column whose length is a number that cannot be written. -/
def longColumn : Value :=
  .map none [(.text "type", .text "INT"), (.text "length", .longNumber)]

/-- A column with a type, a length and nothing else fails where the length cannot be written. -/
theorem ofDefinition_longColumn :
    longColumn.entries.keys.Nodup ∧ Mapping.property? longColumn.entries "template" = none ∧
      Mapping.property? longColumn.entries "type" = some (.text "INT") ∧
      Mapping.property? longColumn.entries "length" = some .longNumber ∧
      (∀ key ∈ longColumn.entries.map Prod.fst, IsKnown key) ∧
      ofDefinition "t" (.text "a") longColumn [] = .error .numberTooLong := by
  have distinct : longColumn.entries.keys.Nodup := by decide
  refine ⟨distinct, rfl, rfl, rfl, ?_, ?_⟩
  · simp [longColumn, Value.entries, IsKnown]
  · have fails : TypeText "t" (.text "a") (.text "INT") (some .longNumber) none
        (.error .numberTooLong) := .lengthTooLong rfl Value.isWritable_longNumber
    exact (ofDefinition_eq_iff_made distinct rfl (.unnamed rfl)).mpr (.typeFails rfl fails)

end Column

end SchemaDdl
