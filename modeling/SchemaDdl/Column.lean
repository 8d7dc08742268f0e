import SchemaDdl.Template

/-!
# Columns

A column is resolved to four fragments of its line: its name, its type, its nullability and its
default.  The type carries a length between parentheses or, where it is an enumeration without a
length, the list of its values.
-/

namespace SchemaDdl

/-- An identifier between grave accents; accents inside it stay as they are. -/
def Identifier.quoted (name : String) : String :=
  "`" ++ name ++ "`"

structure Column where
  name : String
  type : String
  nullability : String
  default : String
  deriving DecidableEq

namespace Column

def cells (column : Column) : List String :=
  [column.name, column.type, column.nullability, column.default]

def nullabilityPosition : Nat := 2

def propertyNames : List String :=
  ["type", "length", "not_null", "default", "values"]

/-- Whether a key is one of the properties that a column can have. -/
def isProperty (key : Value) : Bool :=
  propertyNames.any fun name => key.key? = some (.text name)

/-- The properties of a column definition, null being read as none. -/
def definitionProperties (table : String) (name definition : Value) :
    Except CompileError Mapping :=
  match definition with
  | .null => .ok []
  | .map _ entries => .ok entries
  | _ => .error (CompileError.columnNotMapping table name).reported

/-- Whether a type is an enumeration, in letters of either case. -/
def isEnumType (type : String) : Bool :=
  type.toList.map Char.toLower = "enum".toList

/-- The list of the values of an enumeration, each between apostrophes. -/
def enumList (values : List String) : String :=
  "('" ++ "', '".intercalate values ++ "')"

/-- The nullability fragment: empty where the property is missing. -/
def nullabilityText (properties : Mapping) : String :=
  match Mapping.property? properties "not_null" with
  | none => ""
  | some notNull => if notNull.truthy then "NOT NULL" else "NULL"

/-- The default fragment: empty where the property is missing. -/
def defaultText (properties : Mapping) : Except CompileError String :=
  match Mapping.property? properties "default" with
  | none => .ok ""
  | some default => do
      let text ← default.written
      return "DEFAULT " ++ text

def typeText (table : String) (name : Value) (properties : Mapping) (type : String) :
    Except CompileError String :=
  match Mapping.property? properties "length" with
  | some length => do
      let text ← length.written
      return type ++ "(" ++ text ++ ")"
  | none =>
      if isEnumType type then
        match Mapping.property? properties "values" with
        | none => .error (CompileError.enumWithoutValues table name).reported
        | some values => do
            let texts ← values.items.mapM Value.written
            return type ++ enumList texts
      else
        .ok type

/-- The column with given properties, once its template is taken in.  Its name is the last to be
written, behind the search for further properties. -/
def ofProperties (table : String) (name : Value) (properties : Mapping) :
    Except CompileError Column :=
  match Mapping.property? properties "type" with
  | none => .error (CompileError.columnWithoutType table name).reported
  | some type => do
      let typeName ← type.written
      let type ← typeText table name properties typeName
      let default ← defaultText properties
      match properties.find? fun entry => !isProperty entry.1 with
      | some extra => .error (CompileError.unrecognizedProperty table name extra.1).reported
      | none => do
          let name ← name.written
          return {
            name := Identifier.quoted name
            type
            nullability := nullabilityText properties
            default
          }

def ofDefinition (table : String) (name definition : Value) (templates : Mapping) :
    Except CompileError Column := do
  let own ← definitionProperties table name definition
  let properties ← Template.expand table name own templates
  ofProperties table name properties

end Column

end SchemaDdl
