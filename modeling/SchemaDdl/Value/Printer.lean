import SchemaDdl.Binary64.Shortest
import SchemaDdl.Text.Quoted
import SchemaDdl.Value

/-!
# Texts of values

A value has a literal, in which texts are quoted and collections are written out, and a display, in
which a text stands for itself.  A collection inside itself is written as dots between its brackets.
The SQL text of a value is its display, except that null is a keyword and truth values are digits.
-/

namespace SchemaDdl

namespace Value

/-- Floating point numbers have no exponent from `0.0001` up to below `1e+16`, keep one decimal when
they are whole, and have exponents of at least two digits. -/
def floatStyle : DecimalStyle where
  leastPoint := -3
  greatestPoint := 16
  wholeDecimals := ".0"
  exponentMark := "e"
  exponentWidth := 2
  infinityWord := "inf"
  nanWord := "nan"

def dateLiteral (date : Date) : String :=
  "datetime.date(" ++ ", ".intercalate ([date.year, date.month, date.day].map Text.decimal) ++ ")"

/-- The literal of an offset, whose seconds are counted from the start of a day. -/
def offsetLiteral (offset : Offset) : String :=
  if offset.seconds = 0 then
    "datetime.timezone.utc"
  else
    "datetime.timezone(datetime.timedelta(" ++
      (if offset.seconds < 0 then "days=-1, " else "") ++
      "seconds=" ++ Text.decimalInt (offset.seconds % 86400) ++ "))"

/-- The literal of a moment, without seconds and microseconds where they are zero. -/
def momentLiteral (moment : Moment) : String :=
  let clock :=
    if moment.time.microsecond ≠ 0 then [moment.time.second, moment.time.microsecond]
    else if moment.time.second ≠ 0 then [moment.time.second]
    else []
  let parts := [moment.date.year, moment.date.month, moment.date.day,
    moment.time.hour, moment.time.minute] ++ clock
  "datetime.datetime(" ++ ", ".intercalate (parts.map Text.decimal) ++
    (match moment.offset with
      | none => ""
      | some offset => ", tzinfo=" ++ offsetLiteral offset) ++ ")"

/-- Whether a collection with a mark is inside itself. -/
def recurs (enclosing : List Nat) (mark : Option Nat) : Bool :=
  match mark with
  | none => false
  | some node => enclosing.contains node

mutual

/-- The literal of a value inside collections with the given marks. -/
def literalWithin (enclosing : List Nat) : Value → String
  | .null => "None"
  | .bool true => "True"
  | .bool false => "False"
  | .int value => Text.decimalInt value
  | .float value => floatStyle.text value
  | .text value => Text.quoted value
  | .bytes octets => Text.quotedOctets octets
  | .date value => dateLiteral value
  | .moment value => momentLiteral value
  | .list mark items =>
      if recurs enclosing mark then "[...]"
      else "[" ++ ", ".intercalate (literalsWithin (mark.toList ++ enclosing) items) ++ "]"
  | .tuple mark items =>
      if recurs enclosing mark then "(...)"
      else
        "(" ++ ", ".intercalate (literalsWithin (mark.toList ++ enclosing) items) ++
          (if items.length = 1 then ",)" else ")")
  | .set mark items =>
      if items.isEmpty then "set()"
      else if recurs enclosing mark then "set(...)"
      else "\x7b" ++ ", ".intercalate (literalsWithin (mark.toList ++ enclosing) items) ++ "\x7d"
  | .map mark entries =>
      if recurs enclosing mark then "\x7b...\x7d"
      else
        "\x7b" ++ ", ".intercalate (entryLiteralsWithin (mark.toList ++ enclosing) entries) ++
          "\x7d"

def literalsWithin (enclosing : List Nat) : List Value → List String
  | [] => []
  | item :: items => literalWithin enclosing item :: literalsWithin enclosing items

/-- The entries of a mapping with their keys and values as literals. -/
def entryLiteralsWithin (enclosing : List Nat) : List (Value × Value) → List String
  | [] => []
  | (key, value) :: entries =>
      (literalWithin enclosing key ++ ": " ++ literalWithin enclosing value) ::
        entryLiteralsWithin enclosing entries

end

def literal (value : Value) : String :=
  literalWithin [] value

mutual

/-- Whether no whole number in the literal of a value is too long to be written, inside collections
with the given marks. -/
def isWritableWithin (enclosing : List Nat) : Value → Bool
  | .int value => Text.isWritable value
  | .list mark items | .tuple mark items | .set mark items =>
      recurs enclosing mark || areWritableWithin (mark.toList ++ enclosing) items
  | .map mark entries =>
      recurs enclosing mark || entriesWritableWithin (mark.toList ++ enclosing) entries
  | _ => true

def areWritableWithin (enclosing : List Nat) : List Value → Bool
  | [] => true
  | item :: items => isWritableWithin enclosing item && areWritableWithin enclosing items

def entriesWritableWithin (enclosing : List Nat) : List (Value × Value) → Bool
  | [] => true
  | (key, value) :: entries =>
      isWritableWithin enclosing key && isWritableWithin enclosing value &&
        entriesWritableWithin enclosing entries

end

/-- Whether a value has a text: whole numbers with too many digits are not written. -/
def isWritable (value : Value) : Bool :=
  isWritableWithin [] value

/-- The display of a value: a text, date or moment as it is, any other value as its literal. -/
def display : Value → String
  | .text value => value
  | .date value => value.isoText
  | .moment value => value.isoText " "
  | value => value.literal

/-- The SQL text of a value that is writable. -/
def sqlText : Value → String
  | .null => "NULL"
  | .bool value => if value then "1" else "0"
  | value => value.display

end Value

end SchemaDdl
