import SchemaDdl.Yaml.Timestamp

/-!
# Tags

The types of YAML 1.1, and the types that plain scalars have by the look of their texts.
-/

namespace SchemaDdl

namespace Yaml

/-- The types of nodes; any other one is unknown. -/
inductive Tag
  | null
  | bool
  | int
  | float
  | binary
  | timestamp
  | text
  | merge
  | value
  | sequence
  | mapping
  | set
  | orderedMapping
  | pairs
  | unknown
  deriving DecidableEq

namespace Tag

def family : List Char :=
  "tag:yaml.org,2002:".toList

def names : List (String × Tag) :=
  [("null", .null), ("bool", .bool), ("int", .int), ("float", .float), ("binary", .binary),
   ("timestamp", .timestamp), ("str", .text), ("merge", .merge), ("value", .value),
   ("seq", .sequence), ("map", .mapping), ("set", .set), ("omap", .orderedMapping),
   ("pairs", .pairs)]

def ofName (name : List Char) : Tag :=
  match names.find? fun entry => family ++ entry.1.toList = name with
  | some entry => entry.2
  | none => .unknown

def isCollection : Tag → Bool
  | .sequence | .mapping | .set | .orderedMapping | .pairs => true
  | _ => false

def isWord (words : List String) (chars : List Char) : Bool :=
  words.any fun word => word.toList = chars

def truthWords : List String :=
  ["yes", "Yes", "YES", "no", "No", "NO", "true", "True", "TRUE", "false", "False", "FALSE",
   "on", "On", "ON", "off", "Off", "OFF"]

def nullWords : List String :=
  ["", "~", "null", "Null", "NULL"]

/-- A text without a sign in front. -/
def unsigned : List Char → List Char
  | [] => []
  | c :: rest => if c = '+' ∨ c = '-' then rest else c :: rest

def isDigitMark (c : Char) : Bool :=
  c.isDigit || c = '_'

def isBaseMark (base : Nat) (c : Char) : Bool :=
  c = '_' || (Text.hexDigit? c).any fun digit => digit < base

def startsWithDigit (chars : List Char) : Bool :=
  chars.head?.any Char.isDigit

def isExponent : List Char → Bool
  | [] => true
  | mark :: sign :: digits =>
      (mark = 'e' || mark = 'E') && (sign = '+' || sign = '-') && !digits.isEmpty &&
        digits.all Char.isDigit
  | _ => false

/-- What follows the parts to the base of sixty in front, each below sixty behind a colon; nothing
where there is none.  The count bounds the number of parts. -/
def afterSixtieths? : Nat → List Char → Option (List Char)
  | 0, _ => none
  | fuel + 1, ':' :: rest =>
      let digits := (rest.take 2).takeWhile Char.isDigit
      let fits := digits.length = 1 || (digits.length = 2 && digits.head?.any (· ≤ '5'))
      if fits then
        let behind := rest.drop digits.length
        if behind.head? = some ':' then afterSixtieths? fuel behind else some behind
      else
        none
  | _, _ => none

/-- Whether an unsigned text is a number with a point, and the digits in front of it may or may not
be left out. -/
def isPointed (wholeNeeded : Bool) (chars : List Char) : Bool :=
  let isFraction : List Char → Bool
    | '.' :: rest =>
        (wholeNeeded || startsWithDigit rest) && isExponent (rest.dropWhile isDigitMark)
    | _ => false
  if wholeNeeded then startsWithDigit chars && isFraction (chars.dropWhile isDigitMark)
  else isFraction chars

/-- Whether a text looks like a floating point number. -/
def isFloat (chars : List Char) : Bool :=
  let number := unsigned chars
  isPointed true number || isPointed false chars ||
    isWord [".inf", ".Inf", ".INF"] number || isWord [".nan", ".NaN", ".NAN"] chars ||
    (startsWithDigit number &&
      match afterSixtieths? chars.length (number.dropWhile isDigitMark) with
      | some ('.' :: rest) => rest.all isDigitMark
      | _ => false)

/-- Whether a text looks like a whole number. -/
def isInt (chars : List Char) : Bool :=
  match unsigned chars with
  | [] => false
  | ['0'] => true
  | '0' :: 'b' :: digits => !digits.isEmpty && digits.all (isBaseMark 2)
  | '0' :: 'x' :: digits => !digits.isEmpty && digits.all (isBaseMark 16)
  | '0' :: digits => digits.all (isBaseMark 8)
  | number =>
      startsWithDigit number &&
        (number.all isDigitMark ||
          afterSixtieths? chars.length (number.dropWhile isDigitMark) = some [])

/-- The text, and the text without a line feed at its end; what looks like a type may be followed by
one. -/
def spellings (chars : List Char) : List (List Char) :=
  chars :: if 1 < chars.length ∧ chars.getLast? = some '\n' then [chars.dropLast] else []

def implicit (chars : List Char) : Tag :=
  let looks (test : List Char → Bool) : Bool := (spellings chars).any test
  if looks (isWord truthWords) then .bool
  else if looks isFloat then .float
  else if looks isInt then .int
  else if looks (isWord ["<<"]) then .merge
  else if looks (isWord nullWords) then .null
  else if looks TimestampParts.isImplicit then .timestamp
  else if looks (isWord ["="]) then .value
  else if looks (isWord ["!", "&", "*"]) then .unknown
  else .text

end Tag

end Yaml

end SchemaDdl
