import SchemaDdl.Binary64
import SchemaDdl.Calendar

/-!
# Schema data

The values of a schema document.  A collection that contains itself is unfolded to a finite depth;
its unfoldings share a mark, by which they are known to be the same collection.  All other
collections carry no mark.

The keys of a mapping are compared by `Value.key?`, which is defined for the values that can be
keys.  Numbers of every kind, the truth values among them as one and zero, are the same key when
they are the same number.
-/

namespace SchemaDdl

inductive Value
  | null
  | bool (value : Bool)
  | int (value : Int)
  | float (value : Binary64)
  | text (value : String)
  | bytes (octets : List UInt8)
  | date (value : Date)
  | moment (value : Moment)
  | list (mark : Option Nat) (items : List Value)
  | tuple (mark : Option Nat) (items : List Value)
  | set (mark : Option Nat) (items : List Value)
  | map (mark : Option Nat) (entries : List (Value × Value))

/-- What two values have in common when they are the same key.  A finite number is an odd mantissa
times a power of two. -/
inductive Key
  | null
  | number (mantissa : Int) (exponent : Int)
  | infinite (negative : Bool)
  | nan (origin : Nat)
  | text (value : String)
  | bytes (octets : List UInt8)
  | date (value : Date)
  | wallClock (microseconds : Int)
  | instant (microseconds : Int)
  | tupleEnd
  | tupleItem (head : Key) (tail : Key)
  deriving DecidableEq

namespace Key

/-- The key of mantissa times a power of two; at most `halvings` factors of two move from the
mantissa to the power. -/
def ofBinary : Nat → Int → Int → Key
  | 0, mantissa, exponent => .number mantissa exponent
  | halvings + 1, mantissa, exponent =>
      if mantissa % 2 = 0 then ofBinary halvings (mantissa / 2) (exponent + 1)
      else .number mantissa exponent

def ofNumber (mantissa exponent : Int) : Key :=
  if mantissa = 0 then .number 0 0
  else ofBinary mantissa.natAbs.log2 mantissa exponent

/-- The key of a tuple whose items have the given keys. -/
def ofItems : List Key → Key
  | [] => .tupleEnd
  | head :: tail => .tupleItem head (ofItems tail)

end Key

namespace Value

mutual

/-- The key that a value is; lists, sets and mappings are no keys. -/
def key? : Value → Option Key
  | .null => some .null
  | .bool value => some (.ofNumber value.toInt 0)
  | .int value => some (.ofNumber value 0)
  | .float (.finite negative mantissa exponent) =>
      some (.ofNumber (if negative then -(mantissa : Int) else mantissa) exponent)
  | .float (.infinite negative) => some (.infinite negative)
  | .float (.nan origin) => some (.nan origin)
  | .text value => some (.text value)
  | .bytes octets => some (.bytes octets)
  | .date value => some (.date value)
  | .moment value =>
      match value.instant? with
      | some microseconds => some (.instant microseconds)
      | none => some (.wallClock value.wallClock)
  | .tuple _ items => (itemKeys? items).map Key.ofItems
  | .list _ _ | .set _ _ | .map _ _ => none

def itemKeys? : List Value → Option (List Key)
  | [] => some []
  | item :: items =>
      match key? item, itemKeys? items with
      | some key, some keys => some (key :: keys)
      | _, _ => none

end

/-- Whether a value counts as set: not null, false, zero, or empty. -/
def truthy : Value → Bool
  | .null => false
  | .bool value => value
  | .int value => value != 0
  | .float (.finite _ mantissa _) => mantissa != 0
  | .float _ => true
  | .text value => !value.isEmpty
  | .bytes octets => !octets.isEmpty
  | .date _ | .moment _ => true
  | .list _ items | .tuple _ items | .set _ items => !items.isEmpty
  | .map _ entries => !entries.isEmpty

/-- The items of a list or tuple; any other value is its own only item. -/
def items : Value → List Value
  | .list _ items | .tuple _ items => items
  | value => [value]

end Value

end SchemaDdl
