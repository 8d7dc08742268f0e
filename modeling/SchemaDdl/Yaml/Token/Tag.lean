import SchemaDdl.Numeral
import SchemaDdl.Yaml.Cursor
import SchemaDdl.Yaml.Fault
import SchemaDdl.Yaml.Token

/-!
# Tags and directives in a text

The names, numbers, tags and tag handles at a cursor, and the tokens of the directives that state a
version or declare a tag handle.
-/

namespace SchemaDdl

namespace Yaml

namespace Cursor

/-- The characters of a name in front and the cursor behind it; there has to be one. -/
def takeName (cursor : Cursor) : Except Fault (List Char × Cursor) :=
  let (name, behind) := cursor.takeWhile isNameChar
  if name.isEmpty then .error .malformed else .ok (name, behind)

/-- A whole number in front and the cursor behind it. -/
def takeNumber (cursor : Cursor) : Except Fault (Nat × Cursor) :=
  let (digits, behind) := cursor.takeWhile Char.isDigit
  match Numeral.digitsValue? 10 0 digits with
  | none => .error .malformed
  | some value => .ok (value, behind)

/-- The octets of the escapes of a tag in front and the cursor behind them. -/
def takeTagOctets : Nat → Cursor → Except Fault (List UInt8 × Cursor)
  | 0, cursor => .ok ([], cursor)
  | fuel + 1, cursor =>
      if cursor.next = some '%' then
        match (cursor.peek 1).bind Text.hexDigit?, (cursor.peek 2).bind Text.hexDigit? with
        | some high, some low => do
            let (others, behind) ← takeTagOctets fuel (cursor.advance 3)
            return (UInt8.ofNat (16 * high + low) :: others, behind)
        | _, _ => .error .malformed
      else
        .ok ([], cursor)

/-- Whether a character can stand for itself in a tag. -/
def isTagChar (c : Char) : Bool :=
  c.isAlphanum || "-;/?:@&=+$,_.!~*'()[]".toList.contains c

/-- The characters of a tag in front, escapes being read as UTF-8, and the cursor behind them. -/
def takeTagChars : Nat → Cursor → Except Fault (List Char × Cursor)
  | 0, cursor => .ok ([], cursor)
  | fuel + 1, cursor =>
      match cursor.next with
      | none => .ok ([], cursor)
      | some c =>
          if c = '%' then do
            let (octets, cursor) ← takeTagOctets (cursor.rest.length + 1) cursor
            match String.fromUTF8? ⟨octets.toArray⟩ with
            | none => throw .malformed
            | some text =>
                let (others, behind) ← takeTagChars fuel cursor
                return (text.toList ++ others, behind)
          else if isTagChar c then do
            let (others, behind) ← takeTagChars fuel cursor.step
            return (c :: others, behind)
          else
            .ok ([], cursor)

/-- The text of a tag in front and the cursor behind it; there has to be one. -/
def takeTagText (cursor : Cursor) : Except Fault (List Char × Cursor) := do
  if !cursor.nextIs fun c => c = '%' || isTagChar c then throw .malformed
  takeTagChars (cursor.rest.length + 1) cursor

/-- The handle of a tag in front, one exclamation mark or a name between two, and the cursor behind
it. -/
def takeHandle (cursor : Cursor) : Except Fault (List Char × Cursor) := do
  if cursor.next ≠ some '!' then throw .malformed
  if cursor.peek 1 = some ' ' then return (['!'], cursor.step)
  let (name, behind) := cursor.step.takeWhile isNameChar
  if behind.next ≠ some '!' then throw .malformed
  return ('!' :: name ++ ['!'], behind.step)

/-- The token of the version that a directive states, and the cursor behind it. -/
def takeVersion (cursor : Cursor) : Except Fault (Token × Cursor) := do
  let (major, cursor) ← (cursor.skipWhile (· = ' ')).takeNumber
  if cursor.next ≠ some '.' then throw .malformed
  let (_, cursor) ← cursor.step.takeNumber
  if !isBlankOrEnd cursor.next then throw .malformed
  return (.version major, cursor)

/-- The token of the tag handle that a directive declares, and the cursor behind it. -/
def takeHandleDeclaration (cursor : Cursor) : Except Fault (Token × Cursor) := do
  let (handle, cursor) ← (cursor.skipWhile (· = ' ')).takeHandle
  if cursor.next ≠ some ' ' then throw .malformed
  let (expansion, cursor) ← (cursor.skipWhile (· = ' ')).takeTagText
  if !isBlankOrEnd cursor.next then throw .malformed
  return (.tagHandle handle expansion, cursor)

end Cursor

end Yaml

end SchemaDdl
