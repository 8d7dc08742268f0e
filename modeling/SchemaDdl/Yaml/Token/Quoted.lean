import SchemaDdl.Numeral
import SchemaDdl.Yaml.Cursor
import SchemaDdl.Yaml.Fault

/-!
# Quoted scalars

A quoted scalar stands between single or double marks.  Between single ones a mark is written twice
and all else stands for itself; between double ones there are escapes.  Loops are bounded by the
length of the text that is left.
-/

namespace SchemaDdl

namespace Yaml

namespace Quoted

def letterEscape? (c : Char) : Option Char :=
  match c with
  | '0' => some '\x00'
  | 'a' => some '\x07'
  | 'b' => some '\x08'
  | 't' | '\t' => some '\t'
  | 'n' => some '\n'
  | 'v' => some '\x0B'
  | 'f' => some '\x0C'
  | 'r' => some '\r'
  | 'e' => some '\x1B'
  | ' ' => some ' '
  | '"' => some '"'
  | '\\' => some '\\'
  | '/' => some '/'
  | 'N' => some '\x85'
  | '_' => some '\xA0'
  | 'L' => some '\u2028'
  | 'P' => some '\u2029'
  | _ => none

/-- The number of hexadecimal digits behind the letter of an escape. -/
def escapeWidth? (c : Char) : Option Nat :=
  match c with
  | 'x' => some 2
  | 'u' => some 4
  | 'U' => some 8
  | _ => none

/-- The character of an escape by number; a surrogate is none. -/
def numberedChar (digits : List Char) : Except Fault Char :=
  if digits.all fun c => (Text.hexDigit? c).isSome then
    match Numeral.digitsValue? 16 0 digits with
    | none => .error .malformed
    | some code =>
        if 0x110000 ≤ code then .error (.characterRange code)
        else if 0xD800 ≤ code ∧ code ≤ 0xDFFF then .error .surrogate
        else .ok (Char.ofNat code)
  else
    .error .malformed

/-- The line endings in front, spaces and tabs aside; a document may neither start nor end there. -/
def breaks : Nat → Cursor → Except Fault (List Char × Cursor)
  | 0, cursor => .ok ([], cursor)
  | fuel + 1, cursor =>
      if cursor.atSeparator then
        .error .malformed
      else
        let cursor := cursor.skipWhile fun c => c = ' ' || c = '\t'
        if cursor.nextIs isBreak then do
          let (first, cursor) := cursor.takeBreak
          let (others, cursor) ← breaks fuel cursor
          return (first ++ others, cursor)
        else
          .ok ([], cursor)

/-- The character of an escape, or nothing for an escaped line ending, and the cursor behind it. -/
def escape (cursor : Cursor) : Except Fault (List Char × Cursor) :=
  match cursor.next with
  | none => .error .malformed
  | some c =>
      match letterEscape? c, escapeWidth? c with
      | some char, _ => .ok ([char], cursor.step)
      | none, some width => do
          let digits := cursor.step.rest.take width
          if digits.length < width then throw .malformed
          return ([← numberedChar digits], cursor.step.advance width)
      | none, none =>
          if isBreak c then breaks (cursor.rest.length + 1) cursor.step
          else .error .malformed

/-- What stands between two words of a quoted scalar. -/
def gap (cursor : Cursor) : Except Fault (List Char × Cursor) := do
  let (spaces, cursor) := cursor.takeWhile fun c => c = ' ' || c = '\t'
  match cursor.next with
  | none => .error .malformed
  | some c =>
      if isBreak c then
        let (first, cursor) := cursor.takeBreak
        let (others, cursor) ← breaks (cursor.rest.length + 1) cursor
        return (foldBreaks first others, cursor)
      else
        return (spaces, cursor)

/-- The content of a quoted scalar up to its closing mark, and the cursor behind the mark. -/
def content (double : Bool) : Nat → Cursor → Except Fault (List Char × Cursor)
  | 0, _ => .error .malformed
  | fuel + 1, cursor => do
      let (part, next) ←
        match cursor.next with
        | none => throw .malformed
        | some c =>
            if !double && c = '\'' then
              if cursor.peek 1 = some '\'' then pure (['\''], cursor.advance 2)
              else return ([], cursor.step)
            else if double && c = '"' then
              return ([], cursor.step)
            else if double && c = '\\' then
              escape cursor.step
            else if isSpace c then
              gap cursor
            else
              pure ([c], cursor.step)
      let (others, last) ← content double fuel next
      return (part ++ others, last)

end Quoted

end Yaml

end SchemaDdl
