import SchemaDdl.Yaml.Cursor

/-!
# Plain scalars

A plain scalar is words without marks around them, on one line or several.  It ends in front of what
could belong to a collection, of a comment, and of a line that is not indented enough.  Loops over
lines are bounded by the length of the text that is left.
-/

namespace SchemaDdl

namespace Yaml

namespace Plain

/-- Whether a colon ends a plain scalar, by the character behind it. -/
def colonEnds (inFlow : Bool) (following : Option Char) : Bool :=
  endOr (fun c => isSpace c || (inFlow && [',', '[', ']', '\x7b', '\x7d'].contains c)) following

/-- The characters of a plain scalar up to a space or to what ends the scalar. -/
def chunk (inFlow : Bool) : List Char → List Char
  | [] => []
  | c :: rest =>
      if isSpace c || (c = ':' && colonEnds inFlow rest.head?) ||
          (inFlow && [',', '?', '[', ']', '\x7b', '\x7d'].contains c) then
        []
      else
        c :: chunk inFlow rest

/-- The further line endings behind one, leading spaces of the lines aside; nothing where a document
starts or ends. -/
def furtherBreaks : Nat → Cursor → Option (List Char) × Cursor
  | 0, cursor => (some [], cursor)
  | fuel + 1, cursor =>
      if cursor.atSeparator then
        (none, cursor)
      else
        let cursor := cursor.skipWhile (· = ' ')
        if cursor.nextIs isBreak then
          let (first, cursor) := cursor.takeBreak
          let (others, cursor) := furtherBreaks fuel cursor
          (others.map (first ++ ·), cursor)
        else
          (some [], cursor)

/-- What stands between two chunks of a plain scalar, whether a line ended there, and the cursor
behind it; nothing is there where the scalar ends. -/
def gap (cursor : Cursor) : Option (List Char) × Bool × Cursor :=
  let (spaces, cursor) := cursor.takeWhile (· = ' ')
  if cursor.nextIs isBreak then
    let (first, cursor) := cursor.takeBreak
    let (others, cursor) := furtherBreaks (cursor.rest.length + 1) cursor
    (others.map (foldBreaks first), true, cursor)
  else
    (if spaces.isEmpty then none else some spaces, false, cursor)

/-- The content of a plain scalar behind the gap given, whether a line ended behind its last chunk,
and the cursor behind it. -/
def content (inFlow : Bool) (indent : Int) :
    Nat → List Char → Bool → Cursor → List Char × Bool × Cursor
  | 0, _, lineEnded, cursor => ([], lineEnded, cursor)
  | fuel + 1, before, lineEnded, cursor =>
      let chars := if cursor.next = some '#' then [] else chunk inFlow cursor.rest
      if chars.isEmpty then
        ([], lineEnded, cursor)
      else
        match gap (cursor.advance chars.length) with
        | (none, lineEnded, cursor) => (before ++ chars, lineEnded, cursor)
        | (some between, lineEnded, cursor) =>
            if cursor.next = some '#' ∨ (!inFlow ∧ (cursor.column : Int) < indent) then
              (before ++ chars, lineEnded, cursor)
            else
              let (others, lineEnded, cursor) := content inFlow indent fuel between lineEnded cursor
              (before ++ chars ++ others, lineEnded, cursor)

end Plain

end Yaml

end SchemaDdl
