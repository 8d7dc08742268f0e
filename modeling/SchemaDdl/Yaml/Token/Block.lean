import SchemaDdl.Yaml.Cursor
import SchemaDdl.Yaml.Fault

/-!
# Block scalars

A block scalar is the lines below a header with a common indentation, which the header states or the
first line shows.  The lines are kept as they are, or folded where neither of two neighbours is
indented further; the header says what happens to the line endings behind the last line.  Loops over
lines are bounded by the length of the text that is left.
-/

namespace SchemaDdl

namespace Yaml

namespace Block

/-- What happens to the line endings behind the last line of a block scalar. -/
inductive Chomping
  | strip
  | clip
  | keep
  deriving DecidableEq

def chomping? (c : Char) : Option Chomping :=
  if c = '+' then some .keep else if c = '-' then some .strip else none

/-- The indicator of an indentation; it cannot be nought. -/
def increment? (cursor : Cursor) : Except Fault (Option Nat × Cursor) :=
  match cursor.next with
  | none => .ok (none, cursor)
  | some c =>
      if c = '0' then .error .malformed
      else if c.isDigit then .ok (some (c.toNat - '0'.toNat), cursor.step)
      else .ok (none, cursor)

/-- The indicators of a block scalar, in either order, and the cursor at the end of its first
line. -/
def header (cursor : Cursor) : Except Fault (Chomping × Option Nat × Cursor) := do
  let (chomping, increment, cursor) ←
    match cursor.next.bind chomping? with
    | some chomping => do
        let (increment, cursor) ← increment? cursor.step
        pure (chomping, increment, cursor)
    | none => do
        let (increment, cursor) ← increment? cursor
        match increment, cursor.next.bind chomping? with
        | some _, some chomping => pure (chomping, increment, cursor.step)
        | _, _ => pure (.clip, increment, cursor)
  if !isBlankOrEnd cursor.next then throw .malformed
  let cursor := cursor.skipComment
  if !isBreakOrEnd cursor.next then throw .malformed
  return (chomping, increment, cursor.takeBreak.2)

/-- The cursor behind the spaces in front, at most up to a column. -/
def skipIndent (indent : Nat) (cursor : Cursor) : Cursor :=
  cursor.advance (min (cursor.rest.takeWhile (· = ' ')).length (indent - cursor.column))

/-- The empty lines in front, the greatest column that spaces reach in them or in front of the first
other line, and the cursor behind them. -/
def leadingLines : Nat → Cursor → List Char × Nat × Cursor
  | 0, cursor => ([], 0, cursor)
  | fuel + 1, cursor =>
      let spaces := cursor.skipWhile (· = ' ')
      if spaces.nextIs isBreak then
        let (first, next) := spaces.takeBreak
        let (others, reach, last) := leadingLines fuel next
        (first ++ others, max spaces.column reach, last)
      else
        ([], spaces.column, spaces)

/-- The empty lines in front of a line with an indentation, and the cursor behind them and the
indentation. -/
def breaks (indent : Nat) : Nat → Cursor → List Char × Cursor
  | 0, cursor => ([], cursor)
  | fuel + 1, cursor =>
      let cursor := skipIndent indent cursor
      if cursor.nextIs isBreak then
        let (first, cursor) := cursor.takeBreak
        let (others, cursor) := breaks indent fuel cursor
        (first ++ others, cursor)
      else
        ([], cursor)

/-- Whether a line begins with a space or a tab. -/
def isIndented (c : Option Char) : Bool :=
  c = some ' ' || c = some '\t'

/-- The lines of a block scalar with the empty lines before each; the last line ending and the empty
lines behind it; the cursor behind them. -/
def lines (folded : Bool) (indent : Nat) :
    Nat → List Char → Cursor → List Char × List Char × List Char × Cursor
  | 0, before, cursor => ([], [], before, cursor)
  | fuel + 1, before, cursor =>
      if cursor.column ≠ indent ∨ cursor.rest.isEmpty then
        ([], [], before, cursor)
      else
        let (line, ended) := cursor.takeWhile fun c => !isBreak c
        let (lineBreak, behind) := ended.takeBreak
        let (empty, behind) := breaks indent (behind.rest.length + 1) behind
        if behind.column = indent ∧ !behind.rest.isEmpty then
          let joint :=
            if folded ∧ lineBreak = ['\n'] ∧ !isIndented cursor.next ∧ !isIndented behind.next then
              if empty.isEmpty then [' '] else []
            else
              lineBreak
          let (others, lastBreak, trailing, last) := lines folded indent fuel empty behind
          (before ++ line ++ joint ++ others, lastBreak, trailing, last)
        else
          (before ++ line, lineBreak, empty, behind)

/-- The content of a block scalar under a node with an indentation, and the cursor behind it. -/
def content (folded : Bool) (parentIndent : Int) (cursor : Cursor) :
    Except Fault (List Char × Cursor) := do
  let (chomping, increment, cursor) ← header cursor
  let least := (max (parentIndent + 1) 1).toNat
  let fuel := cursor.rest.length + 1
  let (indent, empty, cursor) :=
    match increment with
    | none =>
        let (empty, reach, cursor) := leadingLines fuel cursor
        (max least reach, empty, cursor)
    | some increment =>
        let indent := least + increment - 1
        let (empty, cursor) := breaks indent fuel cursor
        (indent, empty, cursor)
  let (content, lastBreak, trailing, cursor) := lines folded indent fuel empty cursor
  let content :=
    match chomping with
    | .strip => content
    | .clip => content ++ lastBreak
    | .keep => content ++ lastBreak ++ trailing
  return (content, cursor)

end Block

end Yaml

end SchemaDdl
