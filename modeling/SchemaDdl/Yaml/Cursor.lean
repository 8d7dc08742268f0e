/-!
# Places in a document text

The classes of characters that structure a YAML 1.1 document, and a cursor: what is left of the text
with the line and column at which it begins.  Line feeds, next-line characters and the two Unicode
separators end a line.  A line ending inside a plain or quoted scalar is folded: a single one counts
as a space, and of several the first does not count.
-/

namespace SchemaDdl

namespace Yaml

def isBreak (c : Char) : Bool :=
  c = '\n' || c = '\x85' || c = '\u2028' || c = '\u2029'

def isDocumentChar (c : Char) : Bool :=
  c = '\t' || c = '\n' || c = '\r' || (' ' ≤ c && c ≤ '~') || c = '\x85' ||
    ('\xA0' ≤ c && c.toNat ≤ 0xD7FF) || (0xE000 ≤ c.toNat && c.toNat ≤ 0xFFFD) ||
    0x10000 ≤ c.toNat

def isSpace (c : Char) : Bool :=
  c = ' ' || c = '\t' || isBreak c

/-- Whether a character can stand in the name of an anchor or a tag handle. -/
def isNameChar (c : Char) : Bool :=
  c.isAlphanum || c = '-' || c = '_'

/-- Whether a character is there and of a class, or the text has ended. -/
def endOr (ofClass : Char → Bool) : Option Char → Bool
  | none => true
  | some c => ofClass c

/-- Whether the text has ended or goes on with a separator of words. -/
def isSpaceOrEnd : Option Char → Bool :=
  endOr isSpace

/-- Whether the text has ended or goes on with the end of a line. -/
def isBreakOrEnd : Option Char → Bool :=
  endOr isBreak

/-- Whether the text has ended or goes on with a space or the end of a line. -/
def isBlankOrEnd : Option Char → Bool :=
  endOr fun c => c = ' ' || isBreak c

/-- What is left of a text, with the number of characters before it and the line and column where it
begins. -/
structure Cursor where
  rest : List Char
  index : Nat := 0
  line : Nat := 0
  column : Nat := 0

namespace Cursor

def next (cursor : Cursor) : Option Char :=
  cursor.rest.head?

/-- The character behind as many others as given. -/
def peek (cursor : Cursor) (distance : Nat) : Option Char :=
  cursor.rest[distance]?

def nextIs (cursor : Cursor) (ofClass : Char → Bool) : Bool :=
  cursor.next.any ofClass

/-- The cursor behind the next character.  A byte order mark takes no column. -/
def step (cursor : Cursor) : Cursor :=
  match cursor.rest with
  | [] => cursor
  | c :: rest =>
      if isBreak c then
        { rest, index := cursor.index + 1, line := cursor.line + 1, column := 0 }
      else
        { rest, index := cursor.index + 1, line := cursor.line,
          column := if c = '\uFEFF' then cursor.column else cursor.column + 1 }

/-- The cursor behind as many characters as given. -/
def advance : Nat → Cursor → Cursor
  | 0, cursor => cursor
  | count + 1, cursor => advance count cursor.step

/-- The characters in front that are of a class, and the cursor behind them. -/
def takeWhile (cursor : Cursor) (ofClass : Char → Bool) : List Char × Cursor :=
  let taken := cursor.rest.takeWhile ofClass
  (taken, cursor.advance taken.length)

def skipWhile (cursor : Cursor) (ofClass : Char → Bool) : Cursor :=
  (cursor.takeWhile ofClass).2

/-- The line ending in front as it counts in a text, and the cursor behind it; nothing where there
is none.  A next-line character counts as a line feed. -/
def takeBreak (cursor : Cursor) : List Char × Cursor :=
  match cursor.rest with
  | [] => ([], cursor)
  | c :: _ =>
      if isBreak c then ([if c = '\x85' then '\n' else c], cursor.step) else ([], cursor)

/-- Whether the text goes on with three marks of a kind that end a document. -/
def atMarks (cursor : Cursor) (mark : Char) : Bool :=
  cursor.peek 0 = some mark && cursor.peek 1 = some mark && cursor.peek 2 = some mark &&
    isSpaceOrEnd (cursor.peek 3)

/-- Whether the text goes on with the start or the end of a document. -/
def atSeparator (cursor : Cursor) : Bool :=
  cursor.atMarks '-' || cursor.atMarks '.'

def skipComment (cursor : Cursor) : Cursor :=
  let cursor := cursor.skipWhile (· = ' ')
  if cursor.next = some '#' then cursor.skipWhile fun c => !isBreak c else cursor

end Cursor

/-- A single line feed is folded to a space, and of several line endings a first line feed is
dropped. -/
def foldBreaks (first : List Char) (others : List Char) : List Char :=
  if first ≠ ['\n'] then first ++ others
  else if others.isEmpty then [' ']
  else others

end Yaml

end SchemaDdl
