import SchemaDdl.Yaml.Cursor
import SchemaDdl.Yaml.Fault
import SchemaDdl.Yaml.Token

/-!
# The state of the lexer

The lexer keeps the indentations of the open block collections, the number of open flow collections,
and for each of these the place where a simple key may have begun: a node on one line, of at most
1024 characters, that turns out to be a key when a colon follows.  The token of the key is then put
in front of the node.
-/

namespace SchemaDdl

namespace Yaml

/-- A place where a simple key may begin: the number of tokens before it, whether it has to be a
key, and where it stands. -/
structure KeyPlace where
  tokensBefore : Nat
  required : Bool
  index : Nat
  line : Nat
  column : Nat

/-- The state of the lexer.  The tokens are in reverse order; the key places begin with that of the
innermost flow collection and end with that of the block level. -/
structure Lexer where
  cursor : Cursor
  tokens : List Token := []
  count : Nat := 0
  indent : Int := -1
  outerIndents : List Int := []
  flowLevel : Nat := 0
  keyAllowed : Bool := true
  keyPlaces : List (Option KeyPlace) := [none]
  finished : Bool := false

namespace Lexer

/-- The greatest number of characters in a simple key. -/
def keyLimit : Nat := 1024

def inFlow (lexer : Lexer) : Bool :=
  lexer.flowLevel != 0

def push (token : Token) (lexer : Lexer) : Lexer :=
  { lexer with tokens := token :: lexer.tokens, count := lexer.count + 1 }

/-- The lexer with a token put behind the first tokens, as many as given. -/
def insertAfter (before : Nat) (token : Token) (lexer : Lexer) : Lexer :=
  let later := lexer.count - before
  { lexer with
    tokens := lexer.tokens.take later ++ token :: lexer.tokens.drop later
    count := lexer.count + 1 }

/-- The lexer behind as many characters as given. -/
def skip (count : Nat) (lexer : Lexer) : Lexer :=
  { lexer with cursor := lexer.cursor.advance count }

def allowKey (allowed : Bool) (lexer : Lexer) : Lexer :=
  { lexer with keyAllowed := allowed }

def keyPlace? (lexer : Lexer) : Option KeyPlace :=
  lexer.keyPlaces.head?.join

/-- The lexer with another place of a key of the innermost collection. -/
def setKeyPlace (place : Option KeyPlace) (lexer : Lexer) : Lexer :=
  { lexer with keyPlaces := place :: lexer.keyPlaces.drop 1 }

/-- The lexer without the place of a key of the innermost collection; what has to be a key cannot be
given up. -/
def dropKeyPlace (lexer : Lexer) : Except Fault Lexer :=
  match lexer.keyPlace? with
  | some place => if place.required then .error .malformed else .ok (lexer.setKeyPlace none)
  | none => .ok lexer

/-- The lexer with the place where a node begins that may be a key. -/
def markKeyPlace (lexer : Lexer) : Except Fault Lexer :=
  if lexer.keyAllowed then do
    let lexer ← lexer.dropKeyPlace
    let cursor := lexer.cursor
    return lexer.setKeyPlace (some {
      tokensBefore := lexer.count
      required := !lexer.inFlow && lexer.indent = cursor.column
      index := cursor.index
      line := cursor.line
      column := cursor.column })
  else
    .ok lexer

/-- The lexer without the places of keys that are too far away by now. -/
def dropStaleKeyPlaces (lexer : Lexer) : Except Fault Lexer := do
  let cursor := lexer.cursor
  let stale (place : KeyPlace) : Bool :=
    place.line != cursor.line || keyLimit < cursor.index - place.index
  if lexer.keyPlaces.any fun place => place.any fun place => stale place && place.required then
    throw .malformed
  return { lexer with
    keyPlaces := lexer.keyPlaces.map fun place => place.filter fun place => !stale place }

/-- The lexer once the block collections that are indented more than a column are closed. -/
def closeBlocks (column : Int) (lexer : Lexer) : Lexer :=
  if lexer.inFlow then
    lexer
  else
    close lexer.indent lexer.outerIndents lexer
where
  /-- Closes the innermost block collection and those around it. -/
  close (indent : Int) : List Int → Lexer → Lexer
    | [], lexer => { lexer with indent, outerIndents := [] }
    | outer :: outers, lexer =>
        if column < indent then close outer outers (lexer.push .blockEnd)
        else { lexer with indent, outerIndents := outer :: outers }

/-- Whether a column lies deeper than the innermost block collection. -/
def isDeeper (column : Nat) (lexer : Lexer) : Bool :=
  lexer.indent < column

def openBlock (column : Nat) (lexer : Lexer) : Lexer :=
  { lexer with indent := column, outerIndents := lexer.indent :: lexer.outerIndents }

/-- The lexer with a block collection opened at the cursor by a token, where the cursor lies deeper
than the innermost one. -/
def openBlockHere (token : Token) (lexer : Lexer) : Lexer :=
  let column := lexer.cursor.column
  if lexer.isDeeper column then (lexer.openBlock column).push token else lexer

end Lexer

end Yaml

end SchemaDdl
