import SchemaDdl.Yaml.Token.Block
import SchemaDdl.Yaml.Token.LexerState
import SchemaDdl.Yaml.Token.Plain
import SchemaDdl.Yaml.Token.Quoted
import SchemaDdl.Yaml.Token.Tag

/-!
# From text to tokens

The lexer takes one token after the other from the text, by the character in front and the one
behind it.
-/

namespace SchemaDdl

namespace Yaml

namespace Lexer

/-- The lexer in front of the next token: behind spaces, comments and line endings. -/
def skipToToken : Nat → Lexer → Lexer
  | 0, lexer => lexer
  | fuel + 1, lexer =>
      let cursor := lexer.cursor.skipComment
      if cursor.nextIs isBreak then
        skipToToken fuel
          { lexer with cursor := cursor.step, keyAllowed := lexer.keyAllowed || !lexer.inFlow }
      else
        { lexer with cursor }

def finish (lexer : Lexer) : Except Fault Lexer := do
  let lexer ← (lexer.closeBlocks (-1)).dropKeyPlace
  return { lexer.push .streamEnd with finished := true }

/-- The lexer before a directive or a mark between documents. -/
def leaveDocument (lexer : Lexer) : Except Fault Lexer := do
  let lexer ← (lexer.closeBlocks (-1)).dropKeyPlace
  return lexer.allowKey false

def takeMarks (token : Token) (lexer : Lexer) : Except Fault Lexer := do
  return ((← lexer.leaveDocument).push token).skip 3

def takeDirective (lexer : Lexer) : Except Fault Lexer := do
  let lexer ← lexer.leaveDocument
  let (name, cursor) ← lexer.cursor.step.takeName
  if !isBlankOrEnd cursor.next then throw .malformed
  let (token, cursor) ←
    if name = "YAML".toList then cursor.takeVersion
    else if name = "TAG".toList then cursor.takeHandleDeclaration
    else pure (.reservedDirective, cursor.skipWhile fun c => !isBreak c)
  let cursor := cursor.skipComment
  if !isBreakOrEnd cursor.next then throw .malformed
  return { lexer.push token with cursor := cursor.takeBreak.2 }

def openFlow (token : Token) (lexer : Lexer) : Except Fault Lexer := do
  let lexer ← lexer.markKeyPlace
  let lexer := { lexer with
    flowLevel := lexer.flowLevel + 1
    keyPlaces := none :: lexer.keyPlaces
    keyAllowed := true }
  return (lexer.push token).skip 1

/-- The lexer behind the closing mark of a flow collection. -/
def closeFlow (token : Token) (lexer : Lexer) : Except Fault Lexer := do
  let lexer ← lexer.dropKeyPlace
  if lexer.flowLevel = 0 then throw .malformed
  let lexer := { lexer with
    flowLevel := lexer.flowLevel - 1
    keyPlaces := lexer.keyPlaces.drop 1
    keyAllowed := false }
  return (lexer.push token).skip 1

/-- The lexer behind the comma between the nodes of a flow collection. -/
def takeComma (lexer : Lexer) : Except Fault Lexer := do
  let lexer ← lexer.dropKeyPlace
  return ((lexer.allowKey true).push .flowEntry).skip 1

/-- The lexer with a block collection opened at the cursor by an indicator, which can only stand
where a simple key could. -/
def openIndicated (token : Token) (lexer : Lexer) : Except Fault Lexer :=
  if lexer.inFlow then .ok lexer
  else if lexer.keyAllowed then .ok (lexer.openBlockHere token)
  else .error .malformed

def takeHyphen (lexer : Lexer) : Except Fault Lexer := do
  let lexer ← lexer.openIndicated .blockSequence
  let lexer ← (lexer.allowKey true).dropKeyPlace
  return (lexer.push .blockEntry).skip 1

def takeQuestionMark (lexer : Lexer) : Except Fault Lexer := do
  let lexer ← lexer.openIndicated .blockMapping
  let lexer ← (lexer.allowKey (!lexer.inFlow)).dropKeyPlace
  return (lexer.push .key).skip 1

/-- The lexer behind the colon in front of a value.  Where a simple key may have begun, it did, and
it is marked as a key. -/
def takeColon (lexer : Lexer) : Except Fault Lexer := do
  match lexer.keyPlace? with
  | some place =>
      let lexer := (lexer.setKeyPlace none).insertAfter place.tokensBefore .key
      let lexer :=
        if !lexer.inFlow && lexer.isDeeper place.column then
          (lexer.openBlock place.column).insertAfter place.tokensBefore .blockMapping
        else
          lexer
      return ((lexer.allowKey false).push .value).skip 1
  | none =>
      let lexer ← lexer.openIndicated .blockMapping
      return ((lexer.allowKey (!lexer.inFlow)).push .value).skip 1

/-- Whether a character can stand behind the name of an anchor. -/
def endsAnchor (c : Char) : Bool :=
  isSpace c || "?:,]%@`".toList.contains c || c = '\x7d'

def takeAnchor (token : List Char → Token) (lexer : Lexer) : Except Fault Lexer := do
  let lexer ← lexer.markKeyPlace
  let (name, cursor) ← lexer.cursor.step.takeName
  if !endOr endsAnchor cursor.next then throw .malformed
  return { (lexer.allowKey false).push (token name) with cursor }

/-- Whether a tag in front has a handle that ends with a second exclamation mark. -/
def hasNamedHandle (cursor : Cursor) : Bool :=
  (cursor.rest.takeWhile fun c => c ≠ ' ' && !isBreak c).contains '!'

def takeTag (lexer : Lexer) : Except Fault Lexer := do
  let lexer ← lexer.markKeyPlace
  let behind := lexer.cursor.step
  let (handle, suffix, cursor) ←
    if behind.next = some '<' then do
      let (suffix, cursor) ← behind.step.takeTagText
      if cursor.next ≠ some '>' then throw .malformed
      pure (none, suffix, cursor.step)
    else if isSpaceOrEnd behind.next then
      pure (none, ['!'], behind)
    else do
      let (handle, cursor) ←
        if hasNamedHandle behind then lexer.cursor.takeHandle else pure (['!'], behind)
      let (suffix, cursor) ← cursor.takeTagText
      pure (some handle, suffix, cursor)
  if !isBlankOrEnd cursor.next then throw .malformed
  return { (lexer.allowKey false).push (.tag handle suffix) with cursor }

def takeBlockScalar (folded : Bool) (lexer : Lexer) : Except Fault Lexer := do
  let lexer ← (lexer.allowKey true).dropKeyPlace
  let (content, cursor) ← Block.content folded lexer.indent lexer.cursor.step
  return { lexer.push (.scalar false content) with cursor }

def takeQuoted (double : Bool) (lexer : Lexer) : Except Fault Lexer := do
  let lexer ← lexer.markKeyPlace
  let cursor := lexer.cursor.step
  let (content, cursor) ← Quoted.content double (cursor.rest.length + 1) cursor
  return { (lexer.allowKey false).push (.scalar false content) with cursor }

def takePlain (lexer : Lexer) : Except Fault Lexer := do
  let lexer ← lexer.markKeyPlace
  let (content, lineEnded, cursor) :=
    Plain.content lexer.inFlow (lexer.indent + 1) (lexer.cursor.rest.length + 1) [] false
      lexer.cursor
  return { (lexer.allowKey lineEnded).push (.scalar true content) with cursor }

/-- Whether a plain scalar can begin with a character in front of another one. -/
def beginsPlain (inFlow : Bool) (c : Char) (following : Option Char) : Bool :=
  if isSpace c then false
  else if c = '-' then !isSpaceOrEnd following
  else if c = '?' ∨ c = ':' then !inFlow && !isSpaceOrEnd following
  else !(c = '\x7b' || c = '\x7d' || ",[]#&*!|>'\"%@`".toList.contains c)

def takeTokenAt (c : Char) (lexer : Lexer) : Except Fault Lexer :=
  let cursor := lexer.cursor
  let separated := isSpaceOrEnd (cursor.peek 1)
  if cursor.column = 0 ∧ c = '%' then lexer.takeDirective
  else if cursor.column = 0 ∧ cursor.atMarks '-' then lexer.takeMarks .documentStart
  else if cursor.column = 0 ∧ cursor.atMarks '.' then lexer.takeMarks .documentEnd
  else if c = '[' then lexer.openFlow .flowSequence
  else if c = '\x7b' then lexer.openFlow .flowMapping
  else if c = ']' then lexer.closeFlow .flowSequenceEnd
  else if c = '\x7d' then lexer.closeFlow .flowMappingEnd
  else if c = ',' then lexer.takeComma
  else if c = '-' ∧ separated then lexer.takeHyphen
  else if c = '?' ∧ (lexer.inFlow ∨ separated) then lexer.takeQuestionMark
  else if c = ':' ∧ (lexer.inFlow ∨ separated) then lexer.takeColon
  else if c = '*' then lexer.takeAnchor .alias
  else if c = '&' then lexer.takeAnchor .anchor
  else if c = '!' then lexer.takeTag
  else if c = '|' ∧ !lexer.inFlow then lexer.takeBlockScalar false
  else if c = '>' ∧ !lexer.inFlow then lexer.takeBlockScalar true
  else if c = '\'' then lexer.takeQuoted false
  else if c = '"' then lexer.takeQuoted true
  else if beginsPlain lexer.inFlow c (cursor.peek 1) then lexer.takePlain
  else .error .malformed

def takeToken (lexer : Lexer) : Except Fault Lexer := do
  let lexer ← (lexer.skipToToken (lexer.cursor.rest.length + 1)).dropStaleKeyPlaces
  let lexer := lexer.closeBlocks lexer.cursor.column
  match lexer.cursor.next with
  | none => lexer.finish
  | some c => lexer.takeTokenAt c

/-- The tokens of a text in order, up to the fault that ends them, if there is one.  Every step
takes a character, so that the length of the text bounds their number. -/
def run : Nat → Lexer → List Token × Option Fault
  | 0, lexer => (lexer.tokens.reverse, some .malformed)
  | fuel + 1, lexer =>
      if lexer.finished then
        (lexer.tokens.reverse, none)
      else
        match lexer.takeToken with
        | .ok lexer => run fuel lexer
        | .error fault => (lexer.tokens.reverse, some fault)

end Lexer

namespace Token

/-- The tokens of a text, which a byte order mark may precede, up to the fault that ends them. -/
def ofChars (chars : List Char) : List Token × Option Fault :=
  let cursor : Cursor := { rest := chars }
  let start := if cursor.next = some '\uFEFF' then cursor.step else cursor
  Lexer.run (chars.length + 2) { cursor := start }

end Token

end Yaml

end SchemaDdl
