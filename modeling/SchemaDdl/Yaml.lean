import SchemaDdl.Yaml.Document
import SchemaDdl.Yaml.Node.Grammar
import SchemaDdl.Yaml.Token.Lexer

/-!
# YAML documents

The value of a text that holds one YAML 1.1 document; a text without a document has the value null.
-/

namespace SchemaDdl

namespace Yaml

def readChars (chars : List Char) : Except Fault Value := do
  if !chars.all isDocumentChar then throw .malformed
  let (tokens, fault) := Token.ofChars chars
  match ← Document.ofTokens tokens fault with
  | none => return .null
  | some document => document.value

/-- The loader of YAML documents, which has the elements of a set in the order of the text. -/
def loader : Loader := fun chars =>
  (readChars chars).mapError Fault.loadFault

end Yaml

end SchemaDdl
