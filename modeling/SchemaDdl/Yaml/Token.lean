/-!
# Tokens

The tokens of a YAML document.  Block collections are opened and closed by tokens of their own,
which the indentation of the text brings about; a key stands before the node that it announces.
-/

namespace SchemaDdl

namespace Yaml

inductive Token
  | streamEnd
  | documentStart
  | documentEnd
  | version (major : Nat)
  | tagHandle (handle expansion : List Char)
  | reservedDirective
  | blockSequence
  | blockMapping
  | blockEnd
  | flowSequence
  | flowSequenceEnd
  | flowMapping
  | flowMappingEnd
  | blockEntry
  | flowEntry
  | key
  | value
  | anchor (name : List Char)
  | alias (name : List Char)
  | tag (handle : Option (List Char)) (suffix : List Char)
  | scalar (plain : Bool) (content : List Char)
  deriving DecidableEq

end Yaml

end SchemaDdl
