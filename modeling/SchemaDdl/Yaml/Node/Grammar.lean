import SchemaDdl.Yaml.Node.GrammarState

/-!
# From tokens to nodes

The grammar of documents, read by recursive descent.  Every call that is not the last of its kind
takes a token, so that the number of tokens bounds the depth of the recursion.
-/

namespace SchemaDdl

namespace Yaml

namespace Grammar

mutual

/-- A node: an alias, or a collection or scalar behind its properties.  Block collections can be
ruled out; a sequence without an indentation of its own can only be the key or value of a block
mapping. -/
def node (fuel : Nat) (block indentless : Bool) : Grammar Nat := do
  match fuel with
  | 0 => malformed
  | fuel + 1 =>
      if let .alias name := ← peek then
        advance
        return ← aliasedNode name
      let (anchor, tag) ← properties
      match ← peek with
      | .scalar plain chars =>
          advance
          scalarNode anchor (scalarTag tag plain chars) chars
      | .flowSequence =>
          advance
          let number ← beginNode anchor
          let items ← flowItems fuel true
          endNode number (collectionTag tag .sequence) (.sequence items)
      | .flowMapping =>
          advance
          let number ← beginNode anchor
          let entries ← flowEntries fuel true
          endNode number (collectionTag tag .mapping) (.mapping entries)
      | .blockEntry =>
          if indentless then
            let number ← beginNode anchor
            let items ← indentlessItems fuel
            endNode number (collectionTag tag .sequence) (.sequence items)
          else
            untoldNode anchor tag
      | .blockSequence =>
          if block then
            advance
            let number ← beginNode anchor
            let items ← blockItems fuel
            endNode number (collectionTag tag .sequence) (.sequence items)
          else
            untoldNode anchor tag
      | .blockMapping =>
          if block then
            advance
            let number ← beginNode anchor
            let entries ← blockEntries fuel
            endNode number (collectionTag tag .mapping) (.mapping entries)
          else
            untoldNode anchor tag
      | _ => untoldNode anchor tag

/-- A node in a block collection, or the empty node in front of one of some tokens. -/
def blockNode (fuel : Nat) (indentless : Bool) (stops : List Token) : Grammar Nat := do
  match fuel with
  | 0 => malformed
  | fuel + 1 => if stops.contains (← peek) then emptyNode else node fuel true indentless

/-- A node in a flow collection, or the empty node in front of one of some tokens. -/
def flowNode (fuel : Nat) (stops : List Token) : Grammar Nat := do
  match fuel with
  | 0 => malformed
  | fuel + 1 => if stops.contains (← peek) then emptyNode else node fuel false false

def blockItems (fuel : Nat) : Grammar (List Nat) := do
  match fuel with
  | 0 => malformed
  | fuel + 1 =>
      match ← peek with
      | .blockEntry =>
          advance
          let item ← blockNode fuel false [.blockEntry, .blockEnd]
          let items ← blockItems fuel
          return item :: items
      | _ =>
          expect .blockEnd
          return []

/-- The items of a sequence without an indentation of its own. -/
def indentlessItems (fuel : Nat) : Grammar (List Nat) := do
  match fuel with
  | 0 => malformed
  | fuel + 1 =>
      match ← peek with
      | .blockEntry =>
          advance
          let item ← blockNode fuel false [.blockEntry, .key, .value, .blockEnd]
          let items ← indentlessItems fuel
          return item :: items
      | _ => return []

def blockEntries (fuel : Nat) : Grammar (List (Nat × Nat)) := do
  match fuel with
  | 0 => malformed
  | fuel + 1 =>
      match ← peek with
      | .key =>
          advance
          let key ← blockNode fuel true [.key, .value, .blockEnd]
          let value ←
            match ← peek with
            | .value =>
                advance
                blockNode fuel true [.key, .value, .blockEnd]
            | _ => emptyNode
          let entries ← blockEntries fuel
          return (key, value) :: entries
      | _ =>
          expect .blockEnd
          return []

/-- A key behind its token and its value in a flow collection with a closing token. -/
def flowEntry (fuel : Nat) (closing : Token) : Grammar (Nat × Nat) := do
  match fuel with
  | 0 => malformed
  | fuel + 1 =>
      expect .key
      let key ← flowNode fuel [.value, .flowEntry, closing]
      match ← peek with
      | .value =>
          advance
          let value ← flowNode fuel [.flowEntry, closing]
          return (key, value)
      | _ => return (key, ← emptyNode)

/-- The items of a flow sequence and its end; a key among them begins a mapping of one entry. -/
def flowItems (fuel : Nat) (first : Bool) : Grammar (List Nat) := do
  match fuel with
  | 0 => malformed
  | fuel + 1 =>
      if (← peek) = .flowSequenceEnd then
        advance
        return []
      if !first then expect .flowEntry
      match ← peek with
      | .flowSequenceEnd =>
          advance
          return []
      | .key =>
          let number ← beginNode none
          let entry ← flowEntry fuel .flowSequenceEnd
          let item ← endNode number .mapping (.mapping [entry])
          let items ← flowItems fuel false
          return item :: items
      | _ =>
          let item ← node fuel false false
          let items ← flowItems fuel false
          return item :: items

/-- The entries of a flow mapping and its end; a node without a token in front is a key without a
value. -/
def flowEntries (fuel : Nat) (first : Bool) : Grammar (List (Nat × Nat)) := do
  match fuel with
  | 0 => malformed
  | fuel + 1 =>
      if (← peek) = .flowMappingEnd then
        advance
        return []
      if !first then expect .flowEntry
      match ← peek with
      | .flowMappingEnd =>
          advance
          return []
      | .key =>
          let entry ← flowEntry fuel .flowMappingEnd
          let entries ← flowEntries fuel false
          return entry :: entries
      | _ =>
          let key ← node fuel false false
          let value ← emptyNode
          let entries ← flowEntries fuel false
          return (key, value) :: entries

end

def usualHandles : List (List Char × List Char) :=
  [(['!'], ['!']), (['!', '!'], Tag.family)]

/-- The directives in front of a document; each is given at most once, and the version has to be one
of the first generation. -/
def directives : Nat → Bool → List (List Char × List Char) → Grammar Unit
  | 0, _, _ => malformed
  | fuel + 1, versioned, handles => do
      match ← peek with
      | .version major =>
          advance
          if versioned || major ≠ 1 then malformed
          directives fuel true handles
      | .tagHandle handle expansion =>
          advance
          if handles.any fun entry => entry.1 = handle then malformed
          directives fuel versioned ((handle, expansion) :: handles)
      | .reservedDirective =>
          advance
          directives fuel versioned handles
      | _ => modify fun state => { state with handles := handles ++ usualHandles }

def documentEnds : Nat → Grammar Unit
  | 0 => malformed
  | fuel + 1 => do
      if (← peek) = .documentEnd then
        advance
        documentEnds fuel

/-- Whether a token begins a document with a mark or with directives. -/
def isExplicitStart : Token → Bool
  | .documentStart | .version _ | .tagHandle .. | .reservedDirective => true
  | _ => false

/-- Whether a token leaves the document before it without a node. -/
def isContentEnd (token : Token) : Bool :=
  isExplicitStart token || token = .documentEnd || token = .streamEnd

/-- The root of the only document of a stream, if there is a document. -/
def root (fuel : Nat) : Grammar (Option Nat) := do
  if (← peek) = .streamEnd then
    return none
  let number ←
    if isExplicitStart (← peek) then
      directives fuel false []
      expect .documentStart
      if isContentEnd (← peek) then emptyNode else node fuel true false
    else
      modify fun state => { state with handles := usualHandles }
      node fuel true false
  documentEnds fuel
  if (← peek) = .streamEnd then return some number else malformed

end Grammar

namespace Document

/-- The document that the tokens of a text stand for, if there is one. -/
def ofTokens (tokens : List Token) (fault : Option Fault) : Except Fault (Option Document) := do
  let fuel := 3 * tokens.length + 8
  let (root, state) ← (Grammar.root fuel).run { tokens, fault }
  return root.map fun root => {
    nodes := state.nodes.map fun node => node.getD ⟨.null, .scalar []⟩
    root
    order := state.order.reverse
    looped := state.looped }

end Document

end Yaml

end SchemaDdl
