import SchemaDdl.Mapping
import SchemaDdl.Yaml.Node
import SchemaDdl.Yaml.Scalar

/-!
# From nodes to values

The nodes that can be reached from the root are visited in breadth: scalars are read when they are
met, collections in the order in which they are met.  The first fault in this order is the fault of
the document.  A mapping first takes in the entries of the mappings that its merge keys name, in
front of its own ones.

The values of collections are then built from those of their parts, in the order in which the nodes
end.  A document that contains itself is built again and again, each time from the values of the
time before, until no use of its value can tell how deep it goes.
-/

namespace SchemaDdl

namespace Yaml

/-- The nodes with merge keys taken in so far, the values of the scalars met, which collections have
been met, and those of them still to be visited, the last one met first. -/
structure Traversal where
  nodes : Array Node
  scalars : Array (Option Value)
  met : Array Bool
  waiting : List Nat := []

abbrev Traverse := StateT Traversal (Except Fault)

namespace Traverse

def nodeAt (number : Nat) : Traverse Node := do
  match (← get).nodes[number]? with
  | some node => return node
  | none => throw .malformed

def setNode (number : Nat) (node : Node) : Traverse Unit :=
  modify fun state => { state with nodes := state.nodes.setIfInBounds number node }

def entriesOf (number : Nat) : Traverse (Option (List (Nat × Nat))) := do
  match (← nodeAt number).content with
  | .mapping entries => return some entries
  | _ => return none

def setEntries (number : Nat) (entries : List (Nat × Nat)) : Traverse Unit := do
  setNode number { ← nodeAt number with content := .mapping entries }

mutual

/-- Takes the entries of merged mappings into a mapping.  A merge key is taken out before the
mappings that it names are looked at, so that the square of the number of nodes bounds the depth. -/
def takeMerges (fuel : Nat) (number : Nat) : Traverse Unit := do
  match fuel with
  | 0 => throw .malformed
  | fuel + 1 =>
      let merged ← collectMerges fuel number 0
      if !merged.isEmpty then
        match ← entriesOf number with
        | some entries => setEntries number (merged ++ entries)
        | none => throw .malformed

/-- Takes the merge keys out of a mapping from a position on; gives the entries that they stand for.
A key of the value type becomes a text. -/
def collectMerges (fuel : Nat) (number position : Nat) : Traverse (List (Nat × Nat)) := do
  match fuel with
  | 0 => throw .malformed
  | fuel + 1 =>
      let entries := (← entriesOf number).getD []
      match entries[position]? with
      | none => return []
      | some (key, value) =>
          let keyNode ← nodeAt key
          if keyNode.tag = .merge then
            setEntries number (entries.eraseIdx position)
            let merged ←
              match (← nodeAt value).content with
              | .mapping _ =>
                  takeMerges fuel value
                  pure ((← entriesOf value).getD [])
              | .sequence items =>
                  let parts ← mergedItems fuel items
                  pure parts.reverse.flatten
              | .scalar _ => throw .malformed
            return merged ++ (← collectMerges fuel number position)
          else
            if keyNode.tag = .value then setNode key { keyNode with tag := .text }
            collectMerges fuel number (position + 1)

def mergedItems (fuel : Nat) (items : List Nat) : Traverse (List (List (Nat × Nat))) := do
  match fuel, items with
  | 0, _ => throw .malformed
  | _, [] => return []
  | fuel + 1, item :: items =>
      match ← entriesOf item with
      | none => throw .malformed
      | some _ =>
          takeMerges fuel item
          let entries := (← entriesOf item).getD []
          return entries :: (← mergedItems fuel items)

end

/-- The text of a scalar; a mapping stands for the text of its entry whose key is of the value
type. -/
def scalarChars : Nat → Nat → Traverse (List Char)
  | 0, _ => throw .malformed
  | fuel + 1, number => do
      match (← nodeAt number).content with
      | .scalar chars => return chars
      | .sequence _ => throw .malformed
      | .mapping entries =>
          let nodes := (← get).nodes
          match entries.find? fun entry => nodes[entry.1]?.any fun node => node.tag = .value with
          | some (_, value) => scalarChars fuel value
          | none => throw .malformed

/-- Meets a node: reads a scalar, and puts a collection at the end of those to be visited. -/
def meet (number : Nat) : Traverse Unit := do
  let state ← get
  if (state.scalars[number]?.join).isSome || state.met[number]?.getD false then
    return
  let node ← nodeAt number
  if node.tag.isCollection then
    set { state with
      met := state.met.setIfInBounds number true
      waiting := number :: state.waiting }
  else
    let chars ←
      if node.tag = .merge || node.tag = .value || node.tag = .unknown then throw .malformed
      else scalarChars (state.nodes.size + 1) number
    match node.tag, node.content with
    | .timestamp, .mapping _ => throw .timestampNotScalar
    | tag, _ =>
        let value ← (Scalar.value tag (number + 1) chars : Except Fault Value)
        modify fun state => { state with
          scalars := state.scalars.setIfInBounds number (some value) }

def meetKey (number : Nat) : Traverse Unit := do
  meet number
  if (← nodeAt number).tag.isCollection then throw .malformed

def meetEntries : List (Nat × Nat) → Traverse Unit
  | [] => return
  | (key, value) :: entries => do
      meetKey key
      meet value
      meetEntries entries

/-- Meets the keys and values of mappings with one entry. -/
def meetPairs : List Nat → Traverse Unit
  | [] => return
  | item :: items => do
      match ← entriesOf item with
      | some [(key, value)] =>
          meet key
          meet value
          meetPairs items
      | _ => throw .malformed

def visit (number : Nat) : Traverse Unit := do
  let node ← nodeAt number
  match node.tag, node.content with
  | .sequence, .sequence items => items.forM meet
  | .orderedMapping, .sequence items | .pairs, .sequence items => meetPairs items
  | .mapping, .mapping _ | .set, .mapping _ =>
      let size := (← get).nodes.size
      takeMerges ((size + 4) * (size + 4)) number
      meetEntries ((← entriesOf number).getD [])
  | _, _ => throw .malformed

/-- Visits collections in order, and then those met meanwhile, until there are none. -/
def visitAll : Nat → List Nat → Traverse Unit
  | 0, _ => return
  | fuel + 1, numbers => do
      numbers.forM visit
      let waiting := (← get).waiting.reverse
      modify fun state => { state with waiting := [] }
      if !waiting.isEmpty then visitAll fuel waiting

/-- Visits all nodes that can be reached from a root. -/
def visitFrom (root : Nat) : Traverse Unit := do
  meet root
  visitAll ((← get).nodes.size + 1) []

end Traverse

namespace Traversal

/-- The value of a node of which nothing is known but its type. -/
def shallow (traversal : Traversal) (mark : Option Nat) (number : Nat) : Value :=
  match traversal.scalars[number]?.join with
  | some value => value
  | none =>
      match traversal.nodes[number]?.map Node.tag with
      | some .mapping => .map mark []
      | some .set => .set mark []
      | _ => .list mark []

def markOf (looped : Bool) (number : Nat) : Option Nat :=
  if looped then some (2 * number) else none

def pairMarkOf (looped : Bool) (number : Nat) : Option Nat :=
  if looped then some (2 * number + 1) else none

/-- The values of keys, each one once. -/
def distinct (keys : List Value) : List Value :=
  (Mapping.ofEntries (keys.map fun key => (key, .null))).map Prod.fst

/-- The value of a collection from the values of its parts. -/
def build (traversal : Traversal) (looped : Bool) (values : Array Value) (number : Nat) :
    Value :=
  let valueAt (part : Nat) : Value := values[part]?.getD .null
  let mark := markOf looped number
  let pair (item : Nat) : Value :=
    match traversal.nodes[item]?.map Node.content with
    | some (.mapping [(key, value)]) =>
        .tuple (pairMarkOf looped item) [valueAt key, valueAt value]
    | _ => .null
  match traversal.nodes[number]? with
  | some ⟨.sequence, .sequence items⟩ => .list mark (items.map valueAt)
  | some ⟨.orderedMapping, .sequence items⟩ | some ⟨.pairs, .sequence items⟩ =>
      .list mark (items.map pair)
  | some ⟨.mapping, .mapping entries⟩ =>
      .map mark (Mapping.ofEntries
        (entries.map fun entry => (valueAt entry.1, valueAt entry.2)))
  | some ⟨.set, .mapping entries⟩ =>
      .set mark (distinct (entries.map fun entry => valueAt entry.1))
  | _ => .null

/-- The values after the collections were built from them in order. -/
def rebuild (traversal : Traversal) (looped : Bool) (order : List Nat)
    (values : Array Value) : Array Value :=
  order.foldl
    (fun values number =>
      if traversal.met[number]?.getD false then
        values.setIfInBounds number (traversal.build looped values number)
      else
        values)
    values

/-- The values after they were rebuilt a number of times. -/
def rebuildTimes (traversal : Traversal) (looped : Bool) (order : List Nat) :
    Nat → Array Value → Array Value
  | 0, values => values
  | times + 1, values =>
      rebuildTimes traversal looped order times
        (traversal.rebuild looped order values)

/-- How many levels of a schema are looked at before a value is written out. -/
def schemaDepth : Nat := 10

/-- The value of the root once all nodes have been visited. -/
def value (traversal : Traversal) (document : Document) : Value :=
  let looped := document.looped
  let start := Array.ofFn fun number : Fin traversal.nodes.size =>
    traversal.shallow (markOf looped number) number
  let collections := traversal.met.countP id
  let times := if looped then 2 * collections + schemaDepth else 1
  let values := traversal.rebuildTimes looped document.order times start
  values[document.root]?.getD .null

end Traversal

namespace Document

def value (document : Document) : Except Fault Value := do
  let start : Traversal := {
    nodes := document.nodes
    scalars := Array.replicate document.nodes.size none
    met := Array.replicate document.nodes.size false }
  let (_, traversal) ← (Traverse.visitFrom document.root).run start
  return traversal.value document

end Document

end Yaml

end SchemaDdl
