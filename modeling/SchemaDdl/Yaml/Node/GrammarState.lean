import SchemaDdl.Yaml.Fault
import SchemaDdl.Yaml.Node
import SchemaDdl.Yaml.Token

/-!
# Steps of the grammar

What reading by the grammar keeps, and its steps on tokens and single nodes.  A node is given its
number when it begins, so that its own parts can refer to it.
-/

namespace SchemaDdl

namespace Yaml

/-- What is left of the tokens and the fault that ends them, the expansions of the tag handles, and
the nodes so far; a node that has begun and not ended is missing. -/
structure GrammarState where
  tokens : List Token
  fault : Option Fault
  handles : List (List Char × List Char) := []
  anchors : List (List Char × Nat) := []
  nodes : Array (Option Node) := #[]
  order : List Nat := []
  looped : Bool := false

abbrev Grammar := StateT GrammarState (Except Fault)

namespace Grammar

/-- Gives up on a text that is not a document. -/
def malformed {α : Type} : Grammar α :=
  throw .malformed

def peek : Grammar Token := do
  let state ← get
  match state.tokens with
  | token :: _ => return token
  | [] => throw (state.fault.getD .malformed)

/-- Leaves the next token behind. -/
def advance : Grammar Unit :=
  modify fun state => { state with tokens := state.tokens.drop 1 }

/-- Leaves the next token behind, which has to be the given one. -/
def expect (token : Token) : Grammar Unit := do
  if (← peek) = token then advance else malformed

/-- Begins a node: gives it a number, by which its anchor, if any, refers to it. -/
def beginNode (anchor : Option (List Char)) : Grammar Nat := do
  let state ← get
  let number := state.nodes.size
  match anchor with
  | none => set { state with nodes := state.nodes.push none }
  | some name =>
      if state.anchors.any fun entry => entry.1 = name then malformed
      set { state with
        nodes := state.nodes.push none
        anchors := (name, number) :: state.anchors }
  return number

def endNode (number : Nat) (tag : Tag) (content : Content) : Grammar Nat := do
  modify fun state => { state with
    nodes := state.nodes.setIfInBounds number (some { tag, content })
    order := number :: state.order }
  return number

def scalarNode (anchor : Option (List Char)) (tag : Tag) (chars : List Char) : Grammar Nat := do
  let number ← beginNode anchor
  endNode number tag (.scalar chars)

def emptyNode : Grammar Nat :=
  scalarNode none .null []

def aliasedNode (name : List Char) : Grammar Nat := do
  let state ← get
  match state.anchors.find? fun entry => entry.1 = name with
  | none => malformed
  | some (_, number) =>
      if state.nodes[number]?.join.isNone then set { state with looped := true }
      return number

def tagName (handle : Option (List Char)) (suffix : List Char) : Grammar (List Char) := do
  match handle with
  | none => return suffix
  | some handle =>
      match (← get).handles.find? fun entry => entry.1 = handle with
      | none => malformed
      | some (_, expansion) => return expansion ++ suffix

/-- The anchor and the full name of the tag of a node, in either order. -/
def properties : Grammar (Option (List Char) × Option (List Char)) := do
  match ← peek with
  | .anchor name =>
      advance
      match ← peek with
      | .tag handle suffix =>
          advance
          return (some name, some (← tagName handle suffix))
      | _ => return (some name, none)
  | .tag handle suffix =>
      advance
      match ← peek with
      | .anchor name =>
          advance
          return (some name, some (← tagName handle suffix))
      | _ => return (none, some (← tagName handle suffix))
  | _ => return (none, none)

/-- Whether a tag leaves the type of a node to its look. -/
def isOpen (tag : Option (List Char)) : Bool :=
  tag = none || tag = some ['!']

def collectionTag (tag : Option (List Char)) (usual : Tag) : Tag :=
  if isOpen tag then usual else (tag.map Tag.ofName).getD usual

/-- The type of a scalar, by its tag or by its look; without a tag only a plain scalar has a type by
its look. -/
def scalarTag (tag : Option (List Char)) (plain : Bool) (chars : List Char) : Tag :=
  match tag with
  | none => if plain then .implicit chars else .text
  | some name => if name = ['!'] then .implicit chars else .ofName name

/-- A node with an anchor or a tag and nothing else; without either there is no node. -/
def untoldNode (anchor tag : Option (List Char)) : Grammar Nat :=
  if anchor.isNone && tag.isNone then malformed
  else scalarNode anchor (scalarTag tag true []) []

end Grammar

end Yaml

end SchemaDdl
