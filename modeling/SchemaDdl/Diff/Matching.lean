/-!
# Common blocks of two lists of lines

A block is a stretch of lines that both lists have.  The longest block of two stretches is taken
first, the earliest one of several, and then those in front of it and behind it.  A line that is
frequent in a long list begins no block; it only extends the block of other lines, or the start of
the stretches, at either end.
-/

namespace SchemaDdl

namespace Diff

/-- A stretch of lines that two lists have in common: where it starts in either list, and how many
lines it has. -/
structure Block where
  oldStart : Nat
  newStart : Nat
  size : Nat
  deriving DecidableEq

/-- Parts of two lists, given by the positions at which they start and before which they end. -/
structure Window where
  oldStart : Nat
  oldEnd : Nat
  newStart : Nat
  newEnd : Nat

/-- The lists under comparison, with the positions in the new list where a block can match each line
of the old one. -/
structure Comparison where
  old : Array String
  new : Array String
  candidates : Array (List Nat)

/-- The number of lines from which on frequent lines begin no block. -/
def frequencyThreshold : Nat := 200

/-- Whether a line that occurs as often as given is frequent among some number of lines: it is more
than one line in a hundred. -/
def isFrequent (lines occurrences : Nat) : Bool :=
  frequencyThreshold ≤ lines && lines / 100 + 1 < occurrences

/-- The positions of a line in a list, unless it is frequent there. -/
def candidatePositions (new : List String) (line : String) : List Nat :=
  let positions := (new.zipIdx.filter fun entry => entry.1 = line).map Prod.snd
  if isFrequent new.length positions.length then [] else positions

namespace Comparison

def of (old new : List String) : Comparison where
  old := old.toArray
  new := new.toArray
  candidates := (old.map (candidatePositions new)).toArray

/-- Whether the lines at two positions are there and equal. -/
def agree (comparison : Comparison) (oldPosition newPosition : Nat) : Bool :=
  match comparison.old[oldPosition]?, comparison.new[newPosition]? with
  | some oldLine, some newLine => oldLine = newLine
  | _, _ => false

end Comparison

/-- The lengths of the runs of candidates that end at a line of the old list, by where they end in
the new one; `previous` are those that end a line before. -/
def extendRuns (window : Window) (candidates : List Nat) (previous : List (Nat × Nat)) :
    List (Nat × Nat) :=
  (candidates.filter fun position =>
      window.newStart ≤ position && position < window.newEnd).map
    fun position =>
      (position,
        ((previous.find? fun run => run.1 + 1 = position).map fun run => run.2 + 1).getD 1)

/-- The longer of a block and the longest run that ends at a line of the old list; the block where
they are of one length. -/
def longerRun (oldPosition : Nat) (best : Block) (runs : List (Nat × Nat)) : Block :=
  runs.foldl
    (fun best run =>
      if best.size < run.2 then ⟨oldPosition + 1 - run.2, run.1 + 1 - run.2, run.2⟩ else best)
    best

/-- The longest run of candidates in a window, from a position of the old list on, as many lines as
given. -/
def longestRun (comparison : Comparison) (window : Window) :
    Nat → Nat → List (Nat × Nat) → Block → Block
  | 0, _, _, best => best
  | lines + 1, oldPosition, previous, best =>
      let candidates := comparison.candidates[oldPosition]?.getD []
      let runs := extendRuns window candidates previous
      longestRun comparison window lines (oldPosition + 1) runs (longerRun oldPosition best runs)

/-- A block with the equal lines in front of it inside a window, at most as many as given. -/
def extendStart (comparison : Comparison) (window : Window) : Nat → Block → Block
  | 0, block => block
  | lines + 1, block =>
      if window.oldStart < block.oldStart ∧ window.newStart < block.newStart ∧
          comparison.agree (block.oldStart - 1) (block.newStart - 1) then
        extendStart comparison window lines
          ⟨block.oldStart - 1, block.newStart - 1, block.size + 1⟩
      else
        block

/-- A block with the equal lines behind it inside a window, at most as many as given. -/
def extendEnd (comparison : Comparison) (window : Window) : Nat → Block → Block
  | 0, block => block
  | lines + 1, block =>
      if block.oldStart + block.size < window.oldEnd ∧
          block.newStart + block.size < window.newEnd ∧
          comparison.agree (block.oldStart + block.size) (block.newStart + block.size) then
        extendEnd comparison window lines { block with size := block.size + 1 }
      else
        block

def longestBlock (comparison : Comparison) (window : Window) : Block :=
  let lines := window.oldEnd - window.oldStart
  let run := longestRun comparison window lines window.oldStart []
    ⟨window.oldStart, window.newStart, 0⟩
  extendEnd comparison window lines (extendStart comparison window lines run)

/-- The blocks of a window in order.  Every block takes a line of the old list, so that the number
of these bounds the depth. -/
def blocks (comparison : Comparison) : Nat → Window → List Block
  | 0, _ => []
  | fuel + 1, window =>
      let block := longestBlock comparison window
      if block.size = 0 then
        []
      else
        blocks comparison fuel
            { window with oldEnd := block.oldStart, newEnd := block.newStart } ++
          block ::
            blocks comparison fuel
              { window with
                oldStart := block.oldStart + block.size
                newStart := block.newStart + block.size }

/-- The blocks that two lists have in common, in order. -/
def matchingBlocks (old new : List String) : List Block :=
  blocks (Comparison.of old new) (old.length + 1) ⟨0, old.length, 0, new.length⟩

end Diff

end SchemaDdl
