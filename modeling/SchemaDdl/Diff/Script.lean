import SchemaDdl.Diff.Matching

/-!
# Edit scripts

A script is a list of stretches of lines, each kept or changed.  The old lines are the kept and the
removed ones in order, the new lines the kept and the added ones.
-/

namespace SchemaDdl

namespace Diff

/-- A stretch of lines that is kept, or removed lines with those added in their place. -/
inductive Chunk
  | kept (lines : List String)
  | changed (removed added : List String)
  deriving DecidableEq

namespace Chunk

def old : Chunk → List String
  | .kept lines => lines
  | .changed removed _ => removed

def new : Chunk → List String
  | .kept lines => lines
  | .changed _ added => added

end Chunk

namespace Script

def old (script : List Chunk) : List String :=
  script.flatMap Chunk.old

def new (script : List Chunk) : List String :=
  script.flatMap Chunk.new

/-- A script with kept lines in front, in one stretch with kept lines behind them. -/
def consKept (lines : List String) (script : List Chunk) : List Chunk :=
  match script with
  | .kept further :: rest => .kept (lines ++ further) :: rest
  | script => if lines.isEmpty then script else .kept lines :: script

def consChanged (removed added : List String) (script : List Chunk) : List Chunk :=
  if removed.isEmpty && added.isEmpty then script else .changed removed added :: script

/-- The script that keeps blocks and changes all other lines, from two positions on, where the given
lines are left. -/
def ofBlocks (oldPosition newPosition : Nat) (old new : List String) : List Block → List Chunk
  | [] => consChanged old new []
  | block :: blocks =>
      let oldGap := block.oldStart - oldPosition
      let newGap := block.newStart - newPosition
      let rest := ofBlocks (block.oldStart + block.size) (block.newStart + block.size)
        (old.drop (oldGap + block.size)) (new.drop (newGap + block.size)) blocks
      consChanged (old.take oldGap) (new.take newGap)
        (consKept ((old.drop oldGap).take block.size) rest)

/-- The script from old lines to new ones. -/
def between (old new : List String) : List Chunk :=
  ofBlocks 0 0 old new (matchingBlocks old new)

@[simp]
theorem old_nil : old [] = [] := rfl

@[simp]
theorem new_nil : new [] = [] := rfl

@[simp]
theorem old_consKept (lines : List String) (script : List Chunk) :
    old (consKept lines script) = lines ++ old script := by
  unfold consKept
  split
  · simp [old, Chunk.old]
  · split
    · simp_all
    · simp [old, Chunk.old]

@[simp]
theorem new_consKept (lines : List String) (script : List Chunk) :
    new (consKept lines script) = lines ++ new script := by
  unfold consKept
  split
  · simp [new, Chunk.new]
  · split
    · simp_all
    · simp [new, Chunk.new]

@[simp]
theorem old_consChanged (removed added : List String) (script : List Chunk) :
    old (consChanged removed added script) = removed ++ old script := by
  unfold consChanged
  split
  · simp_all
  · simp [old, Chunk.old]

@[simp]
theorem new_consChanged (removed added : List String) (script : List Chunk) :
    new (consChanged removed added script) = added ++ new script := by
  unfold consChanged
  split
  · simp_all
  · simp [new, Chunk.new]

/-- The old lines of the script of blocks are the given ones, whatever the blocks are. -/
theorem old_ofBlocks (blocks : List Block) (oldPosition newPosition : Nat)
    (oldLines newLines : List String) :
    old (ofBlocks oldPosition newPosition oldLines newLines blocks) = oldLines := by
  induction blocks generalizing oldPosition newPosition oldLines newLines with
  | nil => simp [ofBlocks]
  | cons block blocks induction =>
      simp only [ofBlocks, old_consChanged, old_consKept, induction]
      rw [← List.drop_drop, List.take_append_drop, List.take_append_drop]

end Script

end Diff

end SchemaDdl
