import SchemaDdl.Diff.Script
import SchemaDdl.Text.Digit

/-!
# Difference reports

A report lists the changes between two texts in hunks.  A hunk is a part of the script with a few
kept lines at its ends; changes with no more than twice as many kept lines between them are in one
hunk.  The header of a hunk states where it starts in either text and how many lines it has there.
-/

namespace SchemaDdl

namespace Diff

/-- A part of a script, with the number of lines before it in either text. -/
structure Hunk where
  oldStart : Nat
  newStart : Nat
  chunks : List Chunk
  deriving DecidableEq

namespace Hunk

/-- The kept lines at either end of a hunk. -/
def context : Nat := 3

/-- The hunks of a script of which a hunk has begun with the given chunks. -/
def collect (oldStart newStart : Nat) (begun : List Chunk) : List Chunk → List Hunk
  | [] => [⟨oldStart, newStart, begun⟩]
  | [.kept lines] => [⟨oldStart, newStart, begun ++ [.kept (lines.take context)]⟩]
  | .kept lines :: script =>
      if 2 * context < lines.length then
        let before := lines.length - context
        ⟨oldStart, newStart, begun ++ [.kept (lines.take context)]⟩ ::
          collect (oldStart + (Script.old begun).length + before)
            (newStart + (Script.new begun).length + before) [.kept (lines.drop before)] script
      else
        collect oldStart newStart (begun ++ [.kept lines]) script
  | .changed removed added :: script =>
      collect oldStart newStart (begun ++ [.changed removed added]) script

/-- The hunks of a script; there are none where nothing is changed. -/
def ofScript (script : List Chunk) : List Hunk :=
  match script with
  | [] => []
  | [.kept _] => []
  | .kept lines :: script =>
      let before := lines.length - context
      collect before before [.kept (lines.drop before)] script
  | script => collect 0 0 [] script

/-- The place of some lines behind others, in the numbering from one: the first line and the number
of lines, which is left out where it is one; of no lines, the line before them. -/
def range (before count : Nat) : String :=
  if count = 1 then Text.decimal (before + 1)
  else Text.decimal (if count = 0 then before else before + 1) ++ "," ++ Text.decimal count

def header (hunk : Hunk) : String :=
  "@@ -" ++ range hunk.oldStart (Script.old hunk.chunks).length ++
    " +" ++ range hunk.newStart (Script.new hunk.chunks).length ++ " @@"

/-- The lines of a stretch, each behind a mark. -/
def chunkLines : Chunk → List String
  | .kept lines => lines.map (" " ++ ·)
  | .changed removed added => removed.map ("-" ++ ·) ++ added.map ("+" ++ ·)

def report (hunk : Hunk) : List String :=
  hunk.header :: hunk.chunks.flatMap chunkLines

end Hunk

/-- The report of the changes from old lines to new ones under the names of their texts; it is empty
where nothing is changed. -/
def report (oldName newName : String) (old new : List String) : List String :=
  match Hunk.ofScript (Script.between old new) with
  | [] => []
  | hunks => ("--- " ++ oldName) :: ("+++ " ++ newName) :: hunks.flatMap Hunk.report

/-- The greatest number of lines of a report that are printed. -/
def reportLimit : Nat := 201

/-- The lines of a report that are printed, with a note where some are left out. -/
def truncated (lines : List String) : List String :=
  if reportLimit < lines.length then lines.take reportLimit ++ ["... (diff truncated)"]
  else lines

end Diff

end SchemaDdl
