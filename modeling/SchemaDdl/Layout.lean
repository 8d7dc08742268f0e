import SchemaDdl.Text.Blank

/-!
# Layout of rows in aligned columns

A row is a list of cells.  The width of a column is the length of its longest cell, cells are padded
to the width of their column on the left or on the right, and a line carries no blank characters at
its end.  Rows without cells give empty lines and have no part in the widths.  The lines of a
statement body are indented and separated by commas.
-/

namespace SchemaDdl

namespace Layout

/-- The cells of one line, from left to right. -/
abbrev Row := List String

/-- The greater entry at each position of two lists of widths; where one list has ended, the entries
of the other one. -/
def widen : List Nat → List Nat → List Nat
  | [], others => others
  | widths, [] => widths
  | width :: widths, other :: others => max width other :: widen widths others

/-- The width of each column: the length of the longest cell that any row has at that position. -/
def widths (rows : List Row) : List Nat :=
  rows.foldr (fun row widths => widen (row.map String.length) widths) []

/-- How lines are set: the positions whose cells stand at the right end of their column, and the
text between neighbouring cells. -/
structure Style where
  rightAligned : List Int := []
  gutter : String := " "

/-- A cell padded to the width of its column on the side that its position asks for. -/
def placeCell (style : Style) (position width : Nat) (cell : String) : String :=
  if (position : Int) ∈ style.rightAligned then
    Text.padStart width cell
  else
    Text.padEnd width cell

/-- The padded cells of a row, the first of which stands at `position`. -/
def placeCells (style : Style) (position : Nat) : Row → List Nat → List String
  | cell :: row, width :: widths =>
      placeCell style position width cell ::
        placeCells style (position + 1) row widths
  | _, _ => []

/-- The line of a row under given column widths. -/
def line (style : Style) (widths : List Nat) (row : Row) : String :=
  Text.trimEnd (style.gutter.intercalate (placeCells style 0 row widths))

/-- One line for each row, all under the common column widths. -/
def lines (style : Style) (rows : List Row) : List String :=
  rows.map (line style (widths rows))

/-- The indentation of the lines of a statement body. -/
def indent : String := "    "

/-- A line of a statement body with what follows it; a blank line stays empty and is followed by
nothing. -/
def bodyLine (line following : String) : String :=
  let content := Text.trim line
  if content.isEmpty then "" else indent ++ content ++ following

/-- The lines of a statement body, with a comma behind all but the last. -/
def bodyLines : List String → List String
  | [] => []
  | [line] => [bodyLine line ""]
  | line :: next :: lines => bodyLine line "," :: bodyLines (next :: lines)

@[simp]
theorem widen_nil (widths : List Nat) : widen widths [] = widths := by
  cases widths <;> rfl

theorem getElem?_widen_eq_merge (widths others : List Nat) (index : Nat) :
    (widen widths others)[index]? = (widths[index]?).merge max others[index]? := by
  induction widths generalizing others index with
  | nil => simp [widen]
  | cons width widths induction =>
      cases others with
      | nil => simp [widen]
      | cons other others =>
          cases index with
          | zero => simp [widen]
          | succ index => simpa [widen] using induction others index

/-- An entry of two lists of widths taken together is the greater of theirs, a missing one counting
as nought. -/
theorem getElem?_widen (widths others : List Nat) (index : Nat) :
    (widen widths others)[index]?.getD 0 =
      max (widths[index]?.getD 0) (others[index]?.getD 0) := by
  rw [getElem?_widen_eq_merge]
  cases widths[index]? <;> cases others[index]? <;> simp

@[simp]
theorem length_widen (widths others : List Nat) :
    (widen widths others).length = max widths.length others.length := by
  induction widths generalizing others with
  | nil => simp [widen]
  | cons width widths induction =>
      cases others with
      | nil => simp [widen]
      | cons other others =>
          simp only [widen, List.length_cons, induction]
          omega

theorem widths_cons (row : Row) (rows : List Row) :
    widths (row :: rows) = widen (row.map String.length) (widths rows) :=
  rfl

@[simp]
theorem length_lines (style : Style) (rows : List Row) :
    (lines style rows).length = rows.length := by
  simp [lines]

@[simp]
theorem length_bodyLines (lines : List String) : (bodyLines lines).length = lines.length := by
  fun_induction bodyLines lines <;> simp_all

end Layout

end SchemaDdl
