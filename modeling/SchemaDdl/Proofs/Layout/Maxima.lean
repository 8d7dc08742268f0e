import SchemaDdl.Layout

/-!
# Widths as greatest lengths

The width of a column is the greatest length of the cells that stand in it, and there are as many
columns as the longest row has cells.  So rows taken together have the greater widths of both parts.
The widths can be collected cell by cell from left to right: a cell behind the last column begins a
new one, and it never stands further behind.
-/

namespace SchemaDdl

namespace Layout

theorem widen_assoc (first second third : List Nat) :
    widen (widen first second) third = widen first (widen second third) := by
  apply List.ext_getElem?
  intro index
  simp only [getElem?_widen_eq_merge]
  exact Std.Associative.assoc _ _ _

theorem widths_append (rows others : List Row) :
    widths (rows ++ others) = widen (widths rows) (widths others) := by
  induction rows with
  | nil => rfl
  | cons row rows induction =>
      rw [List.cons_append, widths_cons, widths_cons, induction, widen_assoc]

/-- The lengths of the cells at a position, of the rows that reach there. -/
def cellLengths (rows : List Row) (index : Nat) : List Nat :=
  rows.filterMap fun row => row[index]?.map String.length

theorem mem_cellLengths {rows : List Row} {index length : Nat} :
    length ∈ cellLengths rows index ↔
      ∃ row ∈ rows, ∃ cell : String, row[index]? = some cell ∧ cell.length = length := by
  simp [cellLengths, Option.map_eq_some_iff]

theorem getElem?_widths (rows : List Row) (index : Nat) :
    (widths rows)[index]? = (cellLengths rows index).max? := by
  induction rows with
  | nil => rfl
  | cons row rows induction =>
      rw [widths_cons, getElem?_widen_eq_merge, induction, List.getElem?_map]
      cases reaches : row[index]? with
      | none => simp [cellLengths, reaches]
      | some cell =>
          have lengths : cellLengths (row :: rows) index =
              cell.length :: cellLengths rows index := by
            simp [cellLengths, reaches]
          rw [lengths, List.max?_cons]
          cases (cellLengths rows index).max? with
          | none => rfl
          | some greatest => rfl

theorem length_widths (rows : List Row) :
    (widths rows).length = (rows.map List.length).max?.getD 0 := by
  induction rows with
  | nil => rfl
  | cons row rows induction =>
      rw [widths_cons, length_widen, induction, List.length_map, List.map_cons, List.max?_cons]
      cases (rows.map List.length).max? with
      | none => simp
      | some greatest => rfl

/-- The widths once a cell at a position is counted: a cell right behind the last column begins a
new one.  There is none if the position is further behind. -/
def countCell (widths : List Nat) (position : Nat) (cell : String) : Option (List Nat) :=
  let grown := if widths.length ≤ position then widths ++ [0] else widths
  grown[position]?.map fun width => grown.set position (max width cell.length)

def countRow (widths : List Nat) (row : Row) : Option (List Nat) :=
  row.zipIdx.foldlM (fun widths entry => countCell widths entry.2 entry.1) widths

/-- The widths of rows as they are collected cell by cell. -/
def countRows (rows : List Row) : Option (List Nat) :=
  rows.foldlM countRow []

/-- A cell behind some columns is counted in the next one, if there is one, and in a new one
otherwise; the columns behind stay as they are. -/
theorem countCell_append (front back : List Nat) (cell : String) :
    countCell (front ++ back) front.length cell =
      some (front ++ widen (back.take 1) [cell.length] ++ back.drop 1) := by
  cases back with
  | nil => simp [countCell, widen]
  | cons width back =>
      have inside : ¬(front ++ width :: back).length ≤ front.length := by simp
      simp only [countCell, if_neg inside]
      simp [widen]

/-- The columns in front of a position stay as they are while the cells from there on are
counted. -/
theorem foldlM_countCell (front back : List Nat) (row : Row) :
    (row.zipIdx front.length).foldlM (fun widths entry => countCell widths entry.2 entry.1)
        (front ++ back) =
      some (front ++ widen back (row.map String.length)) := by
  induction row generalizing front back with
  | nil => simp
  | cons cell row induction =>
      rw [List.zipIdx_cons, List.foldlM_cons, countCell_append]
      have counted : (front ++ widen (back.take 1) [cell.length]).length = front.length + 1 := by
        cases back <;> simp [widen]
      rw [← counted]
      refine (induction _ _).trans ?_
      cases back with
      | nil => simp [widen]
      | cons width back => simp [widen]

theorem countRow_eq (widths : List Nat) (row : Row) :
    countRow widths row = some (widen widths (row.map String.length)) :=
  foldlM_countCell [] widths row

theorem foldlM_countRow (counted : List Nat) (rows : List Row) :
    rows.foldlM countRow counted = some (widen counted (widths rows)) := by
  induction rows generalizing counted with
  | nil => simp [widths]
  | cons row rows induction =>
      rw [List.foldlM_cons, countRow_eq]
      refine (induction _).trans ?_
      rw [widen_assoc, widths_cons]

/-- There are as many widths as the longest row has cells, and each of them is the greatest length
of the cells at its position: some row has a cell of that length there, and no row has a longer one.
The widths of rows taken together are the greater ones of both parts, a missing one counting as
nought.  Counting cell by cell comes to the same widths, and every cell then finds its column or
begins the next one. -/
theorem widths_are_maxima (rows : List Row) :
    (widths rows).length = (rows.map List.length).max?.getD 0 ∧
      (∀ index width : Nat, (widths rows)[index]? = some width ↔
        (∃ row ∈ rows, ∃ cell : String, row[index]? = some cell ∧ cell.length = width) ∧
          ∀ row ∈ rows, ∀ cell : String, row[index]? = some cell → cell.length ≤ width) ∧
      (∀ others : List Row,
        (widths (rows ++ others)).length = max (widths rows).length (widths others).length ∧
          ∀ index : Nat, (widths (rows ++ others))[index]?.getD 0 =
            max ((widths rows)[index]?.getD 0) ((widths others)[index]?.getD 0)) ∧
      countRows rows = some (widths rows) := by
  refine ⟨length_widths rows, ?_, ?_, ?_⟩
  · intro index width
    rw [getElem?_widths, List.max?_eq_some_iff, mem_cellLengths]
    refine and_congr_right fun _ => ?_
    constructor
    · intro greatest row member cell found
      exact greatest _ (mem_cellLengths.mpr ⟨row, member, cell, found, rfl⟩)
    · intro greatest length member
      obtain ⟨row, isRow, cell, found, rfl⟩ := mem_cellLengths.mp member
      exact greatest row isRow cell found
  · intro others
    rw [widths_append]
    exact ⟨length_widen _ _, getElem?_widen _ _⟩
  · exact foldlM_countRow [] rows

end Layout

end SchemaDdl
