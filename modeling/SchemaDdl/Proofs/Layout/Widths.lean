import Mathlib.Data.List.InsertIdx
import SchemaDdl.Layout

/-!
# Widths of columns

The widths of rows are the least ones within which the lengths of the cells of each row lie.  So
they depend on nothing but which rows there are: neither on their order, nor on how often a row
comes, nor on rows without cells.  A row is set in the same way wherever the widths are the same.
-/

namespace SchemaDdl

namespace Layout

/-- Whether there are no more widths than others, and none is greater than the other one at its
position. -/
inductive Within : List Nat → List Nat → Prop
  | nil (others : List Nat) : Within [] others
  | cons {width other : Nat} {widths others : List Nat} (narrow : width ≤ other)
      (rest : Within widths others) : Within (width :: widths) (other :: others)

namespace Within

variable {widths others : List Nat}

theorem refl (widths : List Nat) : Within widths widths := by
  induction widths with
  | nil => exact .nil []
  | cons width widths induction => exact .cons (Nat.le_refl width) induction

theorem antisymm (within : Within widths others) (converse : Within others widths) :
    widths = others := by
  induction within with
  | nil others =>
      cases converse
      rfl
  | cons narrow rest induction =>
      cases converse with
      | cons converseNarrow converseRest =>
          rw [Nat.le_antisymm narrow converseNarrow, induction converseRest]

theorem length_le (within : Within widths others) : widths.length ≤ others.length := by
  induction within with
  | nil others => exact Nat.zero_le _
  | cons narrow rest induction => exact Nat.succ_le_succ induction

/-- Widths lie within others if they do so at each position. -/
theorem of_getElem? (fits : ∀ index width : Nat, widths[index]? = some width →
    ∃ other, others[index]? = some other ∧ width ≤ other) : Within widths others := by
  induction widths generalizing others with
  | nil => exact .nil others
  | cons width widths induction =>
      obtain ⟨other, isFirst, narrow⟩ := fits 0 width rfl
      cases others with
      | nil => simp at isFirst
      | cons first others =>
          rw [List.getElem?_cons_zero, Option.some.injEq] at isFirst
          subst isFirst
          exact .cons narrow (induction fun index => fits (index + 1))

theorem exists_getElem? (within : Within widths others) {index width : Nat}
    (found : widths[index]? = some width) :
    ∃ other, others[index]? = some other ∧ width ≤ other := by
  induction within generalizing index with
  | nil others => simp at found
  | @cons first other widths others narrow rest induction =>
      cases index with
      | zero =>
          rw [List.getElem?_cons_zero, Option.some.injEq] at found
          subst found
          exact ⟨other, rfl, narrow⟩
      | succ index => exact induction found

end Within

/-- Of two lists of widths taken together, each lies within the same bounds as both of them. -/
theorem within_widen_iff {widths others bound : List Nat} :
    Within (widen widths others) bound ↔ Within widths bound ∧ Within others bound := by
  induction widths generalizing others bound with
  | nil => exact ⟨fun within => ⟨.nil bound, within⟩, And.right⟩
  | cons width widths induction =>
      cases others with
      | nil => exact ⟨fun within => ⟨within, .nil bound⟩, And.left⟩
      | cons other others =>
          constructor
          · rintro (_ | ⟨narrow, rest⟩)
            obtain ⟨within, othersWithin⟩ := induction.mp rest
            exact ⟨.cons (Nat.max_le.mp narrow).1 within,
              .cons (Nat.max_le.mp narrow).2 othersWithin⟩
          · rintro ⟨_ | ⟨narrow, within⟩, _ | ⟨otherNarrow, othersWithin⟩⟩
            exact .cons (Nat.max_le.mpr ⟨narrow, otherNarrow⟩)
              (induction.mpr ⟨within, othersWithin⟩)

/-- The widths of rows are the least ones within which the cells of each row lie. -/
theorem within_widths_iff {rows : List Row} {bound : List Nat} :
    Within (widths rows) bound ↔ ∀ row ∈ rows, Within (row.map String.length) bound := by
  induction rows with
  | nil => exact ⟨fun _ row member => absurd member (by simp), fun _ => .nil bound⟩
  | cons row rows induction =>
      rw [List.forall_mem_cons, ← induction, widths_cons, within_widen_iff]

theorem within_widths_of_mem {rows : List Row} {row : Row} (member : row ∈ rows) :
    Within (row.map String.length) (widths rows) :=
  within_widths_iff.mp (.refl _) row member

/-- Rows have the same widths if all rows with cells are common to them. -/
theorem widths_congr {rows others : List Row}
    (same : ∀ row, row ≠ [] → (row ∈ rows ↔ row ∈ others)) : widths rows = widths others := by
  -- Both bound each other: a row without cells lies within any widths, and any other one is common.
  have within : ∀ {rows others : List Row}, (∀ row, row ≠ [] → row ∈ rows → row ∈ others) →
      Within (widths rows) (widths others) := by
    intro rows others included
    rw [within_widths_iff]
    intro row member
    by_cases empty : row = []
    · rw [empty]
      exact .nil _
    · exact within_widths_of_mem (included row empty member)
  exact (within fun row nonempty => (same row nonempty).mp).antisymm
    (within fun row nonempty => (same row nonempty).mpr)

/-- A row whose cells fit into their columns leaves the widths as they are. -/
theorem widths_insertIdx {rows : List Row} {row : Row} (index : Nat)
    (fits : Within (row.map String.length) (widths rows)) :
    widths (rows.insertIdx index row) = widths rows := by
  apply Within.antisymm
  · rw [within_widths_iff]
    intro other member
    rcases List.eq_or_mem_of_mem_insertIdx member with rfl | isRow
    · exact fits
    · exact within_widths_of_mem isRow
  · rw [within_widths_iff]
    intro other isRow
    exact within_widths_of_mem (List.subset_insertIdx rows index row isRow)

/-- Rows are set alike in all lists that have the same rows with cells: each by itself, and a row
without cells as an empty line.  So lines are permuted with their rows, and they stay as they are
where a row is added whose cells fit into their columns. -/
theorem lines_eq_map_of_same_rows (style : Style) (rows : List Row) :
    line style (widths rows) [] = "" ∧
      (∀ others : List Row, (∀ row, row ≠ [] → (row ∈ others ↔ row ∈ rows)) →
        lines style rows = rows.map (line style (widths rows)) ∧
          lines style others = others.map (line style (widths rows))) ∧
      (∀ others : List Row, rows.Perm others → (lines style rows).Perm (lines style others)) ∧
      (∀ (added : Row) (index : Nat),
        (∀ (position : Nat) (cell : String), added[position]? = some cell →
          ∃ width, (widths rows)[position]? = some width ∧ cell.length ≤ width) →
        lines style (rows.insertIdx index added) =
          (lines style rows).insertIdx index (line style (widths rows) added)) := by
  have setAlike : ∀ others : List Row, (∀ row, row ≠ [] → (row ∈ others ↔ row ∈ rows)) →
      lines style others = others.map (line style (widths rows)) := by
    intro others same
    rw [lines, widths_congr same]
  refine ⟨rfl, fun others same => ⟨rfl, setAlike others same⟩, ?_, ?_⟩
  · intro others permuted
    rw [setAlike others fun row _ => permuted.mem_iff.symm]
    exact permuted.map _
  · intro added index fits
    have within : Within (added.map String.length) (widths rows) := by
      apply Within.of_getElem?
      intro position length found
      rw [List.getElem?_map, Option.map_eq_some_iff] at found
      obtain ⟨cell, isCell, rfl⟩ := found
      exact fits position cell isCell
    rw [lines, lines, widths_insertIdx index within, List.map_insertIdx]

/-- Rows of which one is longer than the others and one has no cells. -/
def raggedRows : List Row :=
  [["id", "NOT NULL", "x"], [], ["total", "NULL"]]

/-- The same rows in another order, one of them twice. -/
def repeatedRows : List Row :=
  [["total", "NULL"], ["id", "NOT NULL", "x"], ["total", "NULL"]]

theorem lines_eq_map_of_repeatedRows :
    (∀ row : Row, row ≠ [] → (row ∈ repeatedRows ↔ row ∈ raggedRows)) ∧
      lines ⟨[1], " "⟩ repeatedRows =
        repeatedRows.map (line ⟨[1], " "⟩ (widths raggedRows)) ∧
      lines ⟨[1], " "⟩ repeatedRows = ["total     NULL", "id    NOT NULL x", "total     NULL"] ∧
      lines ⟨[1], " "⟩ (raggedRows.insertIdx 3 ["a", "NULL"]) =
        ["id    NOT NULL x", "", "total     NULL", "a         NULL"] := by
  have same : ∀ row : Row, row ≠ [] → (row ∈ repeatedRows ↔ row ∈ raggedRows) := by
    intro row nonempty
    simp only [repeatedRows, raggedRows, List.mem_cons, List.not_mem_nil, or_false, nonempty,
      false_or]
    tauto
  have fits : ∀ (position : Nat) (cell : String), (["a", "NULL"] : Row)[position]? = some cell →
      ∃ width, (widths raggedRows)[position]? = some width ∧ cell.length ≤ width := by
    intro position cell found
    rcases position with _ | _ | position
    · cases found
      exact ⟨5, by decide, by decide⟩
    · cases found
      exact ⟨8, by decide, by decide⟩
    · simp at found
  obtain ⟨-, alike, -, added⟩ := lines_eq_map_of_same_rows ⟨[1], " "⟩ raggedRows
  exact ⟨same, (alike repeatedRows same).2, by decide, (added _ 3 fits).trans (by decide)⟩

end Layout

end SchemaDdl
