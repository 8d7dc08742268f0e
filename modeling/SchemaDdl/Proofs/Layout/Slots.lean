import Mathlib.Data.List.Forall2
import SchemaDdl.Proofs.Layout.Line

/-!
# Slots of cells

Every column has a slot, which begins at the same place in the lines of all rows and is as wide as
the column.  A line has each cell of its row in the slot of its column, at the end of the slot or at
its beginning, and the gutter between neighbouring slots; it lacks nothing but blank characters at
its end.
-/

namespace SchemaDdl

namespace Layout

/-- Where the slot of a column begins: behind the columns before it, with a gutter behind each of
them. -/
def slotStart (gutter : Nat) (widths : List Nat) (index : Nat) : Nat :=
  (widths.take index).foldr (fun width start => width + gutter + start) 0

/-- Whether a part stands at a place of characters. -/
def StandsAt (chars : List Char) (start : Nat) (part : List Char) : Prop :=
  ∃ before after, chars = before ++ part ++ after ∧ before.length = start

/-- Characters in which every cell of a row fills the slot of its column, with spaces on one side of
it, and in which there is nothing else but the gutters between the slots. -/
structure FillsSlots (style : Style) (widths : List Nat) (row : Row) (chars : List Char) :
    Prop where
  cell : ∀ (index : Nat) (cell : String), row[index]? = some cell →
    ∃ (width : Nat) (spaces : List Char), widths[index]? = some width ∧
      cell.length + spaces.length = width ∧ (∀ c ∈ spaces, c = ' ') ∧
      StandsAt chars (slotStart style.gutter.length widths index)
        (if (index : Int) ∈ style.rightAligned then spaces ++ cell.toList
          else cell.toList ++ spaces)
  gutter : ∀ index width : Nat, index + 1 < row.length → widths[index]? = some width →
    StandsAt chars (slotStart style.gutter.length widths index + width) style.gutter.toList
  length : ∀ width : Nat, widths[row.length - 1]? = some width →
    chars.length = slotStart style.gutter.length widths (row.length - 1) + width

/-- The line of a row: an empty one where the row has no cells, and otherwise one that has no blank
character at its end and fills the slots with some behind it. -/
inductive IsLineOf (style : Style) (widths : List Nat) : Row → String → Prop
  | empty : IsLineOf style widths [] ""
  | cells {row : Row} {line : String} {blank : List Char} (nonempty : row ≠ [])
      (endsSolid : Text.EndsSolid line.toList) (isBlank : ∀ c ∈ blank, Text.isBlank c = true)
      (fills : FillsSlots style widths row (line.toList ++ blank)) :
      IsLineOf style widths row line

theorem slotStart_cons_succ (gutter width : Nat) (widths : List Nat) (index : Nat) :
    slotStart gutter (width :: widths) (index + 1) =
      width + gutter + slotStart gutter widths index := rfl

/-- Where a slot begins depends on the columns before it only. -/
theorem slotStart_take {index count : Nat} (before : index ≤ count) (gutter : Nat)
    (widths : List Nat) :
    slotStart gutter (widths.take count) index = slotStart gutter widths index := by
  rw [slotStart, List.take_take, Nat.min_eq_left before, slotStart]

/-- One of several joined texts begins where its slot does; it has the gutter behind it, or nothing
where it is the last one. -/
theorem exists_split_intercalate (gutter : String) {texts : List String} {index : Nat}
    {text : String} (found : texts[index]? = some text) :
    ∃ before after, (gutter.intercalate texts).toList = before ++ text.toList ++ after ∧
      before.length = slotStart gutter.length (texts.map String.length) index ∧
      (index + 1 < texts.length → gutter.toList <+: after) ∧
      (index + 1 = texts.length → after = []) := by
  induction texts generalizing index with
  | nil => simp at found
  | cons first texts induction =>
      cases texts with
      | nil =>
          cases index with
          | zero =>
              rw [List.getElem?_cons_zero, Option.some.injEq] at found
              exact ⟨[], [], by simp [found], rfl, fun inside => by simp at inside, fun _ => rfl⟩
          | succ index => simp at found
      | cons next texts =>
          rw [String.intercalate_cons_cons, String.toList_append, String.toList_append]
          cases index with
          | zero =>
              rw [List.getElem?_cons_zero, Option.some.injEq] at found
              rw [found, List.append_assoc]
              exact ⟨[], _, rfl, rfl, fun _ => List.prefix_append _ _, fun isLast => by
                simp at isLast⟩
          | succ index =>
              -- The first text and the gutter behind it move the slots of the others along.
              obtain ⟨before, after, split, start, inside, last⟩ := induction found
              refine ⟨first.toList ++ gutter.toList ++ before, after, ?_, ?_,
                fun notLast => inside (Nat.lt_of_succ_lt_succ notLast),
                fun isLast => last (Nat.succ.inj isLast)⟩
              · simp only [split, List.append_assoc]
              · rw [List.map_cons, slotStart_cons_succ, ← start]
                simp only [List.length_append, String.length_toList]

section

variable {style : Style} {row : Row} {widths : List Nat}

theorem length_placeCell {width : Nat} {cell : String} (fits : cell.length ≤ width)
    (style : Style) (position : Nat) : (placeCell style position width cell).length = width := by
  rw [← String.length_toList, toList_placeCell_eq]
  split
  all_goals
    rw [List.length_append, List.length_replicate, String.length_toList]
    omega

theorem getElem?_placeCells (style : Style) (position : Nat) {index width : Nat} {cell : String}
    (isCell : row[index]? = some cell) (isWidth : widths[index]? = some width) :
    (placeCells style position row widths)[index]? =
      some (placeCell style (position + index) width cell) := by
  induction row generalizing position widths index with
  | nil => simp at isCell
  | cons first row induction =>
      cases widths with
      | nil => simp at isWidth
      | cons firstWidth widths =>
          rw [placeCells]
          cases index with
          | zero =>
              rw [List.getElem?_cons_zero, Option.some.injEq] at isCell isWidth
              rw [isCell, isWidth]
              rfl
          | succ index =>
              rw [List.getElem?_cons_succ] at isCell isWidth ⊢
              rw [induction (position + 1) isCell isWidth, Nat.add_right_comm, Nat.add_assoc]

/-- Placed cells are as long as their columns are wide. -/
theorem map_length_placeCells (style : Style) (position : Nat)
    (within : Within (row.map String.length) widths) :
    (placeCells style position row widths).map String.length = widths.take row.length := by
  induction row generalizing position widths with
  | nil => rfl
  | cons cell row induction =>
      rw [List.map_cons] at within
      cases within with
      | cons narrow rest =>
          rw [placeCells, List.map_cons, length_placeCell narrow, induction _ rest,
            List.length_cons, List.take_succ_cons]

theorem exists_width (within : Within (row.map String.length) widths) {index : Nat} {cell : String}
    (isCell : row[index]? = some cell) :
    ∃ width, widths[index]? = some width ∧ cell.length ≤ width := by
  apply within.exists_getElem?
  rw [List.getElem?_map, isCell]
  rfl

/-- A cell of a row fits into its column, and stands in its slot where placed cells are joined. -/
theorem exists_split_placed (style : Style) (within : Within (row.map String.length) widths)
    {index width : Nat} {cell : String} (isCell : row[index]? = some cell)
    (isWidth : widths[index]? = some width) :
    cell.length ≤ width ∧ ∃ before after,
      (style.gutter.intercalate (placeCells style 0 row widths)).toList =
        before ++ (placeCell style index width cell).toList ++ after ∧
      before.length = slotStart style.gutter.length widths index ∧
      (index + 1 < row.length → style.gutter.toList <+: after) ∧
      (index + 1 = row.length → after = []) := by
  obtain ⟨other, isOther, fits⟩ := exists_width within isCell
  obtain rfl : other = width := Option.some.inj (isOther.symm.trans isWidth)
  have isPlaced := getElem?_placeCells style 0 isCell isWidth
  rw [Nat.zero_add] at isPlaced
  obtain ⟨before, after, split, start, inside, last⟩ :=
    exists_split_intercalate style.gutter isPlaced
  have lengths := map_length_placeCells style 0 within
  have enough : row.length ≤ widths.length := by simpa using within.length_le
  have count : (placeCells style 0 row widths).length = row.length := by
    rw [← List.length_map String.length, lengths, List.length_take, Nat.min_eq_left enough]
  -- Of the widths, only those in front of the cell count for the start of its slot.
  have isBefore : index < row.length := (List.getElem?_eq_some_iff.mp isCell).1
  rw [lengths, slotStart_take isBefore.le] at start
  rw [count] at inside last
  exact ⟨fits, before, after, split, start, inside, last⟩

/-- The placed cells of a row, joined by gutters, fill the slots. -/
theorem fillsSlots_intercalate (nonempty : row ≠ [])
    (within : Within (row.map String.length) widths) :
    FillsSlots style widths row
      (style.gutter.intercalate (placeCells style 0 row widths)).toList := by
  constructor
  case cell =>
    intro index cell isCell
    obtain ⟨width, isWidth, fits⟩ := exists_width within isCell
    obtain ⟨-, before, after, split, start, -, -⟩ :=
      exists_split_placed style within isCell isWidth
    refine ⟨width, List.replicate (width - cell.length) ' ', isWidth, ?_,
      fun c => List.eq_of_mem_replicate, ?_⟩
    · rw [List.length_replicate]
      omega
    · rw [← toList_placeCell_eq]
      exact ⟨before, after, split, start⟩
  case gutter =>
    intro index width notLast isWidth
    have isCell := List.getElem?_eq_getElem (Nat.lt_of_succ_lt notLast)
    obtain ⟨fits, before, after, split, start, inside, -⟩ :=
      exists_split_placed style within isCell isWidth
    obtain ⟨rest, rfl⟩ := inside notLast
    refine ⟨before ++ (placeCell style index width row[index]).toList, rest, ?_, ?_⟩
    · rw [split]
      simp only [List.append_assoc]
    · rw [List.length_append, start, String.length_toList, length_placeCell fits]
  case length =>
    intro width isWidth
    have positive : 0 < row.length := List.length_pos_of_ne_nil nonempty
    have isCell := List.getElem?_eq_getElem (Nat.sub_one_lt_of_lt positive)
    obtain ⟨fits, before, after, split, start, -, last⟩ :=
      exists_split_placed style within isCell isWidth
    rw [split, last (Nat.sub_add_cancel positive), List.append_nil, List.length_append, start,
      String.length_toList, length_placeCell fits]

end

/-- The line of a row whose cells fit into their columns. -/
theorem isLineOf_line (style : Style) {row : Row} {widths : List Nat}
    (within : Within (row.map String.length) widths) :
    IsLineOf style widths row (line style widths row) := by
  by_cases empty : row = []
  · rw [empty]
    exact .empty
  · obtain ⟨blank, isBlank, whole⟩ := Text.exists_dropBlankEnd_append
      (style.gutter.intercalate (placeCells style 0 row widths)).toList
    have trimmed : (line style widths row).toList =
        Text.dropBlankEnd (style.gutter.intercalate (placeCells style 0 row widths)).toList := by
      rw [line, Text.toList_trimEnd]
    refine .cells empty ?_ isBlank ?_
    · rw [trimmed]
      exact Text.endsSolid_dropBlankEnd _
    · rw [trimmed, whole]
      exact fillsSlots_intercalate empty within

/-- Every row has its line, in which its cells stand in their slots: those of the columns of all
rows with cells. -/
theorem lines_fill_slots (style : Style) (rows : List Row) :
    List.Forall₂ (IsLineOf style (widths (rows.filter fun row => !row.isEmpty))) rows
      (lines style rows) := by
  have sameWidths : widths (rows.filter fun row => !row.isEmpty) = widths rows := by
    apply widths_congr
    intro row nonempty
    simp [nonempty]
  rw [sameWidths, lines, List.forall₂_map_right_iff, List.forall₂_same]
  intro row member
  exact isLineOf_line style (within_widths_of_mem member)

end Layout

end SchemaDdl
