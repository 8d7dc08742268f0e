import SchemaDdl.Proofs.Layout.Widths
import SchemaDdl.Proofs.Text.Trim

/-!
# The lines of rows

A line is the cells of its row with spaces between and behind them, trimmed at its end.  The width
of a column is there for every cell of every row, so that no cell of a row is lost in its line.
-/

namespace SchemaDdl

namespace Layout

theorem length_le_length_widths {rows : List Row} {row : Row} (member : row ∈ rows) :
    row.length ≤ (widths rows).length := by
  simpa using (within_widths_of_mem member).length_le

/-- Characters that hold the cells of a row in order, with a gap between two of them and nothing but
spaces behind the last one. -/
inductive Spread : Row → List Char → Prop
  | last {cell : String} {after : List Char} (spaces : ∀ c ∈ after, c = ' ') :
      Spread [cell] (cell.toList ++ after)
  | cons {cell : String} {gap : List Char} {row : Row} {chars : List Char}
      (isGap : Text.IsGap gap) (rest : Spread row chars) :
      Spread (cell :: row) (cell.toList ++ gap ++ chars)

theorem toList_placeCell_eq (style : Style) (position width : Nat) (cell : String) :
    (placeCell style position width cell).toList =
      if (position : Int) ∈ style.rightAligned then
        List.replicate (width - cell.length) ' ' ++ cell.toList
      else cell.toList ++ List.replicate (width - cell.length) ' ' := by
  rw [placeCell]
  split
  · exact Text.toList_padStart width cell
  · exact Text.toList_padEnd width cell

/-- A placed cell is the cell with spaces on either side; one that does not stand at the right end
of its column begins its place. -/
theorem toList_placeCell (style : Style) (position width : Nat) (cell : String) :
    ∃ before after, (placeCell style position width cell).toList =
        List.replicate before ' ' ++ cell.toList ++ List.replicate after ' ' ∧
      ((position : Int) ∉ style.rightAligned → before = 0) := by
  rw [toList_placeCell_eq]
  split
  case isTrue right => exact ⟨width - cell.length, 0, by simp, fun left => absurd right left⟩
  case isFalse => exact ⟨0, width - cell.length, by simp, fun _ => rfl⟩

theorem spread_placeCells {style : Style} (gutter : Text.IsGap style.gutter.toList)
    {row : Row} (nonempty : row ≠ []) (position : Nat) {widths : List Nat}
    (wide : row.length ≤ widths.length) :
    ∃ before chars, Spread row chars ∧
      (style.gutter.intercalate (placeCells style position row widths)).toList =
        List.replicate before ' ' ++ chars ∧
      ((position : Int) ∉ style.rightAligned → before = 0) := by
  induction row generalizing position widths with
  | nil => exact absurd rfl nonempty
  | cons cell row induction =>
      cases widths with
      | nil => simp at wide
      | cons width widths =>
          obtain ⟨before, after, placed, left⟩ := toList_placeCell style position width cell
          cases row with
          | nil =>
              refine ⟨before, cell.toList ++ List.replicate after ' ',
                .last fun c => List.eq_of_mem_replicate, ?_, left⟩
              simp [placeCells, placed]
          | cons next row =>
              cases widths with
              | nil => simp at wide
              | cons nextWidth widths =>
                  obtain ⟨nextBefore, chars, spread, joined, -⟩ :=
                    induction (by simp) (position + 1) (Nat.le_of_succ_le_succ wide)
                  let gap := List.replicate after ' ' ++ style.gutter.toList ++
                    List.replicate nextBefore ' '
                  have isGap : Text.IsGap gap := by
                    refine ⟨by simp [gap, gutter.1], ?_⟩
                    intro c member
                    simp only [gap, List.mem_append] at member
                    rcases member with (member | member) | member
                    · exact List.eq_of_mem_replicate member
                    · exact gutter.2 c member
                    · exact List.eq_of_mem_replicate member
                  refine ⟨before, cell.toList ++ gap ++ chars, .cons isGap spread, ?_, left⟩
                  rw [placeCells] at joined
                  rw [placeCells, placeCells, String.intercalate_cons_cons, String.toList_append,
                    String.toList_append, joined, placed]
                  simp [gap]

theorem eq_space_or_mem_of_mem_spread {row : Row} {chars : List Char} (spread : Spread row chars)
    {c : Char} (member : c ∈ chars) : c = ' ' ∨ ∃ cell ∈ row, c ∈ cell.toList := by
  induction spread with
  | @last cell after spaces =>
      rcases List.mem_append.mp member with inCell | inAfter
      · exact .inr ⟨cell, by simp, inCell⟩
      · exact .inl (spaces c inAfter)
  | @cons cell gap row chars isGap rest induction =>
      simp only [List.mem_append] at member
      rcases member with (inCell | inGap) | inRest
      · exact .inr ⟨cell, by simp, inCell⟩
      · exact .inl (isGap.2 c inGap)
      · rcases induction inRest with space | ⟨other, otherMember, inOther⟩
        · exact .inl space
        · exact .inr ⟨other, List.mem_cons_of_mem _ otherMember, inOther⟩

/-- The line of one of the rows under their widths holds its cells in order, trimmed at its end. -/
theorem spread_line {style : Style} (gutter : Text.IsGap style.gutter.toList)
    (left : (0 : Int) ∉ style.rightAligned) {rows : List Row} {row : Row} (member : row ∈ rows)
    (nonempty : row ≠ []) :
    ∃ chars, Spread row chars ∧
      (line style (widths rows) row).toList = Text.dropBlankEnd chars := by
  obtain ⟨before, chars, spread, joined, atStart⟩ :=
    spread_placeCells gutter nonempty 0 (length_le_length_widths member)
  refine ⟨chars, spread, ?_⟩
  rw [line, Text.toList_trimEnd, joined, atStart (by simpa using left)]
  rfl

/-- A line that is not empty and has no blank characters at its ends. -/
structure IsTrimmed (line : String) : Prop where
  startsSolid : Text.StartsSolid line.toList
  endsSolid : Text.EndsSolid line.toList
  nonempty : line.toList ≠ []

/-- The line of a row has no blank characters at its ends if its first cell begins with a character
that is not blank. -/
theorem isTrimmed_of_spread {cell : String} {row : Row} {chars : List Char}
    (spread : Spread (cell :: row) chars) (startsSolid : Text.StartsSolid cell.toList)
    (nonempty : cell.toList ≠ []) {line : String}
    (lineEq : line.toList = Text.dropBlankEnd chars) : IsTrimmed line := by
  obtain ⟨c, inCell, cellEq⟩ := List.exists_cons_of_ne_nil nonempty
  have solid : Text.isBlank c = false := startsSolid c (by simp [cellEq])
  obtain ⟨rest, rfl⟩ : ∃ rest, chars = c :: rest := by
    cases spread with
    | last spaces => exact ⟨inCell ++ _, by rw [cellEq]; rfl⟩
    | cons isGap rest => exact ⟨inCell ++ _ ++ _, by rw [cellEq]; rfl⟩
  have kept : line.toList = c :: Text.dropBlankEnd rest := by
    rw [lineEq, Text.dropBlankEnd_cons_of_solid solid]
  refine ⟨?_, ?_, ?_⟩
  · rw [kept]
    exact Text.startsSolid_cons solid _
  · rw [lineEq]
    exact Text.endsSolid_dropBlankEnd _
  · rw [kept]
    simp

/-- Lines whose rows begin with a solid cell have no blank characters at their ends. -/
theorem isTrimmed_of_mem_lines {style : Style} (gutter : Text.IsGap style.gutter.toList)
    (left : (0 : Int) ∉ style.rightAligned) {rows : List Row}
    (startSolid : ∀ row ∈ rows, ∃ cell rest, row = cell :: rest ∧
      Text.StartsSolid cell.toList ∧ cell.toList ≠ []) :
    ∀ line ∈ lines style rows, IsTrimmed line := by
  intro text member
  obtain ⟨row, isRow, rfl⟩ := List.mem_map.mp member
  obtain ⟨cell, rest, rfl, startsSolid, nonempty⟩ := startSolid row isRow
  obtain ⟨chars, spread, charsEq⟩ := spread_line gutter left isRow (by simp)
  exact isTrimmed_of_spread spread startsSolid nonempty charsEq

/-- A line that keeps all its characters in the body of a statement. -/
structure IsContent (line : String) : Prop where
  startsSolid : Text.StartsSolid line.toList
  endsSolid : Text.EndsSolid line.toList
  nonempty : line.toList ≠ []
  onOneLine : '\n' ∉ line.toList

/-- The line of a row is a content if its first cell begins with a character that is not blank. -/
theorem isContent_of_spread {cell : String} {row : Row} {chars : List Char}
    (spread : Spread (cell :: row) chars) (startsSolid : Text.StartsSolid cell.toList)
    (nonempty : cell.toList ≠ []) (onOneLine : ∀ other ∈ cell :: row, '\n' ∉ other.toList)
    {line : String} (lineEq : line.toList = Text.dropBlankEnd chars) : IsContent line := by
  have trimmed := isTrimmed_of_spread spread startsSolid nonempty lineEq
  refine ⟨trimmed.startsSolid, trimmed.endsSolid, trimmed.nonempty, ?_⟩
  rw [lineEq]
  intro member
  rcases eq_space_or_mem_of_mem_spread spread (Text.mem_of_mem_dropBlankEnd member) with
    space | ⟨other, isCell, inOther⟩
  · exact absurd space (by decide)
  · exact onOneLine other isCell inOther

/-- The body of a statement takes no character from a line that is trimmed; what follows it stands
right behind it. -/
theorem bodyLine_eq {line : String} (trimmed : IsTrimmed line) (following : String) :
    bodyLine line following = indent ++ line ++ following := by
  have same : Text.trim line = line := by
    apply String.toList_injective
    rw [Text.toList_trim, Text.dropBlankStart_eq_self trimmed.startsSolid,
      Text.dropBlankEnd_eq_self trimmed.endsSolid]
  have notEmpty : ¬line.isEmpty := by
    intro empty
    exact trimmed.nonempty (by simpa using empty)
  rw [bodyLine, same, if_neg notEmpty]

/-- The lines of a statement body carry their content behind the indentation; what follows a line
stands right behind it. -/
theorem toList_bodyLine {line : String} (content : IsContent line) (following : String) :
    (bodyLine line following).toList = indent.toList ++ line.toList ++ following.toList := by
  rw [bodyLine_eq ⟨content.startsSolid, content.endsSolid, content.nonempty⟩,
    String.toList_append, String.toList_append]

@[simp]
theorem bodyLine_empty (following : String) : bodyLine "" following = "" := by
  rfl

theorem exists_of_mem_bodyLines {lines : List String} {printed : String}
    (member : printed ∈ bodyLines lines) :
    ∃ line ∈ lines, ∃ following ∈ ["", ","], printed = bodyLine line following := by
  induction lines with
  | nil => simp [bodyLines] at member
  | cons line lines induction =>
      cases lines with
      | nil =>
          rw [bodyLines, List.mem_singleton] at member
          exact ⟨line, by simp, "", by simp, member⟩
      | cons next lines =>
          rw [bodyLines, List.mem_cons] at member
          rcases member with isFirst | inRest
          · exact ⟨line, by simp, ",", by simp, isFirst⟩
          · obtain ⟨other, isLine, following, isFollowing, equal⟩ := induction inRest
            exact ⟨other, List.mem_cons_of_mem _ isLine, following, isFollowing, equal⟩

end Layout

end SchemaDdl
