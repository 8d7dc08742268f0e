import SchemaDdl.Diff.Matching

/-!
# Common blocks lie in order

Every block that is taken lies in its window, and its lines are the same in both lists.  Which lines
are frequent only decides which blocks are found: a line that begins no block never makes two
different lines equal.  The blocks of a window come one after the other in both lists.
-/

namespace SchemaDdl

namespace Diff

variable {comparison : Comparison} {window : Window}

/-- A block of equal lines inside a window. -/
structure Block.Matches (comparison : Comparison) (window : Window) (block : Block) : Prop where
  oldStart : window.oldStart ≤ block.oldStart
  oldEnd : block.oldStart + block.size ≤ window.oldEnd
  newStart : window.newStart ≤ block.newStart
  newEnd : block.newStart + block.size ≤ window.newEnd
  agree : ∀ offset < block.size,
    comparison.agree (block.oldStart + offset) (block.newStart + offset) = true

/-- The part of a window in front of a block. -/
def Window.before (window : Window) (block : Block) : Window :=
  { window with oldEnd := block.oldStart, newEnd := block.newStart }

/-- The part of a window behind a block. -/
def Window.behind (window : Window) (block : Block) : Window :=
  { window with
    oldStart := block.oldStart + block.size
    newStart := block.newStart + block.size }

/-- Blocks of equal lines, one after the other in both parts of a window. -/
def Ordered (comparison : Comparison) (window : Window) : List Block → Prop
  | [] => True
  | block :: blocks =>
      block.Matches comparison window ∧ Ordered comparison (window.behind block) blocks

/-- Candidates are equal lines. -/
def Comparison.IsSound (comparison : Comparison) : Prop :=
  ∀ oldPosition, ∀ newPosition ∈ comparison.candidates[oldPosition]?.getD [],
    comparison.agree oldPosition newPosition = true

theorem Comparison.agree_of_iff {old new : List String} {oldPosition newPosition : Nat} :
    (Comparison.of old new).agree oldPosition newPosition = true ↔
      ∃ line, old[oldPosition]? = some line ∧ new[newPosition]? = some line := by
  simp only [Comparison.agree, Comparison.of, List.getElem?_toArray]
  cases old[oldPosition]? with
  | none => simp
  | some oldLine =>
      cases new[newPosition]? with
      | none => simp
      | some newLine => simp [eq_comm]

theorem getElem?_of_mem_candidatePositions {new : List String} {line : String} {position : Nat}
    (member : position ∈ candidatePositions new line) : new[position]? = some line := by
  have isPosition : position ∈ (new.zipIdx.filter fun entry => entry.1 = line).map Prod.snd := by
    simp only [candidatePositions] at member
    split at member
    · simp at member
    · exact member
  obtain ⟨⟨found, index⟩, isEntry, rfl⟩ := List.mem_map.mp isPosition
  obtain ⟨isIndexed, same⟩ := List.mem_filter.mp isEntry
  rw [List.mem_zipIdx_iff_getElem?] at isIndexed
  rw [isIndexed, of_decide_eq_true same]

theorem Comparison.isSound_of (old new : List String) : (Comparison.of old new).IsSound := by
  intro oldPosition newPosition member
  rw [Comparison.agree_of_iff]
  simp only [Comparison.of, List.getElem?_toArray, List.getElem?_map] at member
  cases found : old[oldPosition]? with
  | none => simp [found] at member
  | some line =>
      simp only [found, Option.map_some, Option.getD_some] at member
      exact ⟨line, rfl, getElem?_of_mem_candidatePositions member⟩

namespace Block

/-- A run of equal lines that ends in front of a position of the old list, given by its last
position in the new list and its length. -/
def EndsRun (comparison : Comparison) (window : Window) (oldEnd : Nat) (run : Nat × Nat) : Prop :=
  ∃ block : Block, block.Matches comparison window ∧ block.size = run.2 ∧
    block.oldStart + run.2 = oldEnd ∧ block.newStart + run.2 = run.1 + 1

/-- The lines behind a block at which both lists agree make it longer. -/
theorem Matches.succ {block : Block} (isMatch : block.Matches comparison window)
    (oldInside : block.oldStart + block.size < window.oldEnd)
    (newInside : block.newStart + block.size < window.newEnd)
    (agree : comparison.agree (block.oldStart + block.size) (block.newStart + block.size) = true) :
    Matches comparison window { block with size := block.size + 1 } := by
  refine ⟨isMatch.oldStart, ?_, isMatch.newStart, ?_, ?_⟩
  · show block.oldStart + (block.size + 1) ≤ window.oldEnd
    omega
  · show block.newStart + (block.size + 1) ≤ window.newEnd
    omega
  · intro offset inside
    rcases Nat.lt_succ_iff_lt_or_eq.mp inside with earlier | rfl
    · exact isMatch.agree offset earlier
    · exact agree

/-- So do the lines in front of it. -/
theorem Matches.pred {block : Block} (isMatch : block.Matches comparison window)
    (oldInside : window.oldStart < block.oldStart) (newInside : window.newStart < block.newStart)
    (agree : comparison.agree (block.oldStart - 1) (block.newStart - 1) = true) :
    Matches comparison window ⟨block.oldStart - 1, block.newStart - 1, block.size + 1⟩ := by
  have oldEnd := isMatch.oldEnd
  have newEnd := isMatch.newEnd
  refine ⟨?_, ?_, ?_, ?_, ?_⟩
  · show window.oldStart ≤ block.oldStart - 1
    omega
  · show block.oldStart - 1 + (block.size + 1) ≤ window.oldEnd
    omega
  · show window.newStart ≤ block.newStart - 1
    omega
  · show block.newStart - 1 + (block.size + 1) ≤ window.newEnd
    omega
  · intro offset inside
    cases offset with
    | zero => exact agree
    | succ offset =>
        have shifted := isMatch.agree offset (Nat.lt_of_succ_lt_succ inside)
        have oldShift : block.oldStart - 1 + (offset + 1) = block.oldStart + offset := by omega
        have newShift : block.newStart - 1 + (offset + 1) = block.newStart + offset := by omega
        simpa only [oldShift, newShift] using shifted

end Block

/-- A candidate in the window ends a run, and it goes on with a run that ended in front of it. -/
theorem endsRun_of_mem_extendRuns (sound : comparison.IsSound) {oldPosition : Nat}
    (oldStart : window.oldStart ≤ oldPosition) (oldEnd : oldPosition < window.oldEnd)
    {previous : List (Nat × Nat)}
    (earlier : ∀ run ∈ previous, Block.EndsRun comparison window oldPosition run)
    {run : Nat × Nat}
    (member : run ∈ extendRuns window (comparison.candidates[oldPosition]?.getD []) previous) :
    Block.EndsRun comparison window (oldPosition + 1) run := by
  obtain ⟨position, isCandidate, rfl⟩ := List.mem_map.mp member
  obtain ⟨isCandidate, inside⟩ := List.mem_filter.mp isCandidate
  rw [Bool.and_eq_true, decide_eq_true_eq, decide_eq_true_eq] at inside
  have agree := sound oldPosition position isCandidate
  cases found : previous.find? fun run => run.1 + 1 = position with
  | none =>
      have single : Block.Matches comparison window ⟨oldPosition, position, 0⟩ :=
        ⟨oldStart, Nat.le_of_lt oldEnd, inside.1, Nat.le_of_lt inside.2,
          fun offset inside => absurd inside (by simp)⟩
      exact ⟨_, single.succ oldEnd inside.2 agree, rfl, rfl, rfl⟩
  | some run =>
      have continues : run.1 + 1 = position := by simpa using List.find?_some found
      obtain ⟨block, isMatch, size, oldEnds, newEnds⟩ :=
        earlier run (List.mem_of_find?_eq_some found)
      rw [← size] at oldEnds newEnds
      rw [continues] at newEnds
      have longer := isMatch.succ (by omega) (by omega) (by rw [oldEnds, newEnds]; exact agree)
      refine ⟨_, longer, ?_, ?_, ?_⟩
      · simp [size]
      · show block.oldStart + (run.2 + 1) = oldPosition + 1
        omega
      · show block.newStart + (run.2 + 1) = position + 1
        omega

theorem matches_longerRun {oldPosition : Nat} {best : Block} {runs : List (Nat × Nat)}
    (isMatch : best.Matches comparison window)
    (ending : ∀ run ∈ runs, Block.EndsRun comparison window (oldPosition + 1) run) :
    (longerRun oldPosition best runs).Matches comparison window := by
  unfold longerRun
  induction runs generalizing best with
  | nil => exact isMatch
  | cons run runs induction =>
      rw [List.forall_mem_cons] at ending
      rw [List.foldl_cons]
      apply induction _ ending.2
      split
      · obtain ⟨block, runMatch, size, oldEnds, newEnds⟩ := ending.1
        have oldStart : oldPosition + 1 - run.2 = block.oldStart := by omega
        have newStart : run.1 + 1 - run.2 = block.newStart := by omega
        rw [oldStart, newStart, ← size]
        exact runMatch
      · exact isMatch

/-- The best run so far stays a match, from line to line of the window. -/
theorem matches_longestRun (sound : comparison.IsSound) {lines oldPosition : Nat}
    (oldStart : window.oldStart ≤ oldPosition) (oldEnd : oldPosition + lines ≤ window.oldEnd)
    {previous : List (Nat × Nat)}
    (earlier : ∀ run ∈ previous, Block.EndsRun comparison window oldPosition run)
    {best : Block} (isMatch : best.Matches comparison window) :
    (longestRun comparison window lines oldPosition previous best).Matches comparison window := by
  induction lines generalizing oldPosition previous best with
  | zero => exact isMatch
  | succ lines induction =>
      have ending : ∀ run ∈
          extendRuns window (comparison.candidates[oldPosition]?.getD []) previous,
          Block.EndsRun comparison window (oldPosition + 1) run :=
        fun _ => endsRun_of_mem_extendRuns sound oldStart (by omega) earlier
      exact induction (by omega) (by omega) ending (matches_longerRun isMatch ending)

theorem matches_extendStart {block : Block} (isMatch : block.Matches comparison window)
    (lines : Nat) : (extendStart comparison window lines block).Matches comparison window := by
  induction lines generalizing block with
  | zero => exact isMatch
  | succ lines induction =>
      rw [extendStart]
      split
      · rename_i inside
        exact induction (isMatch.pred inside.1 inside.2.1 inside.2.2)
      · exact isMatch

theorem matches_extendEnd {block : Block} (isMatch : block.Matches comparison window)
    (lines : Nat) : (extendEnd comparison window lines block).Matches comparison window := by
  induction lines generalizing block with
  | zero => exact isMatch
  | succ lines induction =>
      rw [extendEnd]
      split
      · rename_i inside
        exact induction (isMatch.succ inside.1 inside.2.1 inside.2.2)
      · exact isMatch

theorem matches_longestBlock (sound : comparison.IsSound) (oldLe : window.oldStart ≤ window.oldEnd)
    (newLe : window.newStart ≤ window.newEnd) :
    (longestBlock comparison window).Matches comparison window := by
  have none : Block.Matches comparison window ⟨window.oldStart, window.newStart, 0⟩ :=
    ⟨Nat.le_refl _, oldLe, Nat.le_refl _, newLe, fun offset inside => absurd inside (by simp)⟩
  apply matches_extendEnd
  apply matches_extendStart
  exact matches_longestRun sound (Nat.le_refl _) (by omega) (by simp) none

/-- Blocks in front of a block, the block, and those behind it are in order. -/
theorem Ordered.append {block : Block} (isMatch : block.Matches comparison window)
    {front back : List Block} (isFront : Ordered comparison (window.before block) front)
    (isBack : Ordered comparison (window.behind block) back) :
    Ordered comparison window (front ++ block :: back) := by
  induction front generalizing window with
  | nil => exact ⟨isMatch, isBack⟩
  | cons first front induction =>
      obtain ⟨firstMatch, isFront⟩ := isFront
      have oldFirst : first.oldStart + first.size ≤ block.oldStart := firstMatch.oldEnd
      have newFirst : first.newStart + first.size ≤ block.newStart := firstMatch.newEnd
      have oldEnd := isMatch.oldEnd
      have newEnd := isMatch.newEnd
      have inWindow : first.Matches comparison window :=
        ⟨firstMatch.oldStart, by omega, firstMatch.newStart, by omega, firstMatch.agree⟩
      have behindFirst : block.Matches comparison (window.behind first) :=
        ⟨oldFirst, oldEnd, newFirst, newEnd, isMatch.agree⟩
      exact ⟨inWindow, induction behindFirst isFront isBack⟩

theorem ordered_blocks (sound : comparison.IsSound) (fuel : Nat)
    (oldLe : window.oldStart ≤ window.oldEnd) (newLe : window.newStart ≤ window.newEnd) :
    Ordered comparison window (blocks comparison fuel window) := by
  induction fuel generalizing window with
  | zero => exact trivial
  | succ fuel induction =>
      rw [blocks]
      split
      · exact trivial
      · have isMatch := matches_longestBlock sound oldLe newLe
        exact Ordered.append isMatch (induction isMatch.oldStart isMatch.newStart)
          (induction isMatch.oldEnd isMatch.newEnd)

/-- The window of two whole lists. -/
def Window.whole (old new : List String) : Window :=
  ⟨0, old.length, 0, new.length⟩

theorem ordered_matchingBlocks (old new : List String) :
    Ordered (Comparison.of old new) (Window.whole old new) (matchingBlocks old new) :=
  ordered_blocks (Comparison.isSound_of old new) _ (Nat.zero_le _) (Nat.zero_le _)

end Diff

end SchemaDdl
