import SchemaDdl.Diff.Report
import SchemaDdl.Proofs.Diff.Matching

/-!
# A list compared with itself

The longest block that a list of lines has in common with itself is the whole list.  A run of lines
that are not frequent has its double in the same place, so a run that ends elsewhere is never longer
than one in its own place that was met before, and the first of the longest runs is in its own
place.  From there the block is extended to both ends.  So the report of equal lists is empty.
-/

namespace SchemaDdl

namespace Diff

variable {lines : List String}

/-- The positions where a block can match a line of a list in the same list. -/
def selfCandidates (lines : List String) (position : Nat) : List Nat :=
  (lines[position]?.map (candidatePositions lines)).getD []

theorem candidates_self (lines : List String) (position : Nat) :
    (Comparison.of lines lines).candidates[position]?.getD [] = selfCandidates lines position := by
  simp [Comparison.of, selfCandidates]

theorem selfCandidates_eq_of_mem {position other : Nat}
    (member : other ∈ selfCandidates lines position) :
    selfCandidates lines other = selfCandidates lines position := by
  have agree := Comparison.isSound_of lines lines position other
    (by rwa [candidates_self])
  obtain ⟨line, atPosition, atOther⟩ := Comparison.agree_of_iff.mp agree
  rw [selfCandidates, selfCandidates, atPosition, atOther]

theorem lt_length_of_mem_selfCandidates {position other : Nat}
    (member : other ∈ selfCandidates lines position) : other < lines.length := by
  have agree := Comparison.isSound_of lines lines position other
    (by rwa [candidates_self])
  obtain ⟨line, -, atOther⟩ := Comparison.agree_of_iff.mp agree
  exact (List.getElem?_eq_some_iff.mp atOther).1

/-- A line that is not frequent is a candidate for itself. -/
theorem self_mem_selfCandidates {position : Nat} (candidates : selfCandidates lines position ≠ []) :
    position ∈ selfCandidates lines position := by
  rw [selfCandidates] at candidates ⊢
  cases isLine : lines[position]? with
  | none => simp [isLine] at candidates
  | some line =>
      simp only [isLine, Option.map_some, Option.getD_some, candidatePositions] at candidates ⊢
      split at candidates
      · contradiction
      · rename_i rare
        rw [if_neg rare]
        refine List.mem_map.mpr ⟨(line, position), ?_, rfl⟩
        rw [List.mem_filter, List.mem_zipIdx_iff_getElem?]
        exact ⟨isLine, decide_eq_true rfl⟩

theorem pairwise_selfCandidates (lines : List String) (position : Nat) :
    (selfCandidates lines position).Pairwise (· < ·) := by
  rw [selfCandidates]
  cases lines[position]? with
  | none => exact .nil
  | some line =>
      simp only [Option.map_some, Option.getD_some, candidatePositions]
      split
      · exact .nil
      · have ascending : (lines.zipIdx.map Prod.snd).Pairwise (· < ·) := by
          rw [List.zipIdx_map_snd]
          exact List.pairwise_lt_range'
        exact ascending.sublist (List.filter_sublist.map Prod.snd)

/-- The number of lines in a row in front of a position that are not frequent. -/
def streak (lines : List String) : Nat → Nat
  | 0 => 0
  | position + 1 => if selfCandidates lines position = [] then 0 else streak lines position + 1

theorem streak_succ {position : Nat} (candidates : selfCandidates lines position ≠ []) :
    streak lines (position + 1) = streak lines position + 1 :=
  if_neg candidates

/-- What holds of the runs that end in front of a position: none is longer than the lines in a row
in front of this position, or in front of where it ends in the new list, and these lines are the run
that ends in its own place. -/
structure RunsInFront (lines : List String) (position : Nat) (runs : List (Nat × Nat)) : Prop where
  le_streak : ∀ run ∈ runs, run.2 ≤ streak lines position
  le_streak_end : ∀ run ∈ runs, run.2 ≤ streak lines (run.1 + 1)
  own : ∀ run ∈ runs, run.1 + 1 = position → run.2 = streak lines position
  exists_own : 0 < streak lines position → ∃ run ∈ runs, run.1 + 1 = position

/-- The length of the run that ends at a position, by those that end a line before. -/
def runLength (previous : List (Nat × Nat)) (position : Nat) : Nat :=
  ((previous.find? fun run => run.1 + 1 = position).map fun run => run.2 + 1).getD 1

theorem extendRuns_self (previous : List (Nat × Nat)) (position : Nat) :
    extendRuns (Window.whole lines lines) (selfCandidates lines position) previous =
      (selfCandidates lines position).map fun other => (other, runLength previous other) := by
  rw [extendRuns, List.filter_eq_self.mpr]
  · rfl
  · intro other member
    simp [Window.whole, lt_length_of_mem_selfCandidates member]

theorem runLength_le {position bound : Nat} {previous : List (Nat × Nat)}
    (short : ∀ run ∈ previous, run.1 + 1 = position → run.2 ≤ bound) :
    runLength previous position ≤ bound + 1 := by
  rw [runLength]
  cases found : previous.find? fun run => run.1 + 1 = position with
  | none => simp
  | some run =>
      have ends : run.1 + 1 = position := by simpa using List.find?_some found
      exact Nat.succ_le_succ (short run (List.mem_of_find?_eq_some found) ends)

theorem RunsInFront.runLength_own {position : Nat} {previous : List (Nat × Nat)}
    (inFront : RunsInFront lines position previous) :
    runLength previous position = streak lines position + 1 := by
  rw [runLength]
  cases found : previous.find? fun run => run.1 + 1 = position with
  | none =>
      have none : ¬0 < streak lines position := by
        intro long
        obtain ⟨run, member, ends⟩ := inFront.exists_own long
        exact absurd (decide_eq_true ends) (List.find?_eq_none.mp found run member)
      have noStreak : streak lines position = 0 := by omega
      simp [noStreak]
  | some run =>
      have ends : run.1 + 1 = position := by simpa using List.find?_some found
      have isStreak := inFront.own run (List.mem_of_find?_eq_some found) ends
      simp [isStreak]

/-- The runs that end at a line again are as long as the lines in a row allow. -/
theorem RunsInFront.extendRuns {position : Nat} {previous : List (Nat × Nat)}
    (inFront : RunsInFront lines position previous) :
    RunsInFront lines (position + 1)
      ((selfCandidates lines position).map fun other => (other, runLength previous other)) := by
  by_cases candidates : selfCandidates lines position = []
  · rw [candidates]
    have noStreak : streak lines (position + 1) = 0 := if_pos candidates
    exact ⟨by simp, by simp, by simp, by simp [noStreak]⟩
  · have longer := streak_succ candidates
    refine ⟨?_, ?_, ?_, ?_⟩
    · intro run member
      obtain ⟨other, -, rfl⟩ := List.mem_map.mp member
      rw [longer]
      exact runLength_le fun run isRun _ => inFront.le_streak run isRun
    · intro run member
      obtain ⟨other, isCandidate, rfl⟩ := List.mem_map.mp member
      have otherCandidates : selfCandidates lines other ≠ [] := by
        rwa [selfCandidates_eq_of_mem isCandidate]
      rw [streak_succ otherCandidates]
      refine runLength_le fun run isRun ends => ?_
      rw [← ends]
      exact inFront.le_streak_end run isRun
    · intro run member ends
      obtain ⟨other, -, rfl⟩ := List.mem_map.mp member
      obtain rfl : other = position := by simpa using ends
      rw [longer]
      exact inFront.runLength_own
    · intro _
      exact ⟨_, List.mem_map.mpr ⟨position, self_mem_selfCandidates candidates, rfl⟩, rfl⟩

/-- What holds of the longest run so far: it is in its own place, and no fewer lines than there are
in a row in front of any position up to here. -/
structure LongestInPlace (lines : List String) (position : Nat) (best : Block) : Prop where
  inPlace : best.oldStart = best.newStart
  streak_le : ∀ earlier ≤ position, streak lines earlier ≤ best.size

theorem longerRun_append (oldPosition : Nat) (best : Block) (front back : List (Nat × Nat)) :
    longerRun oldPosition best (front ++ back) =
      longerRun oldPosition (longerRun oldPosition best front) back :=
  List.foldl_append

theorem longerRun_eq_self {oldPosition : Nat} {best : Block} {runs : List (Nat × Nat)}
    (short : ∀ run ∈ runs, run.2 ≤ best.size) : longerRun oldPosition best runs = best := by
  induction runs with
  | nil => rfl
  | cons run runs induction =>
      rw [List.forall_mem_cons] at short
      rw [longerRun, List.foldl_cons, if_neg (Nat.not_lt.mpr short.1)]
      exact induction short.2

/-- The lead after the run in its own place, which ends at a position. -/
def ownLead (position length : Nat) (best : Block) : Block :=
  if best.size < length then ⟨position + 1 - length, position + 1 - length, length⟩ else best

theorem le_size_ownLead (position length : Nat) (best : Block) :
    best.size ≤ (ownLead position length best).size ∧
      length ≤ (ownLead position length best).size := by
  rw [ownLead]
  split
  · rename_i longer
    exact ⟨Nat.le_of_lt longer, Nat.le_refl length⟩
  · rename_i notLonger
    exact ⟨Nat.le_refl best.size, Nat.not_lt.mp notLonger⟩

/-- The run in its own place takes the lead before one of the same length that ends further behind
in the new list, and those that end further in front are no longer than a run that was met
before. -/
theorem LongestInPlace.longerRun_eq {position : Nat} {best : Block} {previous : List (Nat × Nat)}
    (leads : LongestInPlace lines position best) (inFront : RunsInFront lines position previous)
    (candidates : selfCandidates lines position ≠ []) :
    longerRun position best
        ((selfCandidates lines position).map fun other => (other, runLength previous other)) =
      ownLead position (streak lines (position + 1)) best := by
  have extended := inFront.extendRuns
  have ascending := pairwise_selfCandidates lines position
  obtain ⟨front, back, split⟩ := List.append_of_mem (self_mem_selfCandidates candidates)
  rw [split, List.pairwise_append, List.pairwise_cons] at ascending
  obtain ⟨-, -, beforeOwn⟩ := ascending
  rw [split, List.map_append, List.map_cons] at extended ⊢
  have own : runLength previous position = streak lines (position + 1) := by
    rw [inFront.runLength_own, streak_succ candidates]
  have passesFront : longerRun position best
      (front.map fun other => (other, runLength previous other)) = best := by
    refine longerRun_eq_self fun run member => ?_
    have short := extended.le_streak_end run (List.mem_append_left _ member)
    obtain ⟨other, isFront, rfl⟩ := List.mem_map.mp member
    have before : other < position := beforeOwn other isFront position (by simp)
    exact Nat.le_trans short (leads.streak_le (other + 1) before)
  rw [longerRun_append, passesFront, ← List.singleton_append, longerRun_append, own]
  refine longerRun_eq_self fun run member => ?_
  have short := extended.le_streak run
    (List.mem_append_right _ (List.mem_cons_of_mem _ member))
  exact Nat.le_trans short (le_size_ownLead _ _ _).2

theorem LongestInPlace.longerRun {position : Nat} {best : Block} {previous : List (Nat × Nat)}
    (leads : LongestInPlace lines position best) (inFront : RunsInFront lines position previous) :
    LongestInPlace lines (position + 1) (longerRun position best
      ((selfCandidates lines position).map fun other => (other, runLength previous other))) := by
  by_cases candidates : selfCandidates lines position = []
  · have noStreak : streak lines (position + 1) = 0 := if_pos candidates
    rw [candidates]
    refine ⟨leads.inPlace, fun earlier before => ?_⟩
    rcases Nat.le_succ_iff.mp before with before | rfl
    · exact leads.streak_le earlier before
    · rw [noStreak]
      exact Nat.zero_le _
  · rw [leads.longerRun_eq inFront candidates]
    have larger := le_size_ownLead position (streak lines (position + 1)) best
    refine ⟨?_, fun earlier before => ?_⟩
    · rw [ownLead]
      split
      · rfl
      · exact leads.inPlace
    · rcases Nat.le_succ_iff.mp before with before | rfl
      · exact Nat.le_trans (leads.streak_le earlier before) larger.1
      · exact larger.2

/-- The longest run is in its own place, from line to line. -/
theorem longestRun_inPlace (count : Nat) {position : Nat} {previous : List (Nat × Nat)}
    {best : Block} (leads : LongestInPlace lines position best)
    (inFront : RunsInFront lines position previous) :
    ∃ start size, longestRun (Comparison.of lines lines) (Window.whole lines lines) count position
      previous best = ⟨start, start, size⟩ := by
  induction count generalizing position previous best with
  | zero =>
      obtain ⟨start, newStart, size⟩ := best
      obtain rfl : start = newStart := leads.inPlace
      exact ⟨start, size, rfl⟩
  | succ count induction =>
      simp only [longestRun, candidates_self, extendRuns_self]
      exact induction (leads.longerRun inFront) inFront.extendRuns

theorem agree_self {position : Nat} (inside : position < lines.length) :
    (Comparison.of lines lines).agree position position = true :=
  Comparison.agree_of_iff.mpr
    ⟨lines[position], List.getElem?_eq_getElem inside, List.getElem?_eq_getElem inside⟩

/-- A block in its own place is extended to the start of the list. -/
theorem extendStart_self {count start : Nat} (inside : start ≤ lines.length)
    (enough : start ≤ count) (size : Nat) :
    extendStart (Comparison.of lines lines) (Window.whole lines lines) count
      ⟨start, start, size⟩ = ⟨0, 0, start + size⟩ := by
  induction start generalizing count size with
  | zero => cases count <;> simp [extendStart, Window.whole]
  | succ start induction =>
      cases count with
      | zero => omega
      | succ count =>
          have agree : (Comparison.of lines lines).agree start start = true := agree_self inside
          have sizes : start + (size + 1) = start + 1 + size := by omega
          rw [extendStart, if_pos ⟨Nat.succ_pos start, Nat.succ_pos start, agree⟩, ← sizes]
          exact induction (by omega) (by omega) (size + 1)

/-- A block from the start on is extended to the end of the list. -/
theorem extendEnd_self {count size : Nat} (inside : size ≤ lines.length)
    (enough : lines.length ≤ size + count) :
    extendEnd (Comparison.of lines lines) (Window.whole lines lines) count ⟨0, 0, size⟩ =
      ⟨0, 0, lines.length⟩ := by
  induction count generalizing size with
  | zero =>
      have isLength : size = lines.length := by omega
      rw [extendEnd, isLength]
  | succ count induction =>
      rw [extendEnd]
      by_cases whole : size = lines.length
      · rw [if_neg (by simp [Window.whole, whole]), whole]
      · have shorter : size < lines.length := by omega
        have enoughLeft : lines.length ≤ size + 1 + count := by omega
        rw [if_pos (by simpa [Window.whole, shorter] using agree_self shorter)]
        exact induction shorter enoughLeft

/-- The longest block of a list and itself is the whole list. -/
theorem longestBlock_self (lines : List String) :
    longestBlock (Comparison.of lines lines) (Window.whole lines lines) =
      ⟨0, 0, lines.length⟩ := by
  have atStart : LongestInPlace lines 0 ⟨0, 0, 0⟩ := by
    refine ⟨rfl, fun earlier before => ?_⟩
    rw [Nat.le_zero.mp before]
    exact Nat.le_refl 0
  have noRuns : RunsInFront lines 0 [] := ⟨by simp, by simp, by simp, by simp [streak]⟩
  have empty : Block.Matches (Comparison.of lines lines) (Window.whole lines lines) ⟨0, 0, 0⟩ :=
    ⟨Nat.le_refl 0, Nat.zero_le _, Nat.le_refl 0, Nat.zero_le _,
      fun offset inside => absurd inside (Nat.not_lt_zero offset)⟩
  obtain ⟨start, size, isRun⟩ := longestRun_inPlace lines.length atStart noRuns
  have isMatch : Block.Matches (Comparison.of lines lines) (Window.whole lines lines)
      ⟨start, start, size⟩ := by
    rw [← isRun]
    exact matches_longestRun (Comparison.isSound_of lines lines) (Nat.le_refl 0)
      (Nat.le_of_eq (Nat.zero_add _)) (by simp) empty
  have runEnd : start + size ≤ lines.length := isMatch.oldEnd
  have runStart : start ≤ lines.length := by omega
  show extendEnd _ _ lines.length (extendStart _ _ lines.length
    (longestRun _ _ lines.length 0 [] ⟨0, 0, 0⟩)) = _
  rw [isRun, extendStart_self runStart runStart, extendEnd_self runEnd (Nat.le_add_left _ _)]

/-- There is no block where the old list has no lines. -/
theorem blocks_of_no_lines (comparison : Comparison) (fuel : Nat) {window : Window}
    (noLines : window.oldEnd - window.oldStart = 0) : blocks comparison fuel window = [] := by
  cases fuel with
  | zero => rfl
  | succ fuel => simp [blocks, longestBlock, noLines, longestRun, extendStart, extendEnd]

theorem matchingBlocks_self {lines : List String} (nonempty : lines ≠ []) :
    matchingBlocks lines lines = [⟨0, 0, lines.length⟩] := by
  show blocks _ (lines.length + 1) (Window.whole lines lines) = _
  simp only [blocks, longestBlock_self, List.length_eq_zero_iff, nonempty, if_false]
  rw [blocks_of_no_lines _ _ (Nat.sub_self 0), blocks_of_no_lines _ _ (by simp [Window.whole])]
  rfl

/-- Nothing is changed from a list to itself. -/
theorem ofScript_between_self (lines : List String) :
    Hunk.ofScript (Script.between lines lines) = [] := by
  by_cases empty : lines = []
  · subst empty
    rfl
  · rw [Script.between, matchingBlocks_self empty]
    simp [Script.ofBlocks, Script.consKept, Script.consChanged, Hunk.ofScript, empty]

theorem report_self (oldName newName : String) (lines : List String) :
    report oldName newName lines lines = [] := by
  rw [report, ofScript_between_self]

end Diff

end SchemaDdl
