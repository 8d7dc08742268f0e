import SchemaDdl.Diff.Report
import SchemaDdl.Proofs.Diff.Matching
import SchemaDdl.Proofs.Diff.Patch

/-!
# Reports are patches

The blocks of two texts lie in order, so the script that keeps them leads from the old lines to the
new ones.  The hunks of a script leave out kept lines only.  Read back from its printed lines, a
report is therefore a patch that makes the new text of the old one.
-/

namespace SchemaDdl

namespace Diff

/-- The lines of a block are the same in both texts. -/
theorem Block.Matches.take_eq {old new : List String} {window : Window} {block : Block}
    (isMatch : block.Matches (Comparison.of old new) window) :
    (old.drop block.oldStart).take block.size = (new.drop block.newStart).take block.size := by
  apply List.ext_getElem?
  intro offset
  rw [List.getElem?_take, List.getElem?_take, List.getElem?_drop, List.getElem?_drop]
  split
  case isTrue inside =>
    obtain ⟨line, inOld, inNew⟩ := Comparison.agree_of_iff.mp (isMatch.agree offset inside)
    rw [inOld, inNew]
  case isFalse => rfl

namespace Script

@[simp]
theorem old_append (script further : List Chunk) :
    old (script ++ further) = old script ++ old further :=
  List.flatMap_append

@[simp]
theorem new_append (script further : List Chunk) :
    new (script ++ further) = new script ++ new further :=
  List.flatMap_append

@[simp]
theorem old_cons (chunk : Chunk) (script : List Chunk) :
    old (chunk :: script) = chunk.old ++ old script :=
  rfl

@[simp]
theorem new_cons (chunk : Chunk) (script : List Chunk) :
    new (chunk :: script) = chunk.new ++ new script :=
  rfl

theorem length_old_kept (script : List Chunk) {lines : List String} {count : Nat}
    (enough : count ≤ lines.length) :
    (old (script ++ [.kept (lines.take count)])).length = (old script).length + count := by
  simp only [old_append, old_cons, old_nil, Chunk.old, List.length_append, List.length_take,
    List.length_nil]
  omega

theorem length_new_kept (script : List Chunk) {lines : List String} {count : Nat}
    (enough : count ≤ lines.length) :
    (new (script ++ [.kept (lines.take count)])).length = (new script).length + count := by
  simp only [new_append, new_cons, new_nil, Chunk.new, List.length_append, List.length_take,
    List.length_nil]
  omega

/-- The new lines of the script of blocks that lie in order are the given ones. -/
theorem new_ofBlocks {oldLines newLines : List String} {window : Window} {blocks : List Block}
    (ordered : Ordered (Comparison.of oldLines newLines) window blocks) :
    new (ofBlocks window.oldStart window.newStart (oldLines.drop window.oldStart)
      (newLines.drop window.newStart) blocks) = newLines.drop window.newStart := by
  induction blocks generalizing window with
  | nil => simp [ofBlocks]
  | cons block blocks induction =>
      obtain ⟨isMatch, isBehind⟩ := ordered
      have oldStart := isMatch.oldStart
      have newStart := isMatch.newStart
      have oldReach : window.oldStart + (block.oldStart - window.oldStart) = block.oldStart := by
        omega
      have newReach : window.newStart + (block.newStart - window.newStart) = block.newStart := by
        omega
      have rest := induction isBehind
      simp only [Window.behind] at rest
      simp only [ofBlocks, new_consChanged, new_consKept, List.drop_drop, ← Nat.add_assoc, oldReach,
        newReach, rest, isMatch.take_eq]
      have fromBlock : newLines.drop block.newStart =
          (newLines.drop window.newStart).drop (block.newStart - window.newStart) := by
        rw [List.drop_drop, newReach]
      rw [← List.drop_drop, List.take_append_drop, fromBlock, List.take_append_drop]

theorem old_between (oldLines newLines : List String) :
    old (between oldLines newLines) = oldLines :=
  old_ofBlocks _ 0 0 oldLines newLines

theorem new_between (oldLines newLines : List String) :
    new (between oldLines newLines) = newLines :=
  new_ofBlocks (ordered_matchingBlocks oldLines newLines)

end Script

namespace Chunk

def edits : Chunk → List Patch.Edit
  | .kept lines => lines.map .kept
  | .changed removed added => removed.map .removed ++ added.map .added

theorem filterMap_old?_edits (chunk : Chunk) :
    chunk.edits.filterMap Patch.Edit.old? = chunk.old := by
  cases chunk with
  | kept lines => simp [edits, old, List.filterMap_map, Function.comp_def, Patch.Edit.old?]
  | changed removed added =>
      simp [edits, old, List.filterMap_map, Function.comp_def, Patch.Edit.old?]

theorem filterMap_new?_edits (chunk : Chunk) :
    chunk.edits.filterMap Patch.Edit.new? = chunk.new := by
  cases chunk with
  | kept lines => simp [edits, new, List.filterMap_map, Function.comp_def, Patch.Edit.new?]
  | changed removed added =>
      simp [edits, new, List.filterMap_map, Function.comp_def, Patch.Edit.new?]

end Chunk

namespace Hunk

/-- What is read of the report of a hunk. -/
def read (hunk : Hunk) : Patch.Hunk where
  old := ⟨hunk.oldStart, (Script.old hunk.chunks).length⟩
  new := ⟨hunk.newStart, (Script.new hunk.chunks).length⟩
  edits := hunk.chunks.flatMap Chunk.edits

@[simp]
theorem oldLines_read (hunk : Hunk) : hunk.read.oldLines = Script.old hunk.chunks := by
  simp only [Patch.Hunk.oldLines, read, List.filterMap_flatMap, Chunk.filterMap_old?_edits]
  rfl

@[simp]
theorem newLines_read (hunk : Hunk) : hunk.read.newLines = Script.new hunk.chunks := by
  simp only [Patch.Hunk.newLines, read, List.filterMap_flatMap, Chunk.filterMap_new?_edits]
  rfl

/-- A hunk at its place in a text is applied, and the hunks behind it to what the text has behind
that place. -/
theorem patchedFrom?_read_cons (hunk : Hunk) {hunks : List Patch.Hunk}
    {text rest result : List String} {oldPosition newPosition : Nat}
    (behind : oldPosition ≤ hunk.oldStart)
    (newStart : hunk.newStart = newPosition + (hunk.oldStart - oldPosition))
    (inside : hunk.oldStart ≤ text.length)
    (textEq : text.drop hunk.oldStart = Script.old hunk.chunks ++ rest)
    (applied : Patch.patchedFrom? text (hunk.oldStart + (Script.old hunk.chunks).length)
      (hunk.newStart + (Script.new hunk.chunks).length) hunks = some result) :
    Patch.patchedFrom? text oldPosition newPosition (hunk.read :: hunks) =
      some ((text.drop oldPosition).take (hunk.oldStart - oldPosition) ++
        Script.new hunk.chunks ++ result) := by
  have fits : hunk.read.Fits text oldPosition newPosition := by
    have lengths := congrArg List.length textEq
    rw [List.length_drop, List.length_append] at lengths
    refine ⟨behind, ?_, newStart, ?_, ?_⟩
    · show hunk.oldStart + (Script.old hunk.chunks).length ≤ text.length
      omega
    · show (text.drop hunk.oldStart).take (Script.old hunk.chunks).length = _
      rw [textEq, List.take_left, oldLines_read]
    · rw [newLines_read]
      rfl
  rw [Patch.patchedFrom?_cons fits applied, newLines_read]
  rfl

section

variable {α : Type}

theorem drop_of_drop_eq {text taken rest : List α} {start : Nat}
    (textEq : text.drop start = taken ++ rest) : text.drop (start + taken.length) = rest := by
  rw [← List.drop_drop, textEq, List.drop_left]

theorem take_drop_append_drop (lines : List α) {near far : Nat} (behind : near ≤ far) :
    (lines.drop near).take (far - near) ++ lines.drop far = lines.drop near := by
  have further : lines.drop far = (lines.drop near).drop (far - near) := by
    rw [List.drop_drop, Nat.add_sub_cancel' behind]
  rw [further, List.take_append_drop]

end

/-- Behind the last hunk, the text is taken over. -/
theorem patchedFrom?_read_last (hunk : Hunk) {text rest : List String}
    {oldPosition newPosition : Nat} (behind : oldPosition ≤ hunk.oldStart)
    (newStart : hunk.newStart = newPosition + (hunk.oldStart - oldPosition))
    (inside : hunk.oldStart ≤ text.length)
    (textEq : text.drop hunk.oldStart = Script.old hunk.chunks ++ rest) :
    Patch.patchedFrom? text oldPosition newPosition [hunk.read] =
      some ((text.drop oldPosition).take (hunk.oldStart - oldPosition) ++
        Script.new hunk.chunks ++ rest) :=
  patchedFrom?_read_cons hunk behind newStart inside textEq
    (congrArg some (drop_of_drop_eq textEq))

/-- The hunks of a script, of which one has begun, make the new lines of the script of its old
ones. -/
theorem patchedFrom?_collect {text : List String} (oldStart newStart : Nat)
    (begun script : List Chunk) {oldPosition newPosition : Nat} (behind : oldPosition ≤ oldStart)
    (newStartEq : newStart = newPosition + (oldStart - oldPosition))
    (inside : oldStart ≤ text.length)
    (textEq : text.drop oldStart = Script.old begun ++ Script.old script) :
    Patch.patchedFrom? text oldPosition newPosition
        ((collect oldStart newStart begun script).map read) =
      some ((text.drop oldPosition).take (oldStart - oldPosition) ++ Script.new begun ++
        Script.new script) := by
  fun_induction collect oldStart newStart begun script generalizing oldPosition newPosition with
  | case1 oldStart newStart begun =>
      exact patchedFrom?_read_last ⟨oldStart, newStart, begun⟩ behind newStartEq inside textEq
  | case2 oldStart newStart begun lines =>
      let hunk : Hunk := ⟨oldStart, newStart, begun ++ [.kept (lines.take context)]⟩
      have textParts : text.drop oldStart = Script.old hunk.chunks ++ lines.drop context := by
        simpa [hunk, Chunk.old] using textEq
      have applied := patchedFrom?_read_last hunk behind newStartEq inside textParts
      simpa [hunk, Chunk.new] using applied
  | case3 oldStart newStart begun lines script notLast far before =>
      rename_i induction
      let hunk : Hunk := ⟨oldStart, newStart, begun ++ [.kept (lines.take context)]⟩
      have textParts : text.drop oldStart =
          Script.old hunk.chunks ++ (lines.drop context ++ Script.old script) := by
        rw [textEq]
        simp [hunk, Chunk.old, ← List.append_assoc (lines.take context)]
      have begunParts : text.drop oldStart =
          Script.old begun ++ (lines ++ Script.old script) := textEq
      have fromContext := drop_of_drop_eq textParts
      have fromLines := drop_of_drop_eq begunParts
      have enough : context ≤ lines.length := by omega
      have oldEnd : hunk.oldStart + (Script.old hunk.chunks).length =
          oldStart + ((Script.old begun).length + context) :=
        congrArg (oldStart + ·) (Script.length_old_kept begun enough)
      have newEnd : hunk.newStart + (Script.new hunk.chunks).length =
          newStart + ((Script.new begun).length + context) :=
        congrArg (newStart + ·) (Script.length_new_kept begun enough)
      have lengths := congrArg List.length fromLines
      rw [List.length_drop, List.length_append] at lengths
      have nextText : text.drop (oldStart + (Script.old begun).length + before) =
          Script.old [.kept (lines.drop before)] ++ Script.old script := by
        rw [← List.drop_drop, fromLines, List.drop_append_of_le_length (by omega)]
        simp [Chunk.old]
      -- The next hunk begins with the last of the kept lines; those between the hunks are taken
      -- over.
      have applied := patchedFrom?_read_cons hunk behind newStartEq inside textParts
        (induction (by omega) (by omega) (by omega) nextText)
      have gap : oldStart + (Script.old begun).length + before -
          (hunk.oldStart + (Script.old hunk.chunks).length) = before - context := by
        omega
      have contextInside : before - context ≤ (lines.drop context).length := by
        rw [List.length_drop]
        omega
      have skipped := take_drop_append_drop lines (by omega : context ≤ before)
      rw [List.map_cons, applied, fromContext, gap, List.take_append_of_le_length contextInside]
      simp only [hunk, Script.new_append, Script.new_cons, Script.new_nil, Chunk.new,
        List.append_nil, skipped]
      simp [← List.append_assoc (lines.take context)]
  | case4 oldStart newStart begun lines script notLast near induction =>
      have textParts : text.drop oldStart =
          Script.old (begun ++ [.kept lines]) ++ Script.old script := by
        simpa using textEq
      simpa using induction behind newStartEq inside textParts
  | case5 oldStart newStart begun removed added script induction =>
      have textParts : text.drop oldStart =
          Script.old (begun ++ [.changed removed added]) ++ Script.old script := by
        simpa using textEq
      simpa using induction behind newStartEq inside textParts

/-- The hunks of a script make its new lines of its old ones. -/
theorem patched?_ofScript (script : List Chunk) :
    Patch.patched? (Script.old script) ((ofScript script).map read) = some (Script.new script) := by
  unfold ofScript
  split
  case h_1 => rfl
  case h_2 lines => simp [Patch.patched?, Patch.patchedFrom?, Chunk.old, Chunk.new]
  case h_3 lines script notLast =>
    have fromContext : (Script.old (.kept lines :: script)).drop (lines.length - context) =
        Script.old [.kept (lines.drop (lines.length - context))] ++ Script.old script := by
      rw [Script.old_cons, Chunk.old, List.drop_append_of_le_length (by omega)]
      simp [Chunk.old]
    have inside : lines.length - context ≤ (Script.old (.kept lines :: script)).length := by
      rw [Script.old_cons, Chunk.old, List.length_append]
      omega
    have applied := patchedFrom?_collect _ _ _ script (Nat.zero_le _) (Nat.zero_add _).symm inside
      fromContext
    have skipped : (Script.old (.kept lines :: script)).take (lines.length - context) =
        lines.take (lines.length - context) := by
      rw [Script.old_cons, Chunk.old, List.take_append_of_le_length (by omega)]
    refine applied.trans ?_
    rw [List.drop_zero, Nat.sub_zero, skipped]
    simp only [Script.new_cons, Script.new_nil, Chunk.new, List.append_nil, List.take_append_drop]
  case h_4 =>
    have fromStart : (Script.old script).drop 0 = Script.old [] ++ Script.old script := rfl
    have applied := patchedFrom?_collect 0 0 [] script (Nat.le_refl 0) rfl (Nat.zero_le _) fromStart
    simpa [Patch.patched?] using applied

theorem le_oldStart_of_mem_collect {oldStart newStart : Nat} {begun script : List Chunk}
    {hunk : Hunk} (member : hunk ∈ collect oldStart newStart begun script) :
    oldStart ≤ hunk.oldStart := by
  fun_induction collect oldStart newStart begun script with
  | case1 | case2 =>
      rw [List.mem_singleton] at member
      subst member
      exact Nat.le_refl _
  | case3 oldStart newStart begun lines script notLast far before =>
      rename_i induction
      rcases List.mem_cons.mp member with rfl | isLater
      · exact Nat.le_refl _
      · have later := induction isLater
        omega
  | case4 oldStart newStart begun lines script notLast near induction => exact induction member
  | case5 oldStart newStart begun removed added script induction => exact induction member

/-- Whether a hunk ends in front of another one, with lines between them that neither has. -/
def Precedes (hunk next : Hunk) : Prop :=
  hunk.oldStart + (Script.old hunk.chunks).length < next.oldStart

/-- A hunk ends a few lines behind its last change, and the next one begins further behind. -/
theorem pairwise_collect (oldStart newStart : Nat) (begun script : List Chunk) :
    (collect oldStart newStart begun script).Pairwise Precedes := by
  fun_induction collect oldStart newStart begun script with
  | case1 | case2 => exact List.pairwise_singleton _ _
  | case3 oldStart newStart begun lines script notLast far before =>
      rename_i induction
      refine List.pairwise_cons.mpr ⟨?_, induction⟩
      intro next isLater
      have later := le_oldStart_of_mem_collect isLater
      have enough : context ≤ lines.length := by omega
      rw [Precedes, Script.length_old_kept begun enough]
      show oldStart + ((Script.old begun).length + context) < next.oldStart
      omega
  | case4 oldStart newStart begun lines script notLast near induction => exact induction
  | case5 oldStart newStart begun removed added script induction => exact induction

theorem pairwise_ofScript (script : List Chunk) : (ofScript script).Pairwise Precedes := by
  unfold ofScript
  split
  case h_1 | h_2 => exact .nil
  case h_3 | h_4 => exact pairwise_collect _ _ _ _

end Hunk

namespace Patch

theorem number?_toDigits (value : Nat) : number? (Nat.toDigits 10 value) = some value := by
  have areDigits : (Nat.toDigits 10 value).all Char.isDigit = true :=
    List.all_eq_true.mpr (Text.isDigits_toDigits value)
  have nonempty : Nat.toDigits 10 value ≠ [] := by simp
  rw [number?, if_pos ⟨nonempty, areDigits⟩, Nat.ofDigitChars_ten_toDigits]

theorem not_mem_toDigits {c : Char} (notDigit : c.isDigit = false) (value : Nat) :
    c ∉ Nat.toDigits 10 value := by
  intro member
  have isDigit := Text.isDigits_toDigits value c member
  rw [notDigit] at isDigit
  contradiction

/-- The place that a range was made for is read from it. -/
theorem place?_range (before count : Nat) :
    place? (Hunk.range before count).toList = some ⟨before, count⟩ := by
  have noComma := not_mem_toDigits (c := ',') (by decide)
  unfold Hunk.range
  split
  case isTrue single =>
    rw [Text.toList_decimal, place?, List.splitOn_eq_singleton (noComma _)]
    simp [number?_toDigits, single]
  case isFalse =>
    have comma : ",".toList = [','] := by decide
    rw [String.toList_append, String.toList_append, Text.toList_decimal, Text.toList_decimal, comma,
      List.append_assoc, List.singleton_append, place?,
      List.splitOn_append_cons_self_of_not_mem (noComma _), List.splitOn_eq_singleton (noComma _)]
    simp only [number?_toDigits, Option.bind_eq_bind, Option.bind_some, Option.pure_def]
    cases count with
    | zero => rfl
    | succ count => simp

theorem not_mem_range {c : Char} (notDigit : c.isDigit = false) (notComma : c ≠ ',')
    (before count : Nat) : c ∉ (Hunk.range before count).toList := by
  have absent := not_mem_toDigits notDigit
  unfold Hunk.range
  split
  · rw [Text.toList_decimal]
    exact absent _
  · simp [Text.toList_decimal, absent, notComma]

theorem header?_header (hunk : Diff.Hunk) :
    header? hunk.header = some (hunk.read.old, hunk.read.new) := by
  have noSpace := not_mem_range (c := ' ') (by decide) (by decide)
  have parts : hunk.header.toList = [' '].intercalate
      ["@@".toList, '-' :: (Hunk.range hunk.oldStart (Script.old hunk.chunks).length).toList,
        '+' :: (Hunk.range hunk.newStart (Script.new hunk.chunks).length).toList,
        "@@".toList] := by
    simp [Hunk.header, List.intercalate]
  have onlySeparators : ∀ part ∈
      ["@@".toList, '-' :: (Hunk.range hunk.oldStart (Script.old hunk.chunks).length).toList,
        '+' :: (Hunk.range hunk.newStart (Script.new hunk.chunks).length).toList,
        "@@".toList], ' ' ∉ part := by
    simp [noSpace]
  rw [header?, parts, List.splitOn_intercalate ' ' onlySeparators (by simp)]
  simp [behind?, place?_range, Diff.Hunk.read]

theorem edit?_header (hunk : Diff.Hunk) : edit? hunk.header = none := by
  simp [edit?, Hunk.header]

theorem map_edit?_chunkLines (chunk : Chunk) :
    (Hunk.chunkLines chunk).map edit? = chunk.edits.map some := by
  have keptLine (line : String) : edit? (" " ++ line) = some (.kept line) := by simp [edit?]
  have removedLine (line : String) : edit? ("-" ++ line) = some (.removed line) := by simp [edit?]
  have addedLine (line : String) : edit? ("+" ++ line) = some (.added line) := by simp [edit?]
  cases chunk with
  | kept lines => simp [Hunk.chunkLines, Chunk.edits, Function.comp_def, keptLine]
  | changed removed added =>
      simp [Hunk.chunkLines, Chunk.edits, Function.comp_def, removedLine, addedLine]

/-- Lines of edits in front of others are read as edits in front of theirs. -/
theorem items?_append {lines rest : List String} {edits further : List Edit} {hunks : List Hunk}
    (areEdits : lines.map edit? = edits.map some) (restRead : items? rest = some (further, hunks)) :
    items? (lines ++ rest) = some (edits ++ further, hunks) := by
  induction lines generalizing edits with
  | nil =>
      rw [List.map_nil, eq_comm, List.map_eq_nil_iff] at areEdits
      rw [areEdits]
      exact restRead
  | cons line lines induction =>
      cases edits with
      | nil => simp at areEdits
      | cons edit edits =>
          rw [List.map_cons, List.map_cons, List.cons.injEq] at areEdits
          simp [items?, induction areEdits.2, areEdits.1]

theorem items?_reports (hunks : List Diff.Hunk) :
    items? (hunks.flatMap Diff.Hunk.report) = some ([], hunks.map Diff.Hunk.read) := by
  induction hunks with
  | nil => rfl
  | cons hunk hunks induction =>
      have areEdits : (hunk.chunks.flatMap Hunk.chunkLines).map edit? =
          (hunk.chunks.flatMap Chunk.edits).map some := by
        simp only [List.map_flatMap, map_edit?_chunkLines]
      have behindHeader := items?_append areEdits induction
      simp [Diff.Hunk.report, items?, behindHeader, edit?_header, header?_header, Diff.Hunk.read]

/-- The hunks of a script are read from its report. -/
theorem hunks?_report (oldName newName : String) (old new : List String) :
    hunks? (report oldName newName old new) =
      some ((Hunk.ofScript (Script.between old new)).map Diff.Hunk.read) := by
  unfold report
  split
  case h_1 none => rw [none]; rfl
  case h_2 => simp [hunks?, items?_reports]

/-- A report is a patch from the old lines to the new ones. -/
theorem leadsFrom_report (oldName newName : String) (old new : List String) :
    ∃ hunks, hunks? (report oldName newName old new) = some hunks ∧ LeadsFrom old new hunks := by
  refine ⟨_, hunks?_report oldName newName old new, leadsFrom_of_patched? ?_ ?_⟩
  · exact List.pairwise_map.mpr (Hunk.pairwise_ofScript _)
  · have applied := Hunk.patched?_ofScript (Script.between old new)
    rwa [Script.old_between, Script.new_between] at applied

end Patch

end Diff

end SchemaDdl
