import SchemaDdl.Proofs.Diff.Report
import SchemaDdl.Proofs.Diff.Unchanged

/-!
# The first change of a report

A script of different lists has a change in front of which there is one stretch of kept lines at
most, and of these a hunk shows only a few.  So the first change stands within the first lines of a
report, and is shown however many lines are left out behind.  Nothing is shown of equal lists.
-/

namespace SchemaDdl

namespace Diff

/-- Whether a line of a report shows a removed or an added line, if it is not one of the two names
that a report begins with. -/
def ShowsChange (item : String) : Prop :=
  ∃ line, item = "-" ++ line ∨ item = "+" ++ line

namespace Script

/-- A script that begins with one stretch of kept lines at most, and with a change of some lines
behind it, if there is anything more. -/
inductive OpensWithChange : List Chunk → Prop
  | nil : OpensWithChange []
  | kept (lines : List String) : OpensWithChange [.kept lines]
  | changed {removed added : List String} (some : removed ++ added ≠ []) (script : List Chunk) :
      OpensWithChange (.changed removed added :: script)
  | keptChanged (lines : List String) {removed added : List String} (some : removed ++ added ≠ [])
      (script : List Chunk) : OpensWithChange (.kept lines :: .changed removed added :: script)

theorem OpensWithChange.consKept {script : List Chunk} (opens : OpensWithChange script)
    (lines : List String) : OpensWithChange (consKept lines script) := by
  cases opens with
  | nil =>
      show OpensWithChange (if lines.isEmpty then [] else [.kept lines])
      split
      · exact .nil
      · exact .kept lines
  | kept further => exact .kept (lines ++ further)
  | @changed removed added some script =>
      show OpensWithChange (if lines.isEmpty then .changed removed added :: script
        else .kept lines :: .changed removed added :: script)
      split
      · exact .changed some script
      · exact .keptChanged lines some script
  | keptChanged further some script => exact .keptChanged (lines ++ further) some script

theorem OpensWithChange.consChanged {script : List Chunk} (opens : OpensWithChange script)
    (removed added : List String) : OpensWithChange (consChanged removed added script) := by
  rw [Script.consChanged]
  split
  · exact opens
  · rename_i some
    refine .changed (fun none => some ?_) script
    obtain ⟨rfl, rfl⟩ := List.append_eq_nil_iff.mp none
    rfl

theorem opensWithChange_ofBlocks (blocks : List Block) (oldPosition newPosition : Nat)
    (oldLines newLines : List String) :
    OpensWithChange (ofBlocks oldPosition newPosition oldLines newLines blocks) := by
  induction blocks generalizing oldPosition newPosition oldLines newLines with
  | nil => exact OpensWithChange.nil.consChanged oldLines newLines
  | cons block blocks induction => exact ((induction _ _ _ _).consKept _).consChanged _ _

end Script

namespace Hunk

theorem exists_collect_eq_cons (oldStart newStart : Nat) (begun script : List Chunk) :
    ∃ further hunks,
      collect oldStart newStart begun script = ⟨oldStart, newStart, begun ++ further⟩ :: hunks := by
  fun_induction collect oldStart newStart begun script with
  | case1 oldStart newStart begun => exact ⟨[], [], by rw [List.append_nil]⟩
  | case2 oldStart newStart begun lines => exact ⟨_, _, rfl⟩
  | case3 oldStart newStart begun lines script notLast far before => exact ⟨_, _, rfl⟩
  | case4 oldStart newStart begun lines script notLast near induction =>
      obtain ⟨further, hunks, isCollected⟩ := induction
      exact ⟨_, hunks, by rw [isCollected, List.append_assoc]⟩
  | case5 oldStart newStart begun removed added script induction =>
      obtain ⟨further, hunks, isCollected⟩ := induction
      exact ⟨_, hunks, by rw [isCollected, List.append_assoc]⟩

/-- The first hunk of a script that makes other lines has a change of some lines, and a few lines in
front of it at most. -/
theorem exists_ofScript_eq_cons {script : List Chunk} (opens : Script.OpensWithChange script)
    (differ : Script.old script ≠ Script.new script) :
    ∃ oldStart newStart front removed added further hunks,
      ofScript script =
        ⟨oldStart, newStart, front ++ .changed removed added :: further⟩ :: hunks ∧
      (front.flatMap chunkLines).length ≤ context ∧ removed ++ added ≠ [] := by
  cases opens with
  | nil => exact absurd rfl differ
  | kept lines => exact absurd rfl differ
  | @changed removed added some script =>
      obtain ⟨further, hunks, isCollected⟩ :=
        exists_collect_eq_cons 0 0 [.changed removed added] script
      exact ⟨0, 0, [], removed, added, further, hunks, isCollected, Nat.zero_le _, some⟩
  | @keptChanged lines removed added some script =>
      obtain ⟨further, hunks, isCollected⟩ := exists_collect_eq_cons (lines.length - context)
        (lines.length - context)
        ([.kept (lines.drop (lines.length - context))] ++ [.changed removed added]) script
      refine ⟨_, _, [.kept (lines.drop (lines.length - context))], removed, added, further, hunks,
        isCollected, ?_, some⟩
      simp only [List.flatMap_singleton, chunkLines, List.length_map, List.length_drop]
      omega

/-- The lines of a change of some lines begin with one that shows it. -/
theorem exists_chunkLines_eq_cons {removed added : List String} (some : removed ++ added ≠ []) :
    ∃ item rest, chunkLines (.changed removed added) = item :: rest ∧ ShowsChange item := by
  cases removed with
  | cons line removed => exact ⟨"-" ++ line, _, rfl, line, .inl rfl⟩
  | nil =>
      cases added with
      | nil => exact absurd rfl some
      | cons line added => exact ⟨"+" ++ line, _, rfl, line, .inr rfl⟩

end Hunk

/-- What is left out of a report is behind the lines that are shown at least. -/
theorem exists_truncated_append {front : List String} (short : front.length < reportLimit)
    {item : String} {back : List String} :
    ∃ shown, truncated (front ++ item :: back) = front ++ item :: shown := by
  rw [truncated]
  split
  · obtain ⟨count, isCount⟩ : ∃ count, reportLimit - front.length = count + 1 :=
      Nat.exists_eq_add_one.mpr (Nat.sub_pos_of_lt short)
    rw [List.take_append, List.take_of_length_le (Nat.le_of_lt short), isCount]
    exact ⟨_, by rw [List.take_succ_cons, List.append_assoc]; rfl⟩
  · exact ⟨back, rfl⟩

/-- The report of different lists begins with the two names, a header, and a few kept lines at most,
behind which there is a line that shows a change. -/
theorem exists_report_eq (oldName newName : String) {old new : List String} (differ : old ≠ new) :
    ∃ header kept item rest,
      report oldName newName old new =
        ("--- " ++ oldName) :: ("+++ " ++ newName) :: header :: kept ++ item :: rest ∧
      kept.length ≤ Hunk.context ∧ ShowsChange item := by
  have scriptDiffers : Script.old (Script.between old new) ≠
      Script.new (Script.between old new) := by
    rwa [Script.old_between, Script.new_between]
  obtain ⟨oldStart, newStart, front, removed, added, further, hunks, isScript, short, some⟩ :=
    Hunk.exists_ofScript_eq_cons (Script.opensWithChange_ofBlocks _ 0 0 old new) scriptDiffers
  obtain ⟨item, rest, isChange, shows⟩ := Hunk.exists_chunkLines_eq_cons some
  refine ⟨Hunk.header ⟨oldStart, newStart, front ++ .changed removed added :: further⟩,
    front.flatMap Hunk.chunkLines, item,
    rest ++ further.flatMap Hunk.chunkLines ++ hunks.flatMap Hunk.report, ?_, short, shows⟩
  rw [report, Script.between, isScript]
  simp only [List.flatMap_cons, Hunk.report, List.flatMap_append, isChange, List.cons_append,
    List.append_assoc]

/-- Of a report that is shown in part, a line with a change is shown just where the lists differ;
nothing is shown of equal ones. -/
theorem exists_showsChange_iff (oldName newName : String) (old new : List String) :
    (∃ item ∈ (truncated (report oldName newName old new)).drop 2, ShowsChange item) ↔
      old ≠ new := by
  constructor
  · rintro ⟨item, member, -⟩ rfl
    rw [report_self] at member
    exact absurd member List.not_mem_nil
  · intro differ
    obtain ⟨header, kept, item, rest, isReport, short, shows⟩ :=
      exists_report_eq oldName newName differ
    have early : (("--- " ++ oldName) :: ("+++ " ++ newName) :: header :: kept).length <
        reportLimit := by
      simp only [List.length_cons, reportLimit, Hunk.context] at short ⊢
      omega
    obtain ⟨shown, isShown⟩ := exists_truncated_append early
    rw [isReport, isShown]
    exact ⟨item, by simp, shows⟩

end Diff

end SchemaDdl
