import SchemaDdl.Proofs.Command.FreshCheck
import SchemaDdl.Proofs.Diff.FirstChange

/-!
# The report of a drift

A check that finds another text than the SQL text prints the difference from the one to the other as
a patch, of which at most 201 lines are shown.  A change is among these if the texts have different
lines.  Texts with the same lines can still differ in where a line ends and how, and then nothing is
shown.
-/

namespace SchemaDdl

namespace Command

/-- The difference from the text of an output to the SQL text, with all its lines. -/
def drift (schema out : Path) (existing sql : String) : List String :=
  Diff.report out.text (schema.text ++ " -> " ++ out.text) (Text.lines existing) (Text.lines sql)

theorem checked_of_ne {schema out : Path} {content : ByteArray} {existing sql : String}
    (decodes : decode? content = some existing) (differ : existing ≠ sql) :
    checked schema out sql (.ok content) =
      .reported (("[check] drift detected: " ++ out.text ++ " is out of date with " ++
        schema.text) :: Diff.truncated (drift schema out existing sql)) := by
  rw [checked, decodes]
  simp only [differ, if_false]
  rfl

/-- A check of an output with another text than the SQL text fails.  It prints a line that says so
and then the whole difference or, where that has more than 201 lines, these and a note.  The
difference can be read as hunks that stand one behind the other, have their lines in the two texts
where their headers state it, and make the lines of the SQL text of those of the output. -/
theorem drift_report_leads_to_sql (schema out : Path) {existing sql : String}
    (differ : existing ≠ sql) :
    ∃ items hunks,
      (∀ content, decode? content = some existing →
        (checked schema out sql (.ok content)).ending = .returned 1 ∧
        checked schema out sql (.ok content) =
          .reported (("[check] drift detected: " ++ out.text ++ " is out of date with " ++
            schema.text) :: items)) ∧
      ((drift schema out existing sql).length ≤ 201 → items = drift schema out existing sql) ∧
      (201 < (drift schema out existing sql).length →
        items = (drift schema out existing sql).take 201 ++ ["... (diff truncated)"]) ∧
      Diff.Patch.hunks? (drift schema out existing sql) = some hunks ∧
      Diff.Patch.LeadsFrom (Text.lines existing) (Text.lines sql) hunks := by
  obtain ⟨hunks, read, leads⟩ := Diff.Patch.leadsFrom_report out.text
    (schema.text ++ " -> " ++ out.text) (Text.lines existing) (Text.lines sql)
  refine ⟨Diff.truncated (drift schema out existing sql), hunks, ?_, ?_, ?_, read, leads⟩
  · intro content decodes
    rw [checked_of_ne decodes differ]
    exact ⟨rfl, rfl⟩
  · intro short
    exact if_neg (Nat.not_lt.mpr short)
  · intro long
    exact if_pos long

/-- The SQL text of a table with the given lines of columns. -/
def teaSql (columns : String) : String :=
  "CREATE TABLE `teas`\n(\n" ++ columns ++ ");\n"

def oldTeaSql : String :=
  teaSql "    `name` TEXT\n"

def newTeaSql : String :=
  teaSql "    `name` TEXT,\n    `leaf` TEXT\n"

theorem drift_report_leads_to_newTeaSql :
    oldTeaSql ≠ newTeaSql ∧
    ∃ items hunks,
      (∀ content, decode? content = some oldTeaSql →
        (checked (.of "teas.yaml") (.of "teas.sql") newTeaSql (.ok content)).ending = .returned 1 ∧
        checked (.of "teas.yaml") (.of "teas.sql") newTeaSql (.ok content) =
          .reported (("[check] drift detected: " ++ (Path.of "teas.sql").text ++
            " is out of date with " ++ (Path.of "teas.yaml").text) :: items)) ∧
      ((drift (.of "teas.yaml") (.of "teas.sql") oldTeaSql newTeaSql).length ≤ 201 →
        items = drift (.of "teas.yaml") (.of "teas.sql") oldTeaSql newTeaSql) ∧
      (201 < (drift (.of "teas.yaml") (.of "teas.sql") oldTeaSql newTeaSql).length →
        items = (drift (.of "teas.yaml") (.of "teas.sql") oldTeaSql newTeaSql).take 201 ++
          ["... (diff truncated)"]) ∧
      Diff.Patch.hunks? (drift (.of "teas.yaml") (.of "teas.sql") oldTeaSql newTeaSql) =
        some hunks ∧
      Diff.Patch.LeadsFrom (Text.lines oldTeaSql) (Text.lines newTeaSql) hunks :=
  have differ : oldTeaSql ≠ newTeaSql := by decide
  ⟨differ, drift_report_leads_to_sql _ _ differ⟩

/-- A check of an output with another text than the SQL text prints a line that says so.  Of the
lines behind it, at least one shows a removed or an added line just where the lines of the two texts
differ; where these are the same, there are none. -/
theorem drift_shows_change_iff (schema out : Path) {content : ByteArray} {existing sql : String}
    (decodes : decode? content = some existing) (differ : existing ≠ sql) :
    ∃ items,
      checked schema out sql (.ok content) =
        .reported (("[check] drift detected: " ++ out.text ++ " is out of date with " ++
          schema.text) :: items) ∧
      ((∃ item ∈ items.drop 2, Diff.ShowsChange item) ↔
        Text.lines existing ≠ Text.lines sql) ∧
      (Text.lines existing = Text.lines sql → items = []) := by
  refine ⟨Diff.truncated (drift schema out existing sql), checked_of_ne decodes differ, ?_, ?_⟩
  · exact Diff.exists_showsChange_iff _ _ _ _
  · intro sameLines
    rw [drift, sameLines, Diff.report_self]
    rfl

/-- The SQL text of a table with its last line not ended. -/
def unendedTeaSql : String :=
  "CREATE TABLE `teas`\n(\n    `name` TEXT\n);"

theorem decode?_unendedTeaSql : decode? unendedTeaSql.toUTF8 = some unendedTeaSql := by
  rw [decode?_toUTF8, Text.unifyLineEnds_of_not_mem (by decide), String.ofList_toList]

theorem drift_shows_change_of_unendedTeaSql :
    decode? unendedTeaSql.toUTF8 = some unendedTeaSql ∧ unendedTeaSql ≠ newTeaSql ∧
    ∃ items,
      checked (.of "teas.yaml") (.of "teas.sql") newTeaSql (.ok unendedTeaSql.toUTF8) =
        .reported (("[check] drift detected: " ++ (Path.of "teas.sql").text ++
          " is out of date with " ++ (Path.of "teas.yaml").text) :: items) ∧
      ∃ item ∈ items.drop 2, Diff.ShowsChange item := by
  have differ : unendedTeaSql ≠ newTeaSql := by decide
  have linesDiffer : Text.lines unendedTeaSql ≠ Text.lines newTeaSql := by decide
  obtain ⟨items, reports, shows, -⟩ :=
    drift_shows_change_iff (.of "teas.yaml") (.of "teas.sql") decode?_unendedTeaSql differ
  exact ⟨decode?_unendedTeaSql, differ, items, reports, shows.mpr linesDiffer⟩

/-- An output that lacks nothing but the end of its last line drifts, and no change is shown. -/
theorem drift_shows_nothing_of_unendedTeaSql :
    unendedTeaSql ≠ oldTeaSql ∧
    checked (.of "teas.yaml") (.of "teas.sql") oldTeaSql (.ok unendedTeaSql.toUTF8) =
      .reported ["[check] drift detected: teas.sql is out of date with teas.yaml"] := by
  have differ : unendedTeaSql ≠ oldTeaSql := by decide
  have sameLines : Text.lines unendedTeaSql = Text.lines oldTeaSql := by decide
  refine ⟨differ, ?_⟩
  rw [checked_of_ne decode?_unendedTeaSql differ, drift, sameLines, Diff.report_self]
  rfl

end Command

end SchemaDdl
