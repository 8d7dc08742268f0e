import SchemaDdl.Proofs.Command.FreshCheck

/-!
# What a run tells

The status and the two channels of a run that returns tell what happened.  A schema that does not
lead to an SQL text, an output that is missing and one that drifted are told apart by how the report
on the error channel begins, and nothing is printed then.  Where a run succeeds, the error channel
is empty, and nothing but the SQL text is printed, or the line that names the output that holds it.
-/

namespace SchemaDdl

/-- Whether a run returns status one, prints nothing, and reports something that begins with a
text. -/
structure Outcome.Fails (outcome : Outcome) (beginning : String) : Prop where
  ending : outcome.ending = .returned 1
  output : outcome.output = ""
  begins : beginning.toList <+: outcome.errors.toList

namespace Outcome

theorem Fails.mono {outcome : Outcome} {beginning shorter : String}
    (fails : outcome.Fails beginning) (begins : shorter.toList <+: beginning.toList) :
    outcome.Fails shorter :=
  ⟨fails.ending, fails.output, begins.trans fails.begins⟩

end Outcome

namespace FileTree

/-- Whether a path leads to a file or a directory. -/
def IsThere (tree : FileTree) (path : Path) : Prop :=
  ∃ entry, tree.find path = .ok entry

end FileTree

namespace Command

variable {loader : Loader} {tree : FileTree} {arguments : List String} {options : Options}
  {sql : String} {status : Nat}

/-- The text of the file at a path, its line ends unified, if it is there and is UTF-8. -/
def textAt? (tree : FileTree) (path : Path) : Option String :=
  (tree.read path).toOption.bind decode?

/-- What is told by a check of an output that returns. -/
structure TellsCheck (tree : FileTree) (out : Path) (sql : String) (outcome : Outcome) : Prop where
  missing : outcome.Fails "[check] missing file" ↔ ¬tree.IsThere out
  drift : outcome.Fails "[check] drift detected" ↔
    tree.IsThere out ∧ ∃ existing, textAt? tree out = some existing ∧ existing ≠ sql
  passes : tree.IsThere out → (¬∃ existing, textAt? tree out = some existing ∧ existing ≠ sql) →
    outcome = .silent (.returned 0)
  noErrors : outcome.ending = .returned 0 → outcome.errors = ""

/-- A check that returns status one reports as one. -/
theorem TellsCheck.fails {out : Path} {outcome : Outcome} (tells : TellsCheck tree out sql outcome)
    (returns : outcome.ending = .returned 1) : outcome.Fails "[check] " := by
  by_cases isThere : tree.IsThere out
  · by_cases differs : ∃ existing, textAt? tree out = some existing ∧ existing ≠ sql
    · exact (tells.drift.mpr ⟨isThere, differs⟩).mono (by decide)
    · rw [tells.passes isThere differs] at returns
      simp [Outcome.silent] at returns
  · exact (tells.missing.mpr isThere).mono (by decide)

end Command

end SchemaDdl
