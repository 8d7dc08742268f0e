import SchemaDdl.Command
import SchemaDdl.Proofs.FileTree.Frame

/-!
# What a run does to a file tree

A run that has no output to write leaves the tree as it is.  Any other run makes directories on the
way to its output, and writes the output where it succeeds.
-/

namespace SchemaDdl

namespace Command

variable {loader : Loader} {tree : FileTree} {arguments : List String}

/-- Whether a run has no output to write: the command line leads to no run, or to one that checks,
prints, or has a schema that does not lead to an SQL text. -/
def Idle (loader : Loader) (tree : FileTree) (arguments : List String) : Prop :=
  ∀ options, Options.parse arguments = .ok options →
    options.check = true ∨ options.out = none ∨
      ∃ outcome, compileAt loader tree (Path.of options.schema) = .error outcome

/-- Whether a run has an SQL text to write to an output. -/
def Delivers (loader : Loader) (tree : FileTree) (arguments : List String) (out sql : String) :
    Prop :=
  ∃ options, Options.parse arguments = .ok options ∧ options.check = false ∧
    options.out = some out ∧ compileAt loader tree (Path.of options.schema) = .ok sql

/-- Whether the directory of the output that a command line names from a working directory is at a
location or below it. -/
def LeadsThrough (workingDirectory : Location) (arguments : List String) (place : Location) :
    Prop :=
  ∃ options out, Options.parse arguments = .ok options ∧ options.out = some out ∧
    (Path.of out).parent.IsAlong workingDirectory place

theorem idle_or_delivers (loader : Loader) (tree : FileTree) (arguments : List String) :
    Idle loader tree arguments ∨ ∃ out sql, Delivers loader tree arguments out sql := by
  rw [or_iff_not_imp_right]
  intro delivers options parses
  cases checks : options.check with
  | true => exact .inl rfl
  | false =>
      cases isOut : options.out with
      | none => exact .inr (.inl rfl)
      | some out =>
          cases compiles : compileAt loader tree (Path.of options.schema) with
          | error outcome => exact .inr (.inr ⟨outcome, rfl⟩)
          | ok sql => exact absurd ⟨out, sql, options, parses, checks, isOut, compiles⟩ delivers

section Cases

variable {options : Options} {sql : String}

theorem run_of_compile (parses : Options.parse arguments = .ok options)
    (compiles : compileAt loader tree (Path.of options.schema) = .ok sql) :
    run loader tree arguments = deliver tree (Path.of options.schema) sql (deliveryOf options) := by
  simp only [run, parses, runWith, compiles]

theorem run_of_compile_error {outcome : Outcome} (parses : Options.parse arguments = .ok options)
    (fails : compileAt loader tree (Path.of options.schema) = .error outcome) :
    run loader tree arguments = (outcome, tree) := by
  simp only [run, parses, runWith, fails]

theorem run_of_print (parses : Options.parse arguments = .ok options) (noOut : options.out = none)
    (compiles : compileAt loader tree (Path.of options.schema) = .ok sql) :
    run loader tree arguments = (printed sql, tree) := by
  rw [run_of_compile parses compiles, deliveryOf, noOut]
  rfl

theorem run_of_check {out : String} (parses : Options.parse arguments = .ok options)
    (isOut : options.out = some out) (checks : options.check = true)
    (compiles : compileAt loader tree (Path.of options.schema) = .ok sql) :
    run loader tree arguments =
      (checked (Path.of options.schema) (Path.of out) sql (tree.read (Path.of out)), tree) := by
  rw [run_of_compile parses compiles, deliveryOf, isOut]
  simp only [checks, if_true]
  rfl

theorem run_of_delivers {out : String} (delivers : Delivers loader tree arguments out sql) :
    run loader tree arguments = (written (Path.of out) (tree.write (Path.of out) sql.toUTF8).2,
      (tree.write (Path.of out) sql.toUTF8).1) := by
  obtain ⟨options, parses, unchecked, isOut, compiles⟩ := delivers
  rw [run_of_compile parses compiles, deliveryOf, isOut]
  simp only [unchecked, Bool.false_eq_true, if_false]
  rfl

end Cases

/-- A run that writes its output and returns has written it without fault. -/
theorem eq_none_of_written {out : Path} {failure : Option FileError} {status : Nat}
    (returns : (written out failure).ending = .returned status) : failure = none := by
  cases failure with
  | none => rfl
  | some failure => simp [written, Outcome.stopped, Outcome.silent] at returns

theorem run_of_idle (idle : Idle loader tree arguments) : (run loader tree arguments).2 = tree := by
  cases parses : Options.parse arguments with
  | error refusal => rw [run, parses]
  | ok options =>
      cases compiles : compileAt loader tree (Path.of options.schema) with
      | error outcome => rw [run_of_compile_error parses compiles]
      | ok sql =>
          cases isOut : options.out with
          | none => rw [run_of_print parses isOut compiles]
          | some out =>
              rcases idle options parses with checks | prints | ⟨outcome, fails⟩
              · rw [run_of_check parses isOut checks compiles]
              · rw [isOut] at prints
                contradiction
              · rw [fails] at compiles
                contradiction

theorem Delivers.leadsThrough {out sql : String} (delivers : Delivers loader tree arguments out sql)
    {place : Location} (along : (Path.of out).parent.IsAlong tree.workingDirectory place) :
    LeadsThrough tree.workingDirectory arguments place := by
  obtain ⟨options, parses, -, isOut, -⟩ := delivers
  exact ⟨options, out, parses, isOut, along⟩

/-- What a run may do to a file tree: nothing where it has no output to write, directories on the
way to the output where it fails, and the output besides these where it succeeds. -/
theorem run_cases (loader : Loader) (tree : FileTree) (arguments : List String) :
    (Idle loader tree arguments ∧ (run loader tree arguments).2 = tree) ∨
      ∃ out sql between, Delivers loader tree arguments out sql ∧
        FileTree.Extends (LeadsThrough tree.workingDirectory arguments) tree between ∧
        ((run loader tree arguments).1.ending ≠ .returned 0 ∧
            (run loader tree arguments).2 = between ∨
          (run loader tree arguments).1.ending = .returned 0 ∧
            between.lookup ((Path.of out).location tree.workingDirectory) ≠ some .directory ∧
            (run loader tree arguments).2 =
              between.put ((Path.of out).location tree.workingDirectory) (.file sql.toUTF8)) := by
  rcases idle_or_delivers loader tree arguments with idle | ⟨out, sql, delivers⟩
  · exact .inl ⟨idle, run_of_idle idle⟩
  · obtain ⟨between, along, effect⟩ := tree.write_cases (Path.of out) sql.toUTF8
    refine .inr ⟨out, sql, between, delivers,
      along.mono fun _ isAlong => delivers.leadsThrough isAlong, ?_⟩
    rw [run_of_delivers delivers]
    rcases effect with ⟨failure, fails⟩ | ⟨-, notDirectory, stores⟩
    · rw [fails]
      refine .inl ⟨fun succeeds => ?_, rfl⟩
      have noFailure := eq_none_of_written succeeds
      contradiction
    · rw [stores]
      exact .inr ⟨rfl, notDirectory, rfl⟩

end Command

end SchemaDdl
