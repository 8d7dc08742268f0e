import SchemaDdl.Proofs.Command.FreshCheck

/-!
# File trees after runs

What a file holds after any runs is the SQL text that the last run to write it put there, or what it
held at the start if there was none.  Nothing is ever removed.  A run that has no output to write
leaves the tree as it is, and one that fails to write its output makes directories on the way there
at most.
-/

namespace SchemaDdl

def Entry.isDirectory : Entry → Bool
  | .directory => true
  | .file _ => false

namespace Command

variable {loader : Loader} {tree : FileTree} {arguments : List String} {location : Location}
  {invocations : List Invocation}

/-- The SQL text that a run writes to the file at a location: its output leads there from the
working directory, and it succeeds without a check. -/
def writtenText? (location : Location) (loader : Loader) (tree : FileTree)
    (arguments : List String) : Option String :=
  match Options.parse arguments with
  | .ok { schema, out := some out, check := false } =>
      if (Path.of out).location tree.workingDirectory = location ∧
          (run loader tree arguments).1.ending = .returned 0 then
        (compileAt loader tree (Path.of schema)).toOption
      else none
  | _ => none

/-- The SQL text that the last one of some runs to write the file at a location put there. -/
def lastText? (location : Location) (tree : FileTree) : List Invocation → Option String
  | [] => none
  | invocation :: invocations =>
      (lastText? location (invocation.run tree).2 invocations).or
        (writtenText? location invocation.loader tree invocation.arguments)

theorem writtenText?_of_idle (idle : Idle loader tree arguments) :
    writtenText? location loader tree arguments = none := by
  rw [writtenText?]
  split
  · rename_i schema out parses
    rcases idle _ parses with checks | prints | ⟨outcome, fails⟩
    · contradiction
    · contradiction
    · rw [fails]
      exact ite_self none
  · rfl

theorem writtenText?_of_delivers {out sql : String}
    (delivers : Delivers loader tree arguments out sql) :
    writtenText? location loader tree arguments =
      if (Path.of out).location tree.workingDirectory = location ∧
          (run loader tree arguments).1.ending = .returned 0 then
        some sql
      else none := by
  obtain ⟨⟨schema, _, _⟩, parses, rfl, rfl, compiles⟩ := delivers
  rw [writtenText?, parses]
  simp only [compiles, Except.toOption]

/-- After a run, a file holds the SQL text that the run wrote to it, or what it held before. -/
theorem lookup_run_eq_file_iff {content : ByteArray} :
    (run loader tree arguments).2.lookup location = some (.file content) ↔
      match writtenText? location loader tree arguments with
      | some sql => content = sql.toUTF8
      | none => tree.lookup location = some (.file content) := by
  obtain ⟨idle, unchanged⟩ | ⟨out, sql, between, delivers, along, ⟨fails, later⟩ |
    ⟨succeeds, notDirectory, later⟩⟩ := run_cases loader tree arguments
  · rw [writtenText?_of_idle idle, unchanged]
  · rw [writtenText?_of_delivers delivers, if_neg fun written => fails written.2, later]
    exact along.file_iff
  · rw [writtenText?_of_delivers delivers, later]
    by_cases here : (Path.of out).location tree.workingDirectory = location
    · subst here
      rw [if_pos ⟨rfl, succeeds⟩, FileTree.lookup_put_self notDirectory, Option.some.injEq,
        Entry.file.injEq]
      exact eq_comm
    · rw [if_neg fun written => here written.1, FileTree.lookup_put,
        if_neg fun changed => here changed.1.symm]
      exact along.file_iff

theorem lookup_run_of_directory (isDirectory : tree.lookup location = some .directory) :
    (run loader tree arguments).2.lookup location = some .directory := by
  obtain ⟨-, unchanged⟩ | ⟨out, sql, between, -, along, ⟨-, later⟩ |
    ⟨-, notDirectory, later⟩⟩ := run_cases loader tree arguments
  · rw [unchanged]
    exact isDirectory
  · rw [later]
    exact along.directory location isDirectory
  · rw [later]
    exact FileTree.directory_put notDirectory location (along.directory location isDirectory)

theorem workingDirectory_run :
    (run loader tree arguments).2.workingDirectory = tree.workingDirectory := by
  obtain ⟨-, unchanged⟩ | ⟨_, _, between, -, along, ⟨-, later⟩ | ⟨-, -, later⟩⟩ :=
    run_cases loader tree arguments
  · rw [unchanged]
  · rw [later]
    exact along.workingDirectory
  · rw [later]
    exact along.workingDirectory

theorem lookup_runAll_eq_file_iff {content : ByteArray} :
    (runAll tree invocations).lookup location = some (.file content) ↔
      match lastText? location tree invocations with
      | some sql => content = sql.toUTF8
      | none => tree.lookup location = some (.file content) := by
  induction invocations generalizing tree with
  | nil => rfl
  | cons invocation invocations induction =>
      rw [runAll, List.foldl_cons, ← runAll, induction, lastText?]
      cases lastText? location (invocation.run tree).2 invocations with
      | some sql => rfl
      | none => exact lookup_run_eq_file_iff

theorem lookup_runAll_of_directory (isDirectory : tree.lookup location = some .directory) :
    (runAll tree invocations).lookup location = some .directory := by
  induction invocations generalizing tree with
  | nil => exact isDirectory
  | cons invocation invocations induction => exact induction (lookup_run_of_directory isDirectory)

theorem workingDirectory_runAll (tree : FileTree) (invocations : List Invocation) :
    (runAll tree invocations).workingDirectory = tree.workingDirectory := by
  induction invocations generalizing tree with
  | nil => rfl
  | cons invocation invocations induction => exact (induction _).trans workingDirectory_run

/-- What is in a file tree stays there, files as files and directories as directories. -/
theorem isDirectory_runAll {kind : Bool}
    (isThere : (tree.lookup location).map Entry.isDirectory = some kind) :
    ((runAll tree invocations).lookup location).map Entry.isDirectory = some kind := by
  obtain ⟨entry, found, rfl⟩ := Option.map_eq_some_iff.mp isThere
  cases entry with
  | directory =>
      rw [lookup_runAll_of_directory found]
      rfl
  | file content =>
      have isFile : ∃ later, (runAll tree invocations).lookup location = some (.file later) := by
        simp only [lookup_runAll_eq_file_iff]
        cases lastText? location tree invocations with
        | some sql => exact ⟨_, rfl⟩
        | none => exact ⟨content, found⟩
      obtain ⟨later, isLater⟩ := isFile
      rw [isLater]
      rfl

theorem runAll_append (tree : FileTree) (before after : List Invocation) :
    runAll tree (before ++ after) = runAll (runAll tree before) after :=
  List.foldl_append

/-- After any runs, each with a loader of its own, a file holds the SQL text of the last run to
write it, or what it held at the start if there was none, and whatever was there at any time still
is.  Among the runs, those with no output to write leave the tree as it is, and those that do not
succeed make directories on the way to the output at most. -/
theorem files_runAll (tree : FileTree) (invocations : List Invocation) :
    (∀ location content,
      (runAll tree invocations).lookup location = some (.file content) ↔
        match lastText? location tree invocations with
        | some sql => content = sql.toUTF8
        | none => tree.lookup location = some (.file content)) ∧
    (∀ before after, invocations = before ++ after → ∀ location kind,
      ((runAll tree before).lookup location).map Entry.isDirectory = some kind →
        ((runAll tree invocations).lookup location).map Entry.isDirectory = some kind) ∧
    ∀ before invocation after, invocations = before ++ invocation :: after →
      (Idle invocation.loader (runAll tree before) invocation.arguments →
        runAll tree (before ++ [invocation]) = runAll tree before) ∧
      ((invocation.run (runAll tree before)).1.ending ≠ .returned 0 →
        FileTree.Extends (LeadsThrough tree.workingDirectory invocation.arguments)
          (runAll tree before) (runAll tree (before ++ [invocation]))) := by
  refine ⟨fun location content => lookup_runAll_eq_file_iff, ?_, ?_⟩
  · rintro before after rfl location kind isThere
    rw [runAll_append]
    exact isDirectory_runAll isThere
  · rintro before invocation after rfl
    have next : runAll tree (before ++ [invocation]) = (invocation.run (runAll tree before)).2 :=
      runAll_append tree before [invocation]
    rw [next]
    refine ⟨run_of_idle, fun fails => ?_⟩
    have cases := run_cases invocation.loader (runAll tree before) invocation.arguments
    rw [workingDirectory_runAll] at cases
    obtain ⟨-, unchanged⟩ | ⟨_, _, _, -, along, ⟨-, later⟩ | ⟨succeeds, -, -⟩⟩ := cases
    · rw [Invocation.run, unchanged]
      exact .refl _ _
    · rw [Invocation.run, later]
      exact along
    · exact absurd succeeds fails

/-- A run that writes its output in a new directory. -/
def menuOutput : Invocation :=
  ⟨Yaml.loader, ["--out", "sql/menu.sql"]⟩

/-- A run that makes a directory and fails then, its output being a directory. -/
def directoryOutput : Invocation :=
  ⟨Yaml.loader, ["--out", "new/../sql"]⟩

/-- A run that writes the same output under another name, from a schema without tables. -/
def emptyOutput : Invocation :=
  ⟨fun _ => .ok (.map none [(.text "column_templates", .null), (.text "tables", .null)]),
    ["--out", "../shop/sql/menu.sql"]⟩

theorem files_runAll_of_menu :
    lastText? ["menu.sql", "sql", "shop"] menuTree [emptyOutput, menuOutput, directoryOutput] =
      some "CREATE TABLE `menu`\n(\n    `a` b\n);\n" ∧
    (runAll menuTree [emptyOutput, menuOutput, directoryOutput]).lookup
        ["menu.sql", "sql", "shop"] =
      some (.file "CREATE TABLE `menu`\n(\n    `a` b\n);\n".toUTF8) ∧
    (runAll menuTree [menuOutput, directoryOutput, emptyOutput]).lookup
        ["menu.sql", "sql", "shop"] = some (.file "".toUTF8) ∧
    (directoryOutput.run (runAll menuTree [menuOutput])).1.ending ≠ .returned 0 ∧
    FileTree.Extends (LeadsThrough ["shop"] directoryOutput.arguments)
      (runAll menuTree [menuOutput]) (runAll menuTree [menuOutput, directoryOutput]) := by
  have last : lastText? ["menu.sql", "sql", "shop"] menuTree
      [emptyOutput, menuOutput, directoryOutput] =
        some "CREATE TABLE `menu`\n(\n    `a` b\n);\n" := by
    decide +kernel
  have empty : lastText? ["menu.sql", "sql", "shop"] menuTree
      [menuOutput, directoryOutput, emptyOutput] = some "" := by
    decide +kernel
  have fails : (directoryOutput.run (runAll menuTree [menuOutput])).1.ending ≠ .returned 0 := by
    decide +kernel
  have history := files_runAll menuTree [emptyOutput, menuOutput, directoryOutput]
  have other := files_runAll menuTree [menuOutput, directoryOutput, emptyOutput]
  refine ⟨last, (history.1 _ _).mpr ?_, (other.1 _ _).mpr ?_, fails, ?_⟩
  · rw [last]
  · rw [empty]
  · exact (other.2.2 [menuOutput] directoryOutput _ rfl).2 fails

end Command

end SchemaDdl
