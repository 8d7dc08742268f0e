import SchemaDdl.FileTree
import SchemaDdl.Proofs.Resolution.Fault

/-!
# What writing to a file tree leaves as it was

A path leads to the same location wherever the directories on its way are there.  Writing makes
directories only where nothing is and only on the way to the file, and changes that one file:
directories stay directories, and the files at other locations keep their contents.
-/

namespace SchemaDdl

namespace Path

/-- The location to which a path leads from a working directory, once the directories on its way are
there. -/
def location (path : Path) (workingDirectory : Location) : Location :=
  path.names.foldl Location.step (path.start workingDirectory)

/-- Whether a path leads to a location or through it. -/
def IsAlong (path : Path) (workingDirectory place : Location) : Prop :=
  ∃ names, names <+: path.names ∧ place = location ⟨path.root, names⟩ workingDirectory

variable {workingDirectory place : Location}

theorem isAlong_location (path : Path) (workingDirectory : Location) :
    path.IsAlong workingDirectory (path.location workingDirectory) :=
  ⟨path.names, List.prefix_rfl, rfl⟩

theorem IsAlong.of_prefix {root : String} {names further : List String}
    (along : IsAlong ⟨root, names⟩ workingDirectory place) (isPrefix : names <+: further) :
    IsAlong ⟨root, further⟩ workingDirectory place := by
  obtain ⟨before, beforePrefix, rfl⟩ := along
  exact ⟨before, beforePrefix.trans isPrefix, rfl⟩

end Path

namespace FileTree

variable {tree later last : FileTree} {path : Path} {kept location : Location}

theorem foldl_step_of_walk {names : List String} {reached : Location}
    (walks : tree.walk location names = .ok reached) :
    reached = names.foldl Location.step location := by
  induction names generalizing location with
  | nil =>
      rw [walk, Except.ok.injEq] at walks
      exact walks.symm
  | cons name names induction =>
      rw [walk] at walks
      split at walks
      · contradiction
      · contradiction
      · exact induction walks

theorem walk_of_directories
    (directories : ∀ place, tree.lookup place = some .directory →
      later.lookup place = some .directory)
    {names : List String} {reached : Location} (walks : tree.walk location names = .ok reached) :
    later.walk location names = .ok reached := by
  induction names generalizing location with
  | nil => exact walks
  | cons name names induction =>
      rw [walk] at walks ⊢
      split at walks
      · contradiction
      · contradiction
      · rename_i isDirectory
        rw [directories location isDirectory]
        exact induction walks

theorem eq_location_of_locate (located : tree.locate path = .ok location) :
    location = path.location tree.workingDirectory := by
  rw [locate] at located
  split at located
  · contradiction
  · exact foldl_step_of_walk located

theorem locate_of_directories (sameDirectory : later.workingDirectory = tree.workingDirectory)
    (directories : ∀ place, tree.lookup place = some .directory →
      later.lookup place = some .directory)
    (located : tree.locate path = .ok location) : later.locate path = .ok location := by
  rw [locate] at located ⊢
  split at located
  · contradiction
  · rename_i usable
    rw [if_neg usable, sameDirectory]
    exact walk_of_directories directories located

/-- What a path reads is the file at its location, if its directories are there. -/
theorem read_eq_ok_iff {content : ByteArray} :
    tree.read path = .ok content ↔
      tree.locate path = .ok (path.location tree.workingDirectory) ∧
        tree.lookup (path.location tree.workingDirectory) = some (.file content) := by
  simp only [read, find, bind_eq_ok_iff]
  constructor
  · rintro ⟨entry, ⟨location, located, found⟩, isFile⟩
    obtain rfl := eq_location_of_locate located
    refine ⟨located, ?_⟩
    split at found
    · contradiction
    · rename_i found'
      rw [Except.ok.injEq] at found
      subst found
      rw [found']
      split at isFile
      · rw [Except.ok.injEq] at isFile
        rw [isFile]
      · contradiction
  · rintro ⟨located, found⟩
    exact ⟨.file content, ⟨_, located, by rw [found]⟩, rfl⟩

/-- From a tree to a later one nothing changes, but that there are directories at some places where
nothing was. -/
structure Extends (places : Location → Prop) (tree later : FileTree) : Prop where
  workingDirectory : later.workingDirectory = tree.workingDirectory
  entry : ∀ location, later.lookup location = tree.lookup location ∨
    (places location ∧ tree.lookup location = none ∧ later.lookup location = some .directory)

namespace Extends

variable {places further : Location → Prop}

theorem refl (places : Location → Prop) (tree : FileTree) : Extends places tree tree :=
  ⟨rfl, fun _ => .inl rfl⟩

theorem trans (first : Extends places tree later) (second : Extends places later last) :
    Extends places tree last := by
  refine ⟨second.workingDirectory.trans first.workingDirectory, ?_⟩
  intro location
  rcases second.entry location with same | ⟨isPlace, isFree, isDirectory⟩
  · rw [same]
    exact first.entry location
  · rcases first.entry location with same | ⟨-, -, wasMade⟩
    · exact .inr ⟨isPlace, same ▸ isFree, isDirectory⟩
    · rw [wasMade] at isFree
      contradiction

theorem mono (extended : Extends places tree later)
    (included : ∀ location, places location → further location) : Extends further tree later := by
  refine ⟨extended.workingDirectory, ?_⟩
  intro location
  rcases extended.entry location with same | ⟨isPlace, isFree, isDirectory⟩
  · exact .inl same
  · exact .inr ⟨included location isPlace, isFree, isDirectory⟩

theorem directory (extended : Extends places tree later) (place : Location)
    (isDirectory : tree.lookup place = some .directory) :
    later.lookup place = some .directory := by
  rcases extended.entry place with same | ⟨-, isFree, -⟩
  · rw [same]
    exact isDirectory
  · rw [isFree] at isDirectory
    contradiction

/-- The files are the same ones. -/
theorem file_iff (extended : Extends places tree later) {place : Location}
    {content : ByteArray} :
    later.lookup place = some (.file content) ↔ tree.lookup place = some (.file content) := by
  rcases extended.entry place with same | ⟨-, isFree, isDirectory⟩
  · rw [same]
  · simp [isFree, isDirectory]

end Extends

theorem extends_makeDirectory (makes : tree.makeDirectory path = .ok later) :
    Extends (path.IsAlong tree.workingDirectory) tree later := by
  simp only [makeDirectory, bind_eq_ok_iff] at makes
  obtain ⟨place, located, puts⟩ := makes
  obtain rfl := eq_location_of_locate located
  split at puts
  · contradiction
  · rename_i isFree
    rw [Except.ok.injEq] at puts
    subst puts
    refine ⟨rfl, ?_⟩
    intro location
    rw [lookup_put]
    by_cases changed : location = path.location tree.workingDirectory ∧ !tree.isGiven location
    · rw [if_pos changed, changed.1]
      exact .inr ⟨path.isAlong_location _, isFree, rfl⟩
    · rw [if_neg changed]
      exact .inl rfl

theorem extends_ensureDirectory (ensures : tree.ensureDirectory path = .ok later) :
    Extends (path.IsAlong tree.workingDirectory) tree later := by
  rw [ensureDirectory] at ensures
  split at ensures
  · rename_i made makes
    rw [Except.ok.injEq] at ensures
    subst ensures
    exact extends_makeDirectory makes
  · split at ensures
    · rw [Except.ok.injEq] at ensures
      subst ensures
      exact .refl _ tree
    · contradiction

/-- Making the directories along a path makes no others, also where it fails. -/
theorem extends_ensureDirectories (tree : FileTree) (root : String) (names : List String) :
    Extends (Path.IsAlong ⟨root, names.reverse⟩ tree.workingDirectory) tree
      (tree.ensureDirectories root names).1 := by
  induction names with
  | nil =>
      rw [ensureDirectories]
      split
      · rename_i made ensures
        exact extends_ensureDirectory ensures
      · exact .refl _ tree
  | cons name names induction =>
      rw [ensureDirectories]
      split
      · rename_i made ensures
        exact extends_ensureDirectory ensures
      · -- The directories above the last one are along the longer path as well.
        have above : Extends
            (Path.IsAlong ⟨root, (name :: names).reverse⟩ tree.workingDirectory) tree
            (tree.ensureDirectories root names).1 := by
          refine induction.mono fun place along => along.of_prefix ?_
          rw [List.reverse_cons]
          exact List.prefix_append _ _
        split
        · rename_i between failure result
          rw [result] at above
          exact above
        · rename_i between result
          rw [result] at above
          split
          · rename_i made ensures
            have last := extends_ensureDirectory ensures
            rw [above.workingDirectory] at last
            exact above.trans last
          · exact above
      · exact .refl _ tree

/-- A change of one location that is not a directory leaves the directories. -/
theorem directory_put {entry : Entry} (notDirectory : tree.lookup location ≠ some .directory)
    (place : Location) (isDirectory : tree.lookup place = some .directory) :
    (tree.put location entry).lookup place = some .directory := by
  rw [lookup_put, if_neg]
  · exact isDirectory
  · rintro ⟨rfl, -⟩
    exact notDirectory isDirectory

/-- Storing a file changes a location that is not a directory, the one of its path. -/
theorem store_eq_ok {content : ByteArray} (stores : tree.store path content = .ok later) :
    tree.locate path = .ok (path.location tree.workingDirectory) ∧
      tree.lookup (path.location tree.workingDirectory) ≠ some .directory ∧
      later = tree.put (path.location tree.workingDirectory) (.file content) := by
  simp only [store, bind_eq_ok_iff] at stores
  obtain ⟨location, located, puts⟩ := stores
  obtain rfl := eq_location_of_locate located
  split at puts
  · contradiction
  · rename_i notDirectory
    rw [Except.ok.injEq] at puts
    exact ⟨located, notDirectory, puts.symm⟩

/-- Writing makes directories on the way to a path, and then fails or puts a file where it leads. -/
theorem write_cases (tree : FileTree) (path : Path) (content : ByteArray) :
    ∃ between, Extends (path.parent.IsAlong tree.workingDirectory) tree between ∧
      ((∃ failure, tree.write path content = (between, some failure)) ∨
        between.locate path = .ok (path.location tree.workingDirectory) ∧
          between.lookup (path.location tree.workingDirectory) ≠ some .directory ∧
          tree.write path content =
            (between.put (path.location tree.workingDirectory) (.file content), none)) := by
  have along := extends_ensureDirectories tree path.root path.parent.names.reverse
  rw [List.reverse_reverse] at along
  rw [write]
  split
  · rename_i between failure result
    rw [result] at along
    exact ⟨between, along, .inl ⟨failure, rfl⟩⟩
  · rename_i between result
    rw [result] at along
    refine ⟨between, along, ?_⟩
    rw [← along.workingDirectory]
    split
    · rename_i stored stores
      obtain ⟨located, notDirectory, rfl⟩ := store_eq_ok stores
      exact .inr ⟨located, notDirectory, rfl⟩
    · rename_i failure _
      exact .inl ⟨failure, rfl⟩

/-- A location that is no directory takes what is put there. -/
theorem lookup_put_self {entry : Entry} (notDirectory : tree.lookup location ≠ some .directory) :
    (tree.put location entry).lookup location = some entry := by
  have notGiven : tree.isGiven location = false := by
    cases given : tree.isGiven location with
    | false => rfl
    | true => exact absurd (by rw [lookup, given]; rfl) notDirectory
  rw [lookup_put, notGiven, if_pos ⟨rfl, rfl⟩]

/-- What was written to a path is what it reads. -/
theorem read_write {content : ByteArray} (writes : tree.write path content = (later, none)) :
    later.read path = .ok content := by
  obtain ⟨between, along, ⟨failure, fails⟩ | ⟨located, notDirectory, stores⟩⟩ :=
    write_cases tree path content
  · rw [fails] at writes
    simp at writes
  · rw [stores, Prod.mk.injEq] at writes
    obtain ⟨rfl, -⟩ := writes
    have sameDirectory : (between.put (path.location tree.workingDirectory)
        (.file content)).workingDirectory = between.workingDirectory := rfl
    rw [read_eq_ok_iff, sameDirectory, along.workingDirectory]
    exact ⟨locate_of_directories sameDirectory (directory_put notDirectory) located,
      lookup_put_self notDirectory⟩

/-- From a tree to a later one, directories stay directories and a file at a location keeps its
content. -/
structure Preserves (kept : Location) (tree later : FileTree) : Prop where
  workingDirectory : later.workingDirectory = tree.workingDirectory
  directories : ∀ place, tree.lookup place = some .directory →
    later.lookup place = some .directory
  content : ∀ content, tree.lookup kept = some (.file content) →
    later.lookup kept = some (.file content)

namespace Preserves

theorem refl (kept : Location) (tree : FileTree) : Preserves kept tree tree :=
  ⟨rfl, fun _ isDirectory => isDirectory, fun _ isFile => isFile⟩

theorem trans (first : Preserves kept tree later) (second : Preserves kept later last) :
    Preserves kept tree last :=
  ⟨second.workingDirectory.trans first.workingDirectory,
    fun place isDirectory => second.directories place (first.directories place isDirectory),
    fun content isFile => second.content content (first.content content isFile)⟩

/-- A file that is preserved reads as before. -/
theorem read (preserves : Preserves (path.location tree.workingDirectory) tree later)
    {content : ByteArray} (reads : tree.read path = .ok content) :
    later.read path = .ok content := by
  obtain ⟨located, isFile⟩ := read_eq_ok_iff.mp reads
  rw [read_eq_ok_iff, preserves.workingDirectory]
  exact ⟨locate_of_directories preserves.workingDirectory preserves.directories located,
    preserves.content content isFile⟩

end Preserves

theorem Extends.preserves {places : Location → Prop} (extended : Extends places tree later)
    (kept : Location) : Preserves kept tree later :=
  ⟨extended.workingDirectory, extended.directory, fun _ => extended.file_iff.mpr⟩

/-- A change of one location that is not a directory preserves the files elsewhere. -/
theorem preserves_put {entry : Entry} (notDirectory : tree.lookup location ≠ some .directory)
    (elsewhere : kept ≠ location) : Preserves kept tree (tree.put location entry) := by
  refine ⟨rfl, directory_put notDirectory, ?_⟩
  intro content isFile
  rw [lookup_put, if_neg fun changed => elsewhere changed.1]
  exact isFile

/-- Writing to a path preserves the files at other locations, also where it fails. -/
theorem preserves_write (tree : FileTree) {content : ByteArray}
    (other : kept ≠ path.location tree.workingDirectory) :
    Preserves kept tree (tree.write path content).1 := by
  obtain ⟨between, along, ⟨failure, fails⟩ | ⟨-, notDirectory, stores⟩⟩ :=
    write_cases tree path content
  · rw [fails]
    exact along.preserves kept
  · rw [stores]
    exact (along.preserves kept).trans (preserves_put notDirectory other)

end FileTree

end SchemaDdl
