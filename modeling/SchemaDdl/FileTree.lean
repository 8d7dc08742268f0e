import SchemaDdl.Path
import SchemaDdl.Text.Quoted

/-!
# File trees

Files and directories, and the working directory from which paths without a root start.  A location
is the names on the way to it from the root, the last one first.  The working directory and those
above it are directories.  A path leads to a location only through directories that are there, and
two paths that lead to one location lead to one file.
-/

namespace SchemaDdl

inductive Entry
  | file (content : ByteArray)
  | directory

/-- Why an operation on a path fails. -/
inductive FileError
  | notFound
  | exists
  | notDirectory
  | isDirectory
  | unusableName
  deriving DecidableEq

namespace FileError

/-- The wording of a failed operation on a path. -/
def message (path : Path) : FileError → String
  | .notFound => "[Errno 2] No such file or directory: " ++ Text.quoted path.text
  | .exists => "[Errno 17] File exists: " ++ Text.quoted path.text
  | .notDirectory => "[Errno 20] Not a directory: " ++ Text.quoted path.text
  | .isDirectory => "[Errno 21] Is a directory: " ++ Text.quoted path.text
  | .unusableName => "embedded null byte"

/-- Whether the operating system reports the failure; a name that cannot be one is never handed to
it. -/
def isReported : FileError → Bool
  | .unusableName => false
  | _ => true

end FileError

/-- The names on the way from the root to a place, the last one first. -/
abbrev Location := List String

namespace Location

/-- The place that a name leads to from another one; above the root there is only the root. -/
def step (location : Location) (name : String) : Location :=
  if name = ".." then location.tail else name :: location

end Location

/-- Where the names of a path start: at the working directory unless the path has a root. -/
def Path.start (path : Path) (workingDirectory : Location) : Location :=
  if path.root.isEmpty then workingDirectory else []

structure FileTree where
  workingDirectory : Location
  entries : List (Location × Entry)

namespace FileTree

/-- Whether a location is the working directory or above it. -/
def isGiven (tree : FileTree) (location : Location) : Bool :=
  location.isSuffixOf tree.workingDirectory

def lookup (tree : FileTree) (location : Location) : Option Entry :=
  if tree.isGiven location then some .directory
  else (tree.entries.find? fun entry => entry.1 = location).map Prod.snd

def setEntry (location : Location) (entry : Entry) :
    List (Location × Entry) → List (Location × Entry)
  | [] => [(location, entry)]
  | first :: rest =>
      if first.1 = location then (location, entry) :: rest
      else first :: setEntry location entry rest

def put (tree : FileTree) (location : Location) (entry : Entry) : FileTree :=
  { tree with entries := setEntry location entry tree.entries }

/-- The location to which names lead from another one; all but the last have to lead to
directories. -/
def walk (tree : FileTree) (location : Location) : List String → Except FileError Location
  | [] => .ok location
  | name :: names =>
      match tree.lookup location with
      | none => .error .notFound
      | some (.file _) => .error .notDirectory
      | some .directory => tree.walk (location.step name) names

def locate (tree : FileTree) (path : Path) : Except FileError Location :=
  if path.names.any fun name => name.toList.contains '\x00' then .error .unusableName
  else tree.walk (path.start tree.workingDirectory) path.names

def find (tree : FileTree) (path : Path) : Except FileError Entry := do
  match tree.lookup (← tree.locate path) with
  | none => .error .notFound
  | some entry => .ok entry

def read (tree : FileTree) (path : Path) : Except FileError ByteArray := do
  match ← tree.find path with
  | .file content => .ok content
  | .directory => .error .isDirectory

def isDirectory (tree : FileTree) (path : Path) : Bool :=
  match tree.find path with
  | .ok .directory => true
  | _ => false

def makeDirectory (tree : FileTree) (path : Path) : Except FileError FileTree := do
  let location ← tree.locate path
  match tree.lookup location with
  | some _ => .error .exists
  | none => .ok (tree.put location .directory)

/-- The tree once there is a directory at the end of a path, or the failure; a directory that is
there will do. -/
def ensureDirectory (tree : FileTree) (path : Path) : Except FileError FileTree :=
  match tree.makeDirectory path with
  | .ok tree => .ok tree
  | .error failure => if tree.isDirectory path then .ok tree else .error failure

/-- The tree once there are directories all along the path with a root and names, the last of these
first, and the failure that came in between, if one did.  A directory is made only after those on
the way to it. -/
def ensureDirectories (tree : FileTree) (root : String) : List String → FileTree × Option FileError
  | [] =>
      match tree.ensureDirectory ⟨root, []⟩ with
      | .ok tree => (tree, none)
      | .error failure => (tree, some failure)
  | name :: names =>
      let path : Path := ⟨root, (name :: names).reverse⟩
      match tree.ensureDirectory path with
      | .ok tree => (tree, none)
      | .error .notFound =>
          match tree.ensureDirectories root names with
          | (tree, some failure) => (tree, some failure)
          | (tree, none) =>
              match tree.ensureDirectory path with
              | .ok tree => (tree, none)
              | .error failure => (tree, some failure)
      | .error failure => (tree, some failure)

def store (tree : FileTree) (path : Path) (content : ByteArray) : Except FileError FileTree := do
  let location ← tree.locate path
  match tree.lookup location with
  | some .directory => .error .isDirectory
  | _ => .ok (tree.put location (.file content))

/-- The tree with a content in the file at the end of a path, once the directories on the way are
there, and the failure, if there was one. -/
def write (tree : FileTree) (path : Path) (content : ByteArray) : FileTree × Option FileError :=
  match tree.ensureDirectories path.root path.parent.names.reverse with
  | (tree, some failure) => (tree, some failure)
  | (tree, none) =>
      match tree.store path content with
      | .ok tree => (tree, none)
      | .error failure => (tree, some failure)

theorem find?_setEntry (location wanted : Location) (entry : Entry)
    (entries : List (Location × Entry)) :
    ((setEntry location entry entries).find? fun entry => entry.1 = wanted).map Prod.snd =
      if wanted = location then some entry
      else (entries.find? fun entry => entry.1 = wanted).map Prod.snd := by
  induction entries with
  | nil =>
      by_cases same : wanted = location
      · simp [setEntry, same]
      · simp [setEntry, same, Ne.symm same]
  | cons first rest induction =>
      simp only [setEntry]
      split
      · rename_i found
        by_cases same : wanted = location
        · simp [same]
        · simp [same, Ne.symm same, found]
      · rename_i other
        simp only [List.find?_cons]
        by_cases here : first.1 = wanted
        · have : wanted ≠ location := by rintro rfl; exact other here
          simp [here, this]
        · simpa [here] using induction

/-- Putting something at a location changes what is there and nothing else; what is given cannot be
changed. -/
theorem lookup_put (tree : FileTree) (location wanted : Location) (entry : Entry) :
    (tree.put location entry).lookup wanted =
      if wanted = location ∧ !tree.isGiven wanted then some entry else tree.lookup wanted := by
  have sameGiven : (tree.put location entry).isGiven wanted = tree.isGiven wanted := rfl
  rw [lookup, sameGiven, lookup]
  by_cases given : tree.isGiven wanted
  · simp [given]
  · simp only [given, put, find?_setEntry]
    simp

end FileTree

end SchemaDdl
