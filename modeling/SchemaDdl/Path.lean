/-!
# Paths

A path is a root and the names on the way from it.  Empty names and single dots do not count; double
dots stay, because what they lead to depends on what is there.
-/

namespace SchemaDdl

structure Path where
  root : String
  names : List String
  deriving DecidableEq

namespace Path

/-- The root of the characters of a path: exactly two slashes in front stand for a root of their
own. -/
def rootOf (chars : List Char) : String :=
  match (chars.takeWhile (· = '/')).length with
  | 0 => ""
  | 2 => "//"
  | _ => "/"

def of (text : String) : Path where
  root := rootOf text.toList
  names := ((text.toList.splitOn '/').filter fun name => name ≠ [] ∧ name ≠ ['.']).map
    String.ofList

/-- A path in writing; where it has neither root nor names, a single dot. -/
def text (path : Path) : String :=
  if path.root.isEmpty && path.names.isEmpty then "."
  else path.root ++ "/".intercalate path.names

def parent (path : Path) : Path :=
  { path with names := path.names.dropLast }

end Path

end SchemaDdl
