import ScriptKeeper.Files.Tree

/-!
# Canonical paths

Many paths lead to one file. Its canonical path holds the location of the file itself, so two
files are the same if their canonical paths are equal.
-/

namespace ScriptKeeper

/-- A file by the location to which all paths of it lead. -/
structure CanonicalPath where
  /-- The absolute path of the base folder of the location. -/
  base : String
  location : Location
  deriving DecidableEq, Repr

namespace CanonicalPath

/-- The path as a text. -/
def text (p : CanonicalPath) : String :=
  p.location.foldl (fun path name => path ++ "/" ++ name) p.base

/-- The last name of the path. -/
def fileName (p : CanonicalPath) : String := p.location.getLast?.getD ""

end CanonicalPath

/-- The canonical path of what a path leads to. -/
def FileTree.canonical (files : FileTree) (path : String) : Except FileError CanonicalPath := do
  return ⟨files.base, ← files.locate path⟩

end ScriptKeeper
