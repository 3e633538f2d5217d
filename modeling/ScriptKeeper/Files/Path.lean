/-!
# Paths

A path is a text that names an entry of a file tree: the names from folder to folder, with
slashes between them. The name "." stays in a folder and ".." leaves it.

* `names`: the names of a path in order;
* `fileName?`, `stem?`, `extension?`: the last name, and its parts before and after the last
  dot; a dot at the very beginning divides nothing;
* `folder`: the path without the last name;
* `join`: the path of an entry of a folder.
-/

namespace ScriptKeeper.Path

/-- The names of a path, from the first to the last. -/
def names (path : String) : List String :=
  ((path.toList.splitOn '/').filter (!·.isEmpty)).map String.ofList

/-- Whether a path starts from the root of all files. -/
def isAbsolute (path : String) : Bool := path.toList.head? == some '/'

/-- Whether a path ends with a slash, so that it can name a folder only. -/
def endsWithSlash (path : String) : Bool := path.toList.getLast? == some '/'

/-- The names without those that stay where they are. -/
def properNames (path : String) : List String := (names path).filter (· != ".")

/-- The last name of a path, unless it leaves a folder. -/
def fileName? (path : String) : Option String :=
  (properNames path).getLast?.filter (· != "..")

/-- The parts of a name before and after its last dot, if there is one. -/
def cutAtLastDot (name : String) : Option (String × String) :=
  let backwards := name.toList.reverse
  let after := (backwards.takeWhile (· != '.')).reverse
  match backwards.dropWhile (· != '.') with
  | [] => none
  | _ :: before => some (String.ofList before.reverse, String.ofList after)

/-- The extension of a name. -/
def nameExtension? (name : String) : Option String :=
  match cutAtLastDot name with
  | some (before, after) => if before.isEmpty then none else some after
  | none => none

/-- The name without its extension. -/
def nameStem (name : String) : String :=
  match cutAtLastDot name with
  | some (before, _) => if before.isEmpty then name else before
  | none => name

/-- The extension of the last name of a path. -/
def extension? (path : String) : Option String := (fileName? path).bind nameExtension?

/-- The last name of a path without its extension. -/
def stem? (path : String) : Option String := (fileName? path).map nameStem

/-- The path of the folder that holds what a path names. -/
def folder (path : String) : String :=
  let names := (properNames path).dropLast
  if isAbsolute path then "/" ++ "/".intercalate names
  else if names.isEmpty then "."
  else "/".intercalate names

/-- The path of the entry `name` of a folder. -/
def join (folder name : String) : String :=
  if folder.isEmpty || isAbsolute name then name
  else if endsWithSlash folder then folder ++ name
  else folder ++ "/" ++ name

end ScriptKeeper.Path
