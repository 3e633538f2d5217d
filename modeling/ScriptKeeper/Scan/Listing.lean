import ScriptKeeper.Files.Tree
import ScriptKeeper.Text.Quoted

/-!
# Listing scripts

The scripts below a folder are the files with the extension of scripts, in the order of their
paths, compared name by name. Links below the folder are neither followed nor listed, but the
path of the folder itself may be one. A path that leads to a script instead of a folder lists
just that script.
-/

namespace ScriptKeeper.Scan

/-- The extension of scripts. -/
def scriptExtension : String := "cs"

/-- Whether an extension is that of scripts, in any case. -/
def isScriptExtension (extension : Option String) : Bool :=
  extension.any (Text.equalsIgnoringCase scriptExtension)

/-- The names in a folder in their order. -/
def sortedChildren (files : FileTree) (folder : Location) : List String :=
  (files.children folder).mergeSort fun a b => decide (a ≤ b)

/-- The names that lead from a folder to the scripts below it, in the order of their paths. The
    first argument bounds the depth to which folders are entered; at zero none is. -/
def scriptsBelow (files : FileTree) : (depth : Nat) → (folder : Location) → List Location
  | 0, folder => (sortedChildren files folder).flatMap fun name =>
    match files.get? (folder ++ [name]) with
    | some (.file _) => if isScriptExtension (Path.nameExtension? name) then [[name]] else []
    | _ => []
  | depth + 1, folder => (sortedChildren files folder).flatMap fun name =>
    match files.get? (folder ++ [name]) with
    | some (.file _) => if isScriptExtension (Path.nameExtension? name) then [[name]] else []
    | some .folder => (scriptsBelow files depth (folder ++ [name])).map (name :: ·)
    | _ => []

/-- The paths of the scripts below a folder, or of those directly in it if `recursive` is not
    set. -/
def listScripts (files : FileTree) (folder : String) (recursive : Bool) :
    Except FileError (List String) := do
  let depth := if recursive then files.entries.length else 0
  let below (loc : Location) : List String :=
    (scriptsBelow files depth loc).map fun names => names.foldl Path.join folder
  let loc ← files.locate folder false
  match files.get? loc with
  | some .folder => return below loc
  | some (.link _) =>
    let target ← files.locate folder
    return if files.get? target = some .folder then below target else []
  | _ => return if isScriptExtension (Path.extension? folder) then [folder] else []

end ScriptKeeper.Scan
