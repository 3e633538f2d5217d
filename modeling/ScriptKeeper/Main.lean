import ScriptKeeper.Command.Run

/-!
# The program

The command line runs on the files below the current folder: they are read, the command works on
them as a file tree, and the files that it has changed are written back.
-/

namespace ScriptKeeper.Main

/-- The content of a file of the given bytes. -/
def contentOf (bytes : ByteArray) : Content :=
  match String.fromUTF8? bytes with
  | some text => .text text
  | none => .binary bytes.toList

/-- The entry that is found in a folder, with all that is below it. -/
partial def entriesAt (folder : Location) (found : IO.FS.DirEntry) :
    IO (List (Location × Entry)) := do
  let loc := folder ++ [found.fileName]
  match (← found.path.symlinkMetadata).type with
  | .dir =>
    let below ← (← found.path.readDir).toList.mapM (entriesAt loc)
    return (loc, .folder) :: below.flatten
  | .symlink => return [(loc, .link (← IO.FS.realPath found.path).toString)]
  | .file => return [(loc, .file (contentOf (← IO.FS.readBinFile found.path)))]
  | .other => return []

/-- The files below the current folder. -/
def currentFiles : IO FileTree := do
  let base ← IO.currentDir
  let entries ← (← base.readDir).toList.mapM (entriesAt [])
  return { base := base.toString, entries := entries.flatten }

/-- Writes an entry as a whole, by way of a temporary file. -/
def writeEntry (files : FileTree) (loc : Location) : Entry → IO Unit
  | .file (.text text) => do
    let path := files.absolutePath loc
    let temporary := files.absolutePath (loc.dropLast ++ [files.freshName])
    IO.FS.writeFile temporary text
    IO.FS.rename temporary path
  | _ => return

/-- Writes the entries that are new or have changed. -/
def writeChanges (old new : FileTree) : IO Unit :=
  new.entries.forM fun (loc, entry) =>
    if old.get? loc = some entry then return else writeEntry new loc entry

/-- The environment variables that the command line looks at. -/
def environment : IO Environment := do
  let values ← Invocation.environmentNames.mapM fun name => return (name, ← IO.getEnv name)
  return fun name => (values.find? fun x => x.1 == name).bind Prod.snd

end ScriptKeeper.Main

open ScriptKeeper in
/-- Runs the command line. -/
def main (words : List String) : IO UInt32 := do
  let files ← Main.currentFiles
  let (outcome, changed) := (run {} (← Main.environment) words).run files
  Main.writeChanges files changed
  IO.print outcome.output
  IO.eprint outcome.errors
  return outcome.status.toUInt32
