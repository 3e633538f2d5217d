import ScriptKeeper.Diagnostics
import ScriptKeeper.Files.Write
import ScriptKeeper.Json.Printer
import ScriptKeeper.Json.Reader
import ScriptKeeper.Settings.Document

/-!
# Settings files

Settings are loaded from and saved to files. Loading gives numbers to the rules that have
none; saving writes the file as a whole, over several lines that end with a newline, and
creating refuses to replace anything.
-/

namespace ScriptKeeper

/-- Why settings cannot be loaded or saved. -/
inductive SettingsError
  | read (path : String) (cause : FileError)
  | write (path : String) (cause : FileError)
  | malformed (path : String)
  | alreadyExists (path : String)
  deriving DecidableEq, Repr

/-- The failure in words. -/
def SettingsError.message (diagnostics : Diagnostics) : SettingsError → String
  | read path cause => "failed to read settings from " ++ path ++ ": " ++ cause.message
  | write path cause => "failed to write settings to " ++ path ++ ": " ++ cause.message
  | malformed path => "malformed settings in " ++ path ++ ": " ++ diagnostics.settings
  | alreadyExists path => "settings file " ++ path ++ " already exists"

namespace Settings

/-- The settings that a text holds, without further numbers for rules. -/
def parse? (text : String) : Option Settings := (Json.read? text).bind ofJson?

/-- The settings as the text of a file. -/
def print (s : Settings) : String := s.toJson.pretty ++ "\n"

/-- Loads settings from a file. -/
def load (files : FileTree) (path : String) : Except SettingsError Settings :=
  match files.readText path with
  | .error cause => .error (.read path cause)
  | .ok text =>
    match parse? text with
    | some s => .ok s.assignIds
    | none => .error (.malformed path)

/-- Loads settings from a file; without the file the stock settings hold. -/
def loadOrStock (files : FileTree) (path : String) : Except SettingsError Settings :=
  match load files path with
  | .error (.read _ .notFound) => .ok stock
  | result => result

/-- An action on the file of settings. -/
abbrev FileAction := ExceptT SettingsError (StateM FileTree)

/-- Writes the settings to a file, in place of one that is there. -/
def save (s : Settings) (path : String) (fault : Option WriteFault := none) :
    Settings.FileAction Unit := do
  let (result, files) := (FileTree.writePath path true s.print fault).run (← get)
  set files
  match result with
  | .ok () => return
  | .error cause => throw (.write path cause)

/-- Writes the settings to a file that must not be there yet. -/
def create (s : Settings) (path : String) (fault : Option WriteFault := none) :
    Settings.FileAction Unit := do
  let (result, files) := (FileTree.writePath path false s.print fault).run (← get)
  set files
  match result with
  | .ok () => return
  | .error .alreadyExists => throw (.alreadyExists path)
  | .error cause => throw (.write path cause)

end Settings

end ScriptKeeper
