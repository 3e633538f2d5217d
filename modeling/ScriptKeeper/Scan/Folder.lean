import ScriptKeeper.Scan.Listing
import ScriptKeeper.Scan.Script

/-!
# Scanning folders

The scripts of a folder are checked by the rules that are set for the folder, in the order of
the scripts. Rules that cannot be checked are left out.

* `checkFolder` checks one folder, `checkFolders` all folders of the settings;
* `scanFolder` and `scanAll` do so with no pattern compiled before.
-/

namespace ScriptKeeper.Scan.Scanner

/-- The rules that are checked in a folder. -/
def folderRules (scanner : Scanner) (folder : ScriptFolder) : List Rule :=
  folder.rules.filterMap scanner.settings.rule?

/-- The violations in the scripts of a folder. A folder without rules is not even listed. -/
def checkFolder (scanner : Scanner) (folder : ScriptFolder) : ScannerAction (List Violation) := do
  let rules := scanner.folderRules folder
  if rules.isEmpty then return []
  match listScripts (← get).2.2.files folder.path folder.includeSubdirectories with
  | .error cause => throw (.readFolder folder.path cause)
  | .ok scripts => return (← scripts.mapM fun path => scanner.checkScript path rules).flatten

/-- The violations in the scripts of all configured folders. -/
def checkFolders (scanner : Scanner) : ScannerAction (List Violation) := do
  return (← scanner.settings.scriptFolders.mapM scanner.checkFolder).flatten

/-- The violations in the scripts of a folder, for a new scanner. -/
def scanFolder (scanner : Scanner) (folder : ScriptFolder) : ScanAction (List Violation) :=
  (scanner.checkFolder folder).afresh

/-- The violations in the scripts of all configured folders, for a new scanner. -/
def scanAll (scanner : Scanner) : ScanAction (List Violation) := scanner.checkFolders.afresh

end ScriptKeeper.Scan.Scanner
