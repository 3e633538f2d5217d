import ScriptKeeper.Inspection.Registry
import ScriptKeeper.Scan.Scanner

/-!
# Checking a script

A script is opened through a registry for reading, the rules are checked in it one after the
other, and it is closed again. A script that cannot be opened is passed over, and so is a rule
whose pattern cannot be used. Each pattern is looked for only once in a script, however many
rules refer to it.

* `checkScript` checks a script, and keeps the patterns that it compiles for the next;
* `scanFile` does so with none compiled before.
-/

namespace ScriptKeeper.Scan

open Inspection

/-- An action of a scanner on the session of one script. -/
abbrev ScriptAction := ExceptT ScanError (StateM (Scanner.Compiled × Session))

/-- An action of a scanner. -/
abbrev ScannerAction := ExceptT ScanError (StateM (Scanner.Compiled × Registry × Workspace))

/-- An action of a scanner that has not been used before. -/
abbrev ScanAction := ExceptT ScanError (StateM (Registry × Workspace))

/-- Starts without any pattern compiled. -/
def ScannerAction.afresh {α : Type} (action : ScannerAction α) : ScanAction α :=
  ExceptT.mk fun state =>
    let (result, (_, state)) := action.run ([], state)
    (result, state)

/-- A failure of a session, as a failure of the scan. -/
def liftInspection {α : Type} (result : Except InspectionError α) : Except ScanError α :=
  match result with
  | .ok a => .ok a
  | .error cause => .error (.inspection cause)

/-- An action of a session, as an action of the scan. -/
def runSession {α : Type} (action : SessionAction α) : ScriptAction α := do
  let (compiled, s) ← get
  let (result, s) := action.run s
  set (compiled, s)
  liftInspection result

namespace Scanner

/-- The hits of the pattern of the given index; none if it cannot be used. -/
def search (scanner : Scanner) (index : Nat) : ScriptAction (Option (List Hit)) := do
  match scanner.settings.regex? index with
  | none => return none
  | some pattern => runSession (Hit.search pattern)

/-- The matches of the patterns that have been looked for, by their indices. -/
abbrev Searched := List (Nat × List Hit)

/-- The matches of the pattern of the given index, looked for unless they are known. -/
def hits (scanner : Scanner) (searched : Searched) (index : Nat) :
    ScriptAction (Option (List Hit) × Searched) := do
  match searched.find? fun x => x.1 == index with
  | some (_, found) => return (some found, searched)
  | none =>
    match ← scanner.search index with
    | none => return (none, searched)
    | some found => return (some found, (index, found) :: searched)

/-- The violations of the rules in a script, in the order of the rules. -/
def checkFrom (scanner : Scanner) (path : String) :
    Searched → List Rule → ScriptAction (List Violation)
  | _, [] => return []
  | searched, rule :: rest => do
    match rule.searchIndex with
    | none => scanner.checkFrom path searched rest
    | some index =>
      let (found, searched) ← scanner.hits searched index
      match found with
      | none => scanner.checkFrom path searched rest
      | some found =>
        let (compiled, s) ← get
        let (violations, compiled) ← (scanner.judge path found compiled rule :
          Except ScanError (List Violation × Compiled))
        set (compiled, s)
        return violations ++ (← scanner.checkFrom path searched rest)

/-- The violations of the rules in the script of a session. -/
def checkRules (scanner : Scanner) (path : String) (rules : List Rule) :
    ScriptAction (List Violation) := do
  runSession (Session.changeSettings .withLines)
  scanner.checkFrom path [] rules

/-- The violations of the rules in a script. -/
def checkScript (scanner : Scanner) (path : String) (rules : List Rule) :
    ScannerAction (List Violation) := do
  let (compiled, registry, workspace) ← get
  let (opened, (r, w)) := (Registry.openFile path .read).run (registry, workspace)
  set (compiled, r, w)
  match opened with
  | .error _ => return []
  | .ok session =>
    let (violations, (compiled, session)) :=
      (scanner.checkRules path rules).run (compiled, session)
    let (closed, (r, _)) := Registry.close.run (r, session)
    set (compiled, r, w)
    let () ← liftInspection closed
    violations

/-- The violations of the rules in a script, for a new scanner. -/
def scanFile (scanner : Scanner) (path : String) (rules : List Rule) :
    ScanAction (List Violation) := (scanner.checkScript path rules).afresh

end Scanner

end ScriptKeeper.Scan
