import ScriptKeeper.Command.Arguments
import ScriptKeeper.Inspection.Trial
import ScriptKeeper.Scan.Folder
import ScriptKeeper.Scan.Report
import ScriptKeeper.Settings.File
import ScriptKeeper.Template.Script

/-!
# Carrying out commands

A command works on a file tree, prints lines as it goes on (`Command.Progress`), and ends with an
exit status or a failure. The status of the program is that of the command: 0 if all went well and 1
if a scan has found violations. It is 2 if the command line does not fit or the command fails.
-/

namespace ScriptKeeper

open Inspection (Registry Workspace)
open Scan (Report ScanError Scanner ScannerAction)

/-- How a run of the program ends. -/
structure Outcome where
  status : Nat := 0
  /-- What is printed on standard output. -/
  output : String := ""
  /-- What is printed on standard error. -/
  errors : String := ""
  deriving DecidableEq, Repr

/-- Why a command fails. -/
inductive CommandError
  | settings (cause : SettingsError)
  | scan (cause : ScanError)
  | template (cause : TemplateError)
  deriving DecidableEq, Repr

/-- The failure in words. -/
def CommandError.message (diagnostics : Diagnostics) : CommandError → String
  | settings cause => cause.message diagnostics
  | scan cause => "scan failed: " ++ cause.message diagnostics
  | template cause => cause.message diagnostics

namespace Command

/-- The name of the program and its version. -/
def versionText : String := "codemanager 0.1.0\n"

/-- How far a command has got: the files, and what it has printed on standard output. -/
structure Progress where
  files : FileTree
  output : String := ""
  deriving DecidableEq, Repr

/-- An action of a command that can fail. -/
abbrev Action := ExceptT CommandError (StateM Progress)

/-- Prints a line. -/
def printLine (line : String) : Command.Action Unit :=
  modify fun p => { p with output := p.output ++ line ++ "\n" }

/-- Prints lines one after the other. -/
def printLines (lines : List String) : Command.Action Unit := lines.forM printLine

/-- A result with its failure told as that of a command. -/
def liftFailure {ε α : Type} (wrap : ε → CommandError) (result : Except ε α) : Command.Action α :=
  match result with
  | .ok a => return a
  | .error cause => throw (wrap cause)

/-- An action on files with its failure told as that of a command. -/
def liftAction {ε α : Type} (wrap : ε → CommandError) (action : ExceptT ε (StateM FileTree) α) :
    Command.Action α := do
  let p ← get
  let (result, files) := action.run p.files
  set { p with files }
  liftFailure wrap result

/-- The settings of a file, or the stock settings without the file. -/
def settingsOf (settingsFile : String) : Command.Action Settings := do
  liftFailure .settings (Settings.loadOrStock (← get).files settingsFile)

/-- The status of a command that has done what it was to do. -/
def succeeded : Nat := 0

/-- The status of a scan that has found violations. -/
def violationsFound : Nat := 1

/-- The status of a command that has failed, or of a command line that does not fit. -/
def failed : Nat := 2

/-- Writes the stock settings to a new file. -/
def runInit (settingsFile : String) (fault : Option WriteFault) : Command.Action Nat := do
  liftAction .settings (Settings.stock.create settingsFile fault)
  printLine ("created settings " ++ settingsFile)
  return succeeded

/-- The folder that an argument of a scan means: the configured one of that name, or else the
    folder at that path, to be checked by all rules, with all folders in it. -/
def scanTarget (settings : Settings) (folder : String) : ScriptFolder :=
  (settings.scriptFolder? folder).getD {
    name := folder
    path := folder
    includeSubdirectories := true
    rules := settings.validRules.map Rule.id }

/-- The folders of a scan: those of the arguments, or all that are configured. -/
def scanTargets (settings : Settings) (folders : List String) : List ScriptFolder :=
  if folders.isEmpty then settings.scriptFolders else folders.map (scanTarget settings)

/-- Scans folders one after the other, in a registry of their own. -/
def scanFolders (scanner : Scanner) (targets : List ScriptFolder) : Command.Action Report := do
  let p ← get
  let start : Registry × Workspace := ({}, { files := p.files })
  let (result, (_, w)) := (ScannerAction.afresh (targets.mapM scanner.checkFolder)).run start
  set { p with files := w.files }
  return Report.collect {} (← liftFailure .scan result).flatten

/-- Checks the scripts of folders. -/
def runScan (settingsFile : String) (folders : List String) : Command.Action Nat := do
  let settings ← settingsOf settingsFile
  let targets := scanTargets settings folders
  if targets.isEmpty then
    printLine "no script folders to scan"
    return succeeded
  let scanner ← liftFailure .scan (Scanner.ofSettings settings)
  let report ← scanFolders scanner targets
  printLines report.render
  printLine (toString report.size ++ " violation(s) in " ++ toString targets.length ++
    " folder(s)")
  return if report.isEmpty then succeeded else violationsFound

/-- Tries a pattern on a text. -/
def runTestRegex (pattern text : String) (ignoreCase multiLine : Bool) :
    Command.Action Nat := do
  let settings := { caseInsensitive := ignoreCase, multiLine }
  let tried := Inspection.tryPattern settings pattern text
  let trials ← liftFailure (fun cause => .scan (.inspection cause)) tried
  if trials.isEmpty then printLine "no matches"
  printLines (trials.map Inspection.Trial.text)
  return succeeded

/-- Lists the templates of the template folder. -/
def runTemplates (settingsFile : String) : Command.Action Nat := do
  let settings ← settingsOf settingsFile
  let templates ← liftFailure .template (Template.discover (← get).files settings.templateFolder)
  printLines (templates.map fun template => template.name ++ "\t" ++ template.path)
  return succeeded

/-- Creates a template. -/
def runNewTemplate (path : String) (fault : Option WriteFault) : Command.Action Nat := do
  let template ← liftAction .template (Template.create path fault)
  printLine ("created template " ++ template.path)
  return succeeded

/-- The template of the given name in the template folder, or else that of the path. -/
def findTemplate (files : FileTree) (folder name : String) : Except TemplateError Template := do
  if files.isFolder folder then
    match (← Template.discover files folder).find? fun t => t.name == name with
    | some template => return template
    | none => Template.ofPath name
  else Template.ofPath name

/-- Creates a script from a template. -/
def runNewScript (settingsFile name template folder : String) (fault : Option WriteFault) :
    Command.Action Nat := do
  let settings ← settingsOf settingsFile
  let template ←
    liftFailure .template (findTemplate (← get).files settings.templateFolder template)
  let path ←
    liftAction .template (template.createScript settings.placeholders folder name fault)
  printLine ("created script " ++ path)
  return succeeded

/-- Carries out a command; the exit status. -/
def perform (settingsFile : String) (fault : Option WriteFault) : Command → Command.Action Nat
  | init => runInit settingsFile fault
  | scan folders => runScan settingsFile folders
  | testRegex pattern text ignoreCase multiLine =>
    runTestRegex pattern text ignoreCase multiLine
  | templates => runTemplates settingsFile
  | newTemplate path => runNewTemplate path fault
  | newScript name template folder => runNewScript settingsFile name template folder fault

end Command

/-- Carries out what a command line asks for. -/
def run (diagnostics : Diagnostics) (environment : Environment) (words : List String)
    (fault : Option WriteFault := none) : StateM FileTree Outcome := do
  match Invocation.ofArguments environment words with
  | .error .help => return { output := diagnostics.usage }
  | .error .version => return { output := Command.versionText }
  | .error .misuse => return { status := Command.failed, errors := diagnostics.usage }
  | .ok invocation =>
    let command := invocation.command.perform invocation.settingsFile fault
    let (result, p) := command.run { files := ← get }
    set p.files
    match result with
    | .ok status => return { status, output := p.output }
    | .error cause =>
      return {
        status := Command.failed
        output := p.output
        errors := "codemanager: " ++ cause.message diagnostics ++ "\n" }

end ScriptKeeper
