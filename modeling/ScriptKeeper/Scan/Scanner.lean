import ScriptKeeper.Scan.Hit
import ScriptKeeper.Scan.Violation
import ScriptKeeper.Settings.Basic

/-!
# What rules object to

A scanner judges hits by the rules of its settings (`Scanner.judge`):

* unwanted code objects to every hit;
* documentation objects to a hit unless the text before it matches the pattern for
  documentation;
* a guideline objects to a hit unless a group of it matches a second pattern. A group that took
  no part in the match counts as empty.

A scanner compiles each of these second patterns only once: those that it has compiled are handed on
from rule to rule and from script to script (`Compiled`).
-/

namespace ScriptKeeper.Scan

open Inspection

/-- Why a scan fails. -/
inductive ScanError
  /-- A folder cannot be listed. -/
  | readFolder (path : String) (cause : FileError)
  /-- A pattern that a rule checks names against cannot be compiled. -/
  | invalidRegex (name : String) (fault : Pattern.Fault)
  | inspection (cause : InspectionError)
  deriving DecidableEq, Repr

/-- The failure in words. -/
def ScanError.message (diagnostics : Diagnostics) : ScanError → String
  | readFolder path cause =>
    "failed to list " ++ path ++ ": IO error for operation on " ++ path ++ ": " ++ cause.message
  | invalidRegex name fault =>
    "regex " ++ Text.quoted name ++ " does not compile: " ++ diagnostics.pattern fault
  | inspection cause => cause.message diagnostics

/-- A scanner: the settings, and their pattern for documentation. -/
structure Scanner where
  settings : Settings
  documentation : Pattern

namespace Scanner

/-- A scanner over settings, whose pattern for documentation has to compile. -/
def ofSettings (settings : Settings) : Except ScanError Scanner :=
  match Pattern.compile {} none settings.documentationRegex with
  | .ok documentation => .ok { settings, documentation }
  | .error fault => .error (.invalidRegex "documentation" fault)

/-- The violation of a rule at a match. -/
def violation (kind : ViolationKind) (path name description : String) (hit : Hit) : Violation :=
  { kind, source := path, line := hit.line, rule := name, description }

/-- Whether the text before a match is documentation. -/
def isDocumented (scanner : Scanner) (hit : Hit) : Bool :=
  hit.preceding.any scanner.documentation.isMatch

/-- The pattern of the given index, compiled. An index out of range has the empty pattern. -/
def checkPattern (scanner : Scanner) (index : Nat) : Except ScanError Pattern :=
  let named := (scanner.settings.regexes[index]?).getD ⟨toString index, ""⟩
  match Pattern.compile {} none named.regex with
  | .ok pattern => .ok pattern
  | .error fault => .error (.invalidRegex named.name fault)

/-- The patterns that have been compiled to check groups against, by their indices. -/
abbrev Compiled := List (Nat × Pattern)

/-- The pattern of the given index, compiled unless it has been before. One that cannot be compiled
    is tried again the next time. -/
def compiledPattern (scanner : Scanner) (compiled : Compiled) (index : Nat) :
    Except ScanError (Pattern × Compiled) :=
  match compiled.find? fun x => x.1 == index with
  | some (_, pattern) => .ok (pattern, compiled)
  | none => do
    let pattern ← scanner.checkPattern index
    return (pattern, (index, pattern) :: compiled)

/-- The violations of a rule among the matches of its pattern, and the patterns compiled by then. -/
def judge (scanner : Scanner) (path : String) (hits : List Hit) (compiled : Compiled) :
    Rule → Except ScanError (List Violation × Compiled)
  | .unwantedCode r =>
    return (hits.map (violation .unwantedCode path r.name r.description), compiled)
  | .documentation r =>
    return ((hits.filter fun hit => !scanner.isDocumented hit).map
      (violation .documentation path r.name r.description), compiled)
  | .guideline r =>
    match r.matchRegexIndex with
    | none => return ([], compiled)
    | some index => do
      let (pattern, compiled) ← scanner.compiledPattern compiled index
      return ((hits.filter fun hit => !pattern.isMatch (hit.group r.groupName)).map
        (violation .guideline path r.name r.description), compiled)

end Scanner

end ScriptKeeper.Scan
