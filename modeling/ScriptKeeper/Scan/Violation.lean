import ScriptKeeper.Files.Path
import ScriptKeeper.Text.Quoted

/-!
# Violations

What a scan objects to: where, by which rule and why.
-/

namespace ScriptKeeper.Scan

/-- The kind of rule that objects. -/
inductive ViolationKind
  | unwantedCode
  | documentation
  | guideline
  deriving DecidableEq, Repr, Inhabited

namespace ViolationKind

/-- The kinds in order. -/
def all : List ViolationKind := [unwantedCode, documentation, guideline]

/-- The name of the kind. -/
def text : ViolationKind → String
  | unwantedCode => "unwanted_code"
  | documentation => "documentation"
  | guideline => "guideline"

/-- The kind of the given name, in any case. -/
def ofText? (s : String) : Option ViolationKind :=
  all.find? fun kind => Text.equalsIgnoringCase kind.text s

/-- What the message of a violation begins with. -/
def complaint : ViolationKind → String
  | unwantedCode => "Unwanted Code found"
  | documentation => "Code not documented"
  | guideline => "Codeguideline violation"

end ViolationKind

/-- A violation of a rule. -/
structure Violation where
  kind : ViolationKind
  /-- The path of the script. -/
  source : String
  line : Nat
  /-- The name of the rule. -/
  rule : String
  /-- The description of the rule. -/
  description : String
  deriving DecidableEq, Repr

namespace Violation

/-- What is wrong and where: the script goes by its last name. -/
def message (v : Violation) : String :=
  v.kind.complaint ++ " in: " ++ (Path.fileName? v.source).getD v.source ++ ": " ++
    toString v.line

/-- The violation as a line of a report. -/
def text (v : Violation) : String :=
  v.source ++ ":" ++ toString v.line ++ ": [" ++ v.kind.text ++ "] " ++ v.description ++ " - " ++
    v.message

end Violation

end ScriptKeeper.Scan
