import ScriptKeeper.Settings.Stock

/-!
# Settings

Everything that can be configured: script folders with the rules that are checked in them,
placeholders of templates, patterns and rules.

* `assignIds` gives numbers to the rules that have none;
* `rules` lists all rules, `validRules` those that can be checked, `rule?` finds one by its
  number.
-/

namespace ScriptKeeper

/-- A folder of scripts. -/
structure ScriptFolder where
  name : String
  path : String
  /-- Whether the folders in it are looked into. -/
  includeSubdirectories : Bool := false
  /-- The numbers of the rules that are checked in it. -/
  rules : List RuleId := []
  deriving DecidableEq, Repr

/-- A value that stands in templates for a name between percent signs. -/
structure Placeholder where
  name : String
  value : String
  deriving DecidableEq, Repr

/-- The settings. -/
structure Settings where
  templateFolder : String
  scriptFolders : List ScriptFolder
  placeholders : List Placeholder
  regexes : List NamedPattern
  /-- What the text before documented code has to match. -/
  documentationRegex : String
  unwantedCode : List UnwantedCode
  codeGuidelines : List CodeGuideline
  codeDocumentation : List CodeDocumentation
  deriving DecidableEq, Repr

namespace Settings

/-- All rules: unwanted code, guidelines, documentation. -/
def rules (s : Settings) : List Rule :=
  s.unwantedCode.map Rule.unwantedCode ++ s.codeGuidelines.map Rule.guideline ++
    s.codeDocumentation.map Rule.documentation

/-- Gives the numbers after `last` to the rules without one, in order; the rules, and the last
    number given. -/
def numberFrom {α : Type} (id : α → RuleId) (withId : RuleId → α → α) :
    RuleId → List α → List α × RuleId
  | last, [] => ([], last)
  | last, rule :: rest =>
    if id rule = 0 then
      let (rest, end_) := numberFrom id withId last.next rest
      (withId last.next rule :: rest, end_)
    else
      let (rest, end_) := numberFrom id withId last rest
      (rule :: rest, end_)

/-- The greatest number of a rule. -/
def maxId (s : Settings) : RuleId := (s.rules.map Rule.id).foldl max 0

/-- The settings in which every rule has a number: those without one get the numbers after the
    greatest, in the order of `rules`. -/
def assignIds (s : Settings) : Settings :=
  let (unwanted, last) :=
    numberFrom UnwantedCode.id (fun id r => { r with id }) s.maxId s.unwantedCode
  let (guidelines, last) :=
    numberFrom CodeGuideline.id (fun id r => { r with id }) last s.codeGuidelines
  let (documentation, _) :=
    numberFrom CodeDocumentation.id (fun id r => { r with id }) last s.codeDocumentation
  { s with
    unwantedCode := unwanted
    codeGuidelines := guidelines
    codeDocumentation := documentation }

/-- The settings that hold where nothing is configured. -/
def stock : Settings := assignIds {
  templateFolder := Stock.templateFolder
  scriptFolders := []
  placeholders := []
  regexes := Stock.patterns
  documentationRegex := Stock.documentationPattern
  unwantedCode := Stock.unwantedCode
  codeGuidelines := Stock.codeGuidelines
  codeDocumentation := Stock.codeDocumentation }

/-- Whether a rule can be checked. -/
def accepts (s : Settings) (rule : Rule) : Bool := rule.isValid s.regexes.length

/-- The rules that can be checked. -/
def validRules (s : Settings) : List Rule := s.rules.filter s.accepts

/-- The first rule of the given number, if it can be checked. -/
def rule? (s : Settings) (id : RuleId) : Option Rule :=
  (s.rules.find? fun rule => rule.id == id).filter s.accepts

/-- The pattern of the given index. -/
def regex? (s : Settings) (index : Nat) : Option String :=
  (s.regexes[index]?).map NamedPattern.regex

/-- The script folder of the given name. -/
def scriptFolder? (s : Settings) (name : String) : Option ScriptFolder :=
  s.scriptFolders.find? fun folder => folder.name == name

end Settings

end ScriptKeeper
