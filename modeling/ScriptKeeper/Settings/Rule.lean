import ScriptKeeper.Text.Quoted

/-!
# Rules

A rule looks for a pattern in scripts and objects to some of its matches. Rules do not hold
patterns: they refer to the patterns of the settings by index, so several rules can share
one.
-/

namespace ScriptKeeper

/-- The number of a rule; zero means that it has none yet. -/
abbrev RuleId := Nat

/-- The greatest number that a rule can have, as numbers have 32 bits. -/
def maxRuleId : RuleId := 4294967295

/-- The number after another one. After the greatest it is zero again. -/
def RuleId.next (id : RuleId) : RuleId := if id < maxRuleId then id + 1 else 0

/-- A pattern with a name. -/
structure NamedPattern where
  name : String
  regex : String
  deriving DecidableEq, Repr

/-- Objects to every match. -/
structure UnwantedCode where
  id : RuleId := 0
  name : String
  regexIndex : Option Nat
  description : String
  deriving DecidableEq, Repr

/-- Objects to a match unless a named group of it matches a second pattern. -/
structure CodeGuideline where
  id : RuleId := 0
  name : String
  searchRegexIndex : Option Nat
  groupName : String
  matchRegexIndex : Option Nat
  description : String
  deriving DecidableEq, Repr

/-- Objects to a match unless the text right before it is a documentation comment. -/
structure CodeDocumentation where
  id : RuleId := 0
  name : String
  regexIndex : Option Nat
  description : String
  deriving DecidableEq, Repr

/-- A rule of any kind. -/
inductive Rule
  | unwantedCode (rule : UnwantedCode)
  | documentation (rule : CodeDocumentation)
  | guideline (rule : CodeGuideline)
  deriving DecidableEq, Repr

namespace Rule

/-- The number of the rule. -/
def id : Rule → RuleId
  | unwantedCode r => r.id
  | documentation r => r.id
  | guideline r => r.id

/-- The name of the rule. -/
def name : Rule → String
  | unwantedCode r => r.name
  | documentation r => r.name
  | guideline r => r.name

/-- What the rule asks for, in words. -/
def description : Rule → String
  | unwantedCode r => r.description
  | documentation r => r.description
  | guideline r => r.description

/-- The index of the pattern that the rule looks for. -/
def searchIndex : Rule → Option Nat
  | unwantedCode r => r.regexIndex
  | documentation r => r.regexIndex
  | guideline r => r.searchRegexIndex

/-- Whether the rule can be checked against settings with the given number of patterns: all
    its indices are set and in range, and a guideline names its group. -/
def isValid (rule : Rule) (patterns : Nat) : Bool :=
  let inRange (index : Option Nat) : Bool := index.any (· < patterns)
  match rule with
  | unwantedCode r => inRange r.regexIndex
  | documentation r => inRange r.regexIndex
  | guideline r =>
    inRange r.searchRegexIndex && inRange r.matchRegexIndex &&
      r.groupName.toList.any fun c => !Unicode.isBlank c

end Rule

end ScriptKeeper
