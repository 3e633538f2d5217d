import ScriptKeeper.Settings.Rule

/-!
# Stock settings

What is used where nothing is configured: paths, patterns for C# sources and the rules that
go with them. The patterns are put together from the parts of a declaration; those that look
for declarations capture the declared name as the group `identifier`.
-/

namespace ScriptKeeper.Stock

/-- What is logged. -/
def logFilter : String := "info"

/-- The file in which settings are looked for. -/
def settingsFile : String := "codemanager.json"

/-- The folder in which templates are looked for. -/
def templateFolder : String := "ScriptTemplates"

/-! ### Patterns -/

/-- An access modifier, or none. -/
def accessPattern : String := "\\b(public\\s*|private\\s*|protected\\s*|internal\\s*)?"

/-- A modifier of a member, or none. -/
def modifierPattern : String :=
  "\\b(static\\s*|virtual\\s*|abstract\\s*|readonly\\s*|const\\s*)?"

/-- The name of a type, with the brackets of arrays and of type arguments. -/
def typePattern : String := "\\b([A-Za-z0-9_\\[\\]<>]+)"

/-- The declared name. -/
def identifierPattern : String := "\\b(?<identifier>[A-Za-z_][A-Za-z_0-9]*)"

/-- A type parameter of one letter, or none. -/
def genericPattern : String := "(<[A-Z]>)?"

/-- A list of parameters in parentheses. -/
def parametersPattern : String :=
  "\\(\\s*((params)?\\s*(\\b[A-Za-z_][A-Za-z_0-9\\[\\]<>]*)\\s*(\\b[A-Za-z_][A-Za-z_0-9]*)" ++
    "\\s*,?\\s*)*\\s*\\)"

/-- A field. -/
def fieldPattern : String :=
  accessPattern ++ modifierPattern ++ typePattern ++ "\\s*" ++ identifierPattern

/-- A private field. -/
def privateFieldPattern : String :=
  "\\b(private\\s*)" ++ modifierPattern ++ typePattern ++ "\\s*" ++ identifierPattern

/-- A method. -/
def methodPattern : String :=
  accessPattern ++ "\\b(async\\s*)?" ++ modifierPattern ++ typePattern ++ "\\s*" ++
    identifierPattern ++ "\\s*" ++ genericPattern ++ "\\s*" ++ parametersPattern

/-- A class. -/
def classPattern : String := ".*class.*" ++ identifierPattern

/-- Braces with nothing but blanks between them. -/
def emptyCodeBlockPattern : String := "\\\x7b\\s*\\\x7d"

/-- A name that begins with a capital letter. -/
def methodNamePattern : String := "\\b[A-Z][a-zA-Z_0-9]*"

/-- A name that begins with a small letter. -/
def privateFieldNamePattern : String := "\\b[a-z][a-zA-Z_0-9]*"

/-- A line comment at the end of the text before documented code. -/
def documentationPattern : String := "[^\\S]/\x7b2,3\x7d.*\\n?$"

/-! ### Lists -/

/-- The patterns that the stock rules refer to. -/
def patterns : List NamedPattern := [
  ⟨"Empty Codeblock regex", emptyCodeBlockPattern⟩,
  ⟨"Method regex", methodPattern⟩,
  ⟨"Class regex", classPattern⟩,
  ⟨"Field regex", fieldPattern⟩,
  ⟨"Private Field regex", privateFieldPattern⟩,
  ⟨"Method Name regex", methodNamePattern⟩,
  ⟨"Private field name regex", privateFieldNamePattern⟩]

/-- Code that is not wanted, without numbers yet. -/
def unwantedCode : List UnwantedCode := [
  { name := "Empty Codeblock", regexIndex := some 0,
    description := "No empty code blocks allowed." }]

/-- Guidelines for code, without numbers yet. -/
def codeGuidelines : List CodeGuideline := [
  { name := "Method Name", searchRegexIndex := some 1, groupName := "identifier",
    matchRegexIndex := some 5, description := "Methods have to start with a capital letter" },
  { name := "Private field name", searchRegexIndex := some 4, groupName := "identifier",
    matchRegexIndex := some 6,
    description := "private fields have to start with a lowercase letter" }]

/-- Code that has to be documented, without numbers yet. -/
def codeDocumentation : List CodeDocumentation := [
  { name := "Documentation on class", regexIndex := some 2,
    description := "Classes must be documented" }]

end ScriptKeeper.Stock
