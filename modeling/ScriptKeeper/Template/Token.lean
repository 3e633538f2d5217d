import ScriptKeeper.Settings.Basic

/-!
# Tokens of templates

A template holds *tokens*: names between percent signs, which stand for values. Two names are
given their values by the script that is created, so the settings cannot: the name of the script
and the name of the template (`resolve`). A name stands for the value that comes first
(`valueOf?`); an empty value counts as none.
-/

namespace ScriptKeeper.Template

/-- What a token looks like: percent signs on one line, with anything but those between them. -/
def tokenPattern : String := "%[^%\\n]*%"

/-- The placeholder for the name of the script. -/
def scriptName : String := "ScriptName"

/-- The placeholder for the name of the template. -/
def templateName : String := "TemplateName"

/-- The placeholders whose values the script gives. -/
def reservedNames : List String := [scriptName, templateName]

/-- Whether the value of a placeholder is given by the script. -/
def isReserved (name : String) : Bool := reservedNames.contains name

/-- The values for one script: those of the user, without names that are reserved, and then those
    that the script gives. -/
def resolve (user : List Placeholder) (script template : String) : List Placeholder :=
  user.filter (fun p => !isReserved p.name) ++ [⟨scriptName, script⟩, ⟨templateName, template⟩]

/-- The value that a name stands for. -/
def valueOf? (values : List Placeholder) (name : String) : Option String :=
  ((values.find? fun p => p.name == name).map Placeholder.value).filter fun v => !v.isEmpty

end ScriptKeeper.Template
