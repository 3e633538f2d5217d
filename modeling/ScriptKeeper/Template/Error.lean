import ScriptKeeper.Inspection.Error

/-!
# Failures with templates

Why a template cannot be read, written or filled in, and why a script cannot be created.
-/

namespace ScriptKeeper

open Inspection

/-- Why an operation on templates failed. -/
inductive TemplateError
  | read (path : String) (cause : FileError)
  | write (path : String) (cause : FileError)
  /-- What would be created is there already. -/
  | alreadyExists (path : String)
  /-- A token of the template stands for no value. -/
  | missingValue (name : String)
  /-- The name of a script is no name of a file. -/
  | invalidScriptName (name : String)
  /-- The path is not that of a template. -/
  | notTemplate (path : String)
  | inspection (cause : InspectionError)
  deriving DecidableEq, Repr

/-- The failure in words. -/
def TemplateError.message (diagnostics : Diagnostics) : TemplateError → String
  | read path cause => "failed to read " ++ path ++ ": " ++ cause.message
  | write path cause => "failed to write " ++ path ++ ": " ++ cause.message
  | alreadyExists path => path ++ " already exists"
  | missingValue name => "no value for placeholder %" ++ name ++ "%"
  | invalidScriptName name => "invalid script name " ++ Text.quoted name
  | notTemplate path => path ++ " is not a script template"
  | inspection cause => cause.message diagnostics

/-- The failure to create a file: one that is there already is told apart. -/
def TemplateError.create (path : String) (cause : FileError) : TemplateError :=
  if cause = .alreadyExists then .alreadyExists path else .write path cause

end ScriptKeeper
