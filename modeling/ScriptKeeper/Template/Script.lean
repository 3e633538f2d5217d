import ScriptKeeper.Scan.Listing
import ScriptKeeper.Template.Basic
import ScriptKeeper.Template.Render

/-!
# Creating scripts

A script is created from a template: the template is filled in, closed by a newline and written
to a new file that is named for the script. Nothing is written unless all tokens have values,
and nothing that is there is replaced.
-/

namespace ScriptKeeper.Template

/-- Whether a script can have the name: it names a file in a folder and leads nowhere else. -/
def isPlainName (name : String) : Bool :=
  !(Text.trimBlanks name).isEmpty && name != "." && name != ".." &&
    !name.toList.any fun c => c == '/' || c == '\\'

/-- The path of the script of the given name in a folder. -/
def scriptPath (folder name : String) : String :=
  Path.join folder (name ++ "." ++ Scan.scriptExtension)

/-- The text of the script of the given name. -/
def scriptText (template : Template) (files : FileTree) (user : List Placeholder)
    (name : String) : Except TemplateError String := do
  let text ← template.load files
  let rendered ← render text (resolve user name template.name)
  return rendered ++ "\n"

/-- Creates the script of the given name in a folder; the path of the script. -/
def createScript (template : Template) (user : List Placeholder) (folder name : String)
    (fault : Option WriteFault := none) : Template.Action String := do
  if !isPlainName name then throw (.invalidScriptName name)
  let path := scriptPath folder name
  let files ← get
  if files.exists? path then throw (.alreadyExists path)
  let text ← (template.scriptText files user name : Except TemplateError String)
  createFile folder path text fault
  return path

end ScriptKeeper.Template
