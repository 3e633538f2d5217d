import ScriptKeeper.Files.Write
import ScriptKeeper.Template.Error

/-!
# Template files

A template is a file with the extension of templates; its name is the name of the file without
the extension.

* `ofPath?` takes a path for that of a template;
* `discover` lists the templates of a folder by their names;
* `create` writes a new template with the stock text.
-/

namespace ScriptKeeper

/-- A template by its name and the path of its file. -/
structure Template where
  name : String
  path : String
  deriving DecidableEq, Repr

namespace Template

/-- The extension of templates. -/
def fileExtension : String := "txt"

/-- The text of a new template: a component without behaviour. -/
def stockText : String :=
  "using UnityEngine;\nusing System.Collections;\n\n" ++
  "public class %ScriptName% : MonoBehaviour\n\x7b\n\n" ++
  "\t// Use this for initialization\n\tvoid Start () \x7b\n\t\n\t\x7d\n\n\n" ++
  "\t// Update is called once per frame\n\tvoid Update () \x7b\n\n\t\x7d\n\x7d\n"

/-- The template of a path, if the path has the extension of templates, in any case. -/
def ofPath? (path : String) : Option Template :=
  if (Path.extension? path).any (Text.equalsIgnoringCase fileExtension) then
    (Path.stem? path).map fun name => ⟨name, path⟩
  else none

/-- The template of a path. -/
def ofPath (path : String) : Except TemplateError Template :=
  match ofPath? path with
  | some template => .ok template
  | none => .error (.notTemplate path)

/-- The text of a template. -/
def load (template : Template) (files : FileTree) : Except TemplateError String :=
  match files.readText template.path with
  | .ok text => .ok text
  | .error cause => .error (.read template.path cause)

/-- The template of an entry of a folder, if the entry leads to a file. -/
def ofChild? (files : FileTree) (folder name : String) : Option Template :=
  let path := Path.join folder name
  if files.isFile path then ofPath? path else none

/-- The templates in a folder, in the order of their names. -/
def discover (files : FileTree) (folder : String) : Except TemplateError (List Template) :=
  match files.list? folder with
  | .error cause => .error (.read folder cause)
  | .ok names =>
    .ok ((names.filterMap (ofChild? files folder)).mergeSort fun a b => decide (a.name ≤ b.name))

/-- An action with templates on a file tree that can fail. -/
abbrev Action := ExceptT TemplateError (StateM FileTree)

/-- Creates a file, which must not be there yet, by a temporary file in the folder `folder`. -/
def createFile (folder path text : String) (fault : Option WriteFault := none) :
    Template.Action Unit := do
  let (result, files) := (FileTree.writePathIn folder path false text fault).run (← get)
  set files
  match result with
  | .ok () => return
  | .error cause => throw (.create path cause)

/-- Creates a template with the stock text. -/
def create (path : String) (fault : Option WriteFault := none) : Template.Action Template := do
  let template ← (ofPath path : Except TemplateError Template)
  createFile (Path.folder path) path stockText fault
  return template

end Template

end ScriptKeeper
