import ScriptKeeper.Inspection.Edit
import ScriptKeeper.Inspection.Query
import ScriptKeeper.Template.Error
import ScriptKeeper.Template.Token

/-!
# Filling in templates

A template is filled in by a session on its text: the tokens are found, the segment of each gets
its value, and the edits are committed. Values are not searched for tokens again. The first token
without a value makes the whole fail.
-/

namespace ScriptKeeper.Template

open Inspection

/-- An action on the session of a template. -/
abbrev RenderAction := ExceptT TemplateError (StateM Session)

/-- An action of a session, as an action of rendering. -/
def runSession {α : Type} (action : SessionAction α) : RenderAction α := do
  let (result, s) := action.run (← get)
  set s
  match result with
  | .ok a => return a
  | .error cause => throw (.inspection cause)

/-- The name in a token: the percent signs at both ends left out. -/
def tokenName (token : String) : String :=
  let front := token.toList.dropWhile (· == '%')
  String.ofList (front.reverse.dropWhile (· == '%')).reverse

/-- Gives the tokens of the handles their values, in order. -/
def fill (values : List Placeholder) : List Handle → RenderAction Unit
  | [] => return
  | handle :: rest => do
    let name := tokenName (← runSession do return (← (← get).text handle))
    match valueOf? values name with
    | none =>
      modify Session.cancel
      throw (.missingValue name)
    | some value =>
      runSession (Session.setText handle value)
      fill values rest

/-- Commits the edits of a session on a text, which no file takes part in. -/
def commitText : RenderAction Unit := do
  let (result, (s, _)) := Session.commit.run (← get, {})
  set s
  match result with
  | .ok _ => return
  | .error cause => throw (.inspection cause)

/-- Fills in the template that is the document of the session. -/
def fillIn (values : List Placeholder) : RenderAction String := do
  let handles ← runSession (Session.findAll tokenPattern)
  if handles.isEmpty then return (← get).document
  fill values handles
  commitText
  return (← get).document

/-- The text of a template with the values in place of the tokens. -/
def render (text : String) (values : List Placeholder) : Except TemplateError String :=
  ((fillIn values).run (.ofText ⟨0⟩ text)).1

end ScriptKeeper.Template
