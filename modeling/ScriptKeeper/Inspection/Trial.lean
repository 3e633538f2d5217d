import ScriptKeeper.Inspection.Edit
import ScriptKeeper.Inspection.Query
import ScriptKeeper.Text.Quoted

/-!
# Trying patterns

A pattern can be tried on a text before it is used in a rule. Every match is reported with its
line, its place in bytes and its named groups.
-/

namespace ScriptKeeper.Inspection

/-- A match of a pattern that is tried. -/
structure Trial where
  index : Nat
  line : Nat
  start : Nat
  length : Nat
  value : String
  /-- The named groups that took part in the match. -/
  groups : List (String × String)
  deriving DecidableEq, Repr

namespace Trial

/-- The match as a line of a report. -/
def text (t : Trial) : String :=
  "#" ++ toString t.index ++ " line " ++ toString t.line ++ " @" ++ toString t.start ++ "+" ++
    toString t.length ++ ": " ++ Text.quoted t.value ++
    String.join (t.groups.map fun (name, value) => " " ++ name ++ "=" ++ Text.quoted value)

/-- The match that a handle names. -/
def ofHandle (s : Session) (h : Handle) (index : Nat) : Except InspectionError Trial := do
  let segment ← s.segment h
  let captures := segment.captures?
  return {
    index
    line := ← s.lineIndex h
    start := (captures.map fun c => c.range.start).getD 0
    length := segment.text.utf8ByteSize
    value := segment.text
    groups := (captures.map Captures.namedGroups).getD [] }

end Trial

/-- The matches of a pattern, in a session on a text. -/
def trials (settings : SearchSettings) (pattern : String) : SessionAction (List Trial) := do
  Session.changeSettings { settings with sizeLimit := none, trackLines := true }
  let handles ← Session.findAll pattern
  let s ← get
  let found ← (handles.zipIdx.mapM fun (h, index) => Trial.ofHandle s h index :
    Except InspectionError (List Trial))
  modify Session.cancel
  return found

/-- Tries a pattern on a text. In the empty text there is nothing to find, whatever the
    pattern. -/
def tryPattern (settings : SearchSettings) (pattern text : String) :
    Except InspectionError (List Trial) :=
  if text.isEmpty then .ok []
  else ((trials settings pattern).run (.ofText ⟨0⟩ text)).1

end ScriptKeeper.Inspection
