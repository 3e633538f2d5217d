import ScriptKeeper.Inspection.Query

/-!
# Hits

A hit is a match of a rule's pattern, as far as rules look at it: its line, its named groups and
the text right before it. That text is the segment before that of the match, so it reaches back
to the match before, or is that match itself if the two touch.
-/

namespace ScriptKeeper.Scan

open Inspection

/-- A match as rules look at it. -/
structure Hit where
  line : Nat
  /-- The named groups that took part in the match. -/
  named : List (String × String)
  /-- The text right before the match. -/
  preceding : Option String
  deriving DecidableEq, Repr

/-- The text that the group of the given name captured, if any. -/
def Hit.group (hit : Hit) (name : String) : String :=
  ((hit.named.find? fun g => g.1 == name).map Prod.snd).getD ""

/-- The match that a handle names. -/
def Hit.ofHandle (s : Session) (h : Handle) : Except InspectionError Hit := do
  let segment ← s.segment h
  let preceding ← match ← s.previous h with
    | none => pure none
    | some before => some <$> s.text before
  return {
    line := ← s.lineIndex h
    named := (segment.captures?.map Captures.namedGroups).getD []
    preceding }

/-- The hits of a pattern in the document of a session; none if the pattern cannot be used. -/
def Hit.search (pattern : String) : SessionAction (Option (List Hit)) := do
  let (result, s) := (Session.findAll pattern).run (← get)
  set s
  match result with
  | .error _ => return none
  | .ok handles =>
    return some (← (handles.mapM (Hit.ofHandle s) : Except InspectionError (List Hit)))

end ScriptKeeper.Scan
