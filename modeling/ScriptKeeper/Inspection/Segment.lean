import ScriptKeeper.Pattern.Basic
import ScriptKeeper.Text.Lines

/-!
# Segments

A decomposed document is a sequence of segments. A segment has a text, which may be edited,
and an origin, which may not: it is literal, or a match together with what its groups captured
in the document.
-/

namespace ScriptKeeper.Inspection

open Text (ByteRange)

/-- What one group of a pattern captured. -/
structure CapturedGroup where
  name : Option String
  text : String
  range : ByteRange
  deriving DecidableEq, Repr

/-- A match with its groups: one place for each group of the pattern, the whole match first. A
    group that took no part in the match has none of its own. -/
structure Captures where
  pattern : String
  range : ByteRange
  groups : List (Option CapturedGroup)
  deriving DecidableEq, Repr

namespace Captures

/-- The groups of a match in the document. -/
def ofMatch (pattern : Pattern) (document : String) (m : Pattern.Match) : Captures where
  pattern := pattern.source
  range := m.range
  groups := (pattern.groupNames.zip m.groups).map fun (name, range) =>
    range.map fun r => { name, text := (r.slice? document).getD "", range := r }

/-- The text of the group of the given number. -/
def group? (c : Captures) (index : Nat) : Option String :=
  (c.groups[index]?).bind fun g => g.map CapturedGroup.text

/-- The text of the group of the given name. -/
def named? (c : Captures) (name : String) : Option String :=
  ((c.groups.filterMap id).find? fun g => g.name == some name).map CapturedGroup.text

/-- The groups that took part in the match, with their numbers. -/
def participants (c : Captures) : List (Nat × CapturedGroup) :=
  c.groups.zipIdx.filterMap fun (g, index) => g.map (index, ·)

/-- The named groups that took part in the match, in the order of their numbers. -/
def namedGroups (c : Captures) : List (String × String) :=
  c.participants.filterMap fun (_, g) => g.name.map (·, g.text)

end Captures

/-- Where the text of a segment came from. -/
inductive Origin
  /-- Text between matches, or text that was added. -/
  | literal
  | matched (captures : Captures)
  deriving DecidableEq, Repr

/-- A stretch of a decomposed document. -/
structure Segment where
  text : String
  origin : Origin := .literal
  deriving DecidableEq, Repr, Inhabited

namespace Segment

/-- The match that the segment came from. -/
def captures? (s : Segment) : Option Captures :=
  match s.origin with
  | .literal => none
  | .matched captures => some captures

/-- Whether the segment came from a match. -/
def isMatch (s : Segment) : Bool := s.captures?.isSome

/-- The lines of the present text. -/
def lineStats (s : Segment) : Text.LineStats := Text.lineStats s.text

end Segment

end ScriptKeeper.Inspection
