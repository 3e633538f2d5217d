import ScriptKeeper.Pattern.Basic

/-!
# Settings of a session

How the patterns of a session's queries are read, and whether its lines are counted.
-/

namespace ScriptKeeper.Inspection

/-- How a session searches. -/
structure SearchSettings where
  caseInsensitive : Bool := false
  multiLine : Bool := false
  dotMatchesNewline : Bool := false
  ignoreBlanks : Bool := false
  /-- Searches find the last match instead of the first. -/
  rightToLeft : Bool := false
  /-- The limit on the size of a compiled pattern, if it is not the usual one. -/
  sizeLimit : Option Nat := none
  /-- Segments can be asked for their lines. -/
  trackLines : Bool := false
  deriving DecidableEq, Repr

namespace SearchSettings

/-- The usual settings, with lines counted. -/
def withLines : SearchSettings := { trackLines := true }

/-- The flags under which patterns are read. -/
def flags (s : SearchSettings) : Pattern.Flags where
  caseInsensitive := s.caseInsensitive
  multiLine := s.multiLine
  dotMatchesNewline := s.dotMatchesNewline
  ignoreBlanks := s.ignoreBlanks

end SearchSettings

end ScriptKeeper.Inspection
