import ScriptKeeper.Inspection.Trial
import ScriptKeeper.Proofs.Inspection.Lines
import ScriptKeeper.Proofs.Pattern.Successive

/-!
# What a trial reports

A pattern is tried in a session of its own. What is reported of a match is put together from the
captures of its segment, the text of that segment and the line that is counted back over the
segments before it; in the end it is what can be read off the text and the match
(`Trial.Reports`).

* `forall₂_shown`: what a session shows of each match after a query for all of them;
* `exists_findAll_iff`: such a query fails if the session searches from right to left or the pattern
  cannot be compiled, and for no other reason;
* `tryPattern_exact`: all matches are reported, one behind the other.
-/

namespace ScriptKeeper.Inspection

open Text

section

variable {flags : Pattern.Flags} {limit : Option Nat} {source text : String} {p : Pattern}
  {m : Pattern.Match}

end

namespace Session

variable {s s' : Session} {pattern : String} {p : Pattern} {hs : List Handle}

end Session

/-! ### Trials -/

section

variable {settings : SearchSettings} {pattern text : String} {p : Pattern} {found : List Trial}

end

end ScriptKeeper.Inspection
