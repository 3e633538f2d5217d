import ScriptKeeper.Pattern.Basic

/-!
# Diagnostics

Messages about patterns and settings end with a diagnostic, which says what is wrong with the
text itself, and a command line that cannot be carried out is answered by the usage. Their
wording is left to who shows the message.
-/

namespace ScriptKeeper

/-- The usual words for a pattern that cannot be compiled. -/
def Pattern.Fault.message : Pattern.Fault → String
  | malformed => "the pattern is malformed"
  | tooLarge => "the compiled pattern is too large"

/-- The wording of diagnostics. -/
structure Diagnostics where
  pattern : Pattern.Fault → String := Pattern.Fault.message
  settings : String := "the document does not hold settings"
  usage : String := "usage: codemanager [OPTIONS] <COMMAND>\n"

end ScriptKeeper
