import ScriptKeeper.Json.Value
import ScriptKeeper.Text.Quoted

/-!
# Log formats

The forms in which events can be logged, by their names. On the command line the case of a
name does not matter; in a document it does.
-/

namespace ScriptKeeper

/-- The form in which events are logged. -/
inductive LogFormat
  /-- One JSON object for each event. -/
  | json
  /-- One line for each event. -/
  | compact
  deriving DecidableEq, Repr, Inhabited

namespace LogFormat

/-- The usual form. -/
def stock : LogFormat := compact

/-- The name of the form. -/
def text : LogFormat → String
  | json => "json"
  | compact => "compact"

/-- The form of the given name, in any case. -/
def ofText? (s : String) : Option LogFormat :=
  [json, compact].find? fun format => Text.equalsIgnoringCase format.text s

/-- The form of exactly the given name. -/
def ofExactText? (s : String) : Option LogFormat :=
  [json, compact].find? fun format => format.text == s

/-- The form that a document names: by a string, or by the only member of an object, which has
    no value. -/
def ofJson? : Json → Option LogFormat
  | .string s => ofExactText? s
  | .object [(name, .null)] => ofExactText? name
  | _ => none

end LogFormat

end ScriptKeeper
