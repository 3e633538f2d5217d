/-!
# Line endings

A line ends with a carriage return followed by a newline, or with either of the two alone.
Normalising a text writes all its line endings in one way.

* `replaceEndings`: the text with every line ending replaced;
* `isNormalized`: whether the text has that form already, decided without replacing any, for
  the two endings that are tested for;
* `normalize`: the text in that form; a normalised text stays as it is.
-/

namespace ScriptKeeper.Text

/-- The line ending of files on this platform. -/
def hostNewline : String := "\n"

/-- The characters with every line ending replaced by `newline`. -/
def replaceEndings (newline : List Char) : List Char → List Char
  | [] => []
  | '\r' :: '\n' :: rest => newline ++ replaceEndings newline rest
  | '\r' :: rest => newline ++ replaceEndings newline rest
  | '\n' :: rest => newline ++ replaceEndings newline rest
  | c :: rest => c :: replaceEndings newline rest

/-- Without line endings there is nothing to replace. -/
theorem replaceEndings_of_not_mem {newline cs : List Char} (hr : '\r' ∉ cs) (hn : '\n' ∉ cs) :
    replaceEndings newline cs = cs := by
  induction cs with
  | nil => rfl
  | cons c cs ih =>
    rw [List.mem_cons, not_or] at hr hn
    rw [replaceEndings.eq_5 _ _ _ (by grind) (by grind) (by grind), ih hr.2 hn.2]

/-- Whether every carriage return is followed by a newline, and every newline follows one.
    The flag tells whether a carriage return comes directly before the characters. -/
def endingsPaired : Bool → List Char → Bool
  | afterReturn, [] => !afterReturn
  | true, c :: rest => c == '\n' && endingsPaired false rest
  | false, c :: rest => c != '\n' && endingsPaired (c == '\r') rest

/-- Whether the text is known to use `newline` throughout. Only the two endings that
    contain a newline are recognised. -/
def isNormalized (newline text : String) : Bool :=
  if newline = "\n" then !text.toList.contains '\r'
  else if newline = "\r\n" then endingsPaired false text.toList
  else false

/-- The text with `newline` for every line ending. -/
def normalize (newline text : String) : String :=
  if isNormalized newline text then text
  else String.ofList (replaceEndings newline.toList text.toList)

end ScriptKeeper.Text
