/-!
# Lines of a text

Every newline closes a line; text after the last newline is one more line, which is open.
The texts of a sequence share their open lines: a text pushes what follows it down by the
lines that it closes (`LineStats.advance`), so the line on which a text begins is one more
than the sum of the advances before it.
-/

namespace ScriptKeeper.Text

/-- The lines of one text. -/
structure LineStats where
  /-- How many lines the text touches. -/
  lineCount : Nat
  /-- Whether its last line is closed. The empty text has no line, and leaves none open. -/
  endsWithNewline : Bool
  deriving DecidableEq, Repr

/-- How many newlines the characters hold. -/
def newlineCount (cs : List Char) : Nat := cs.count '\n'

/-- The newlines of two texts in a row add up. -/
theorem newlineCount_append (cs ds : List Char) :
    newlineCount (cs ++ ds) = newlineCount cs + newlineCount ds := by
  rw [newlineCount, List.count_append, newlineCount, newlineCount]

/-- The line statistics of a text. -/
def lineStats (text : String) : LineStats :=
  match text.toList.getLast? with
  | none => ⟨0, true⟩
  | some '\n' => ⟨newlineCount text.toList, true⟩
  | some _ => ⟨newlineCount text.toList + 1, false⟩

/-- How many lines a following text is pushed down: the open last line is shared with it. -/
def LineStats.advance (stats : LineStats) : Nat :=
  if stats.endsWithNewline then stats.lineCount else stats.lineCount - 1

/-- A text pushes what follows it down by the newlines in it. -/
theorem advance_lineStats (text : String) :
    (lineStats text).advance = newlineCount text.toList := by
  rw [lineStats]
  split
  next h => rw [List.getLast?_eq_none_iff.1 h]; rfl
  next => rfl
  next => simp [LineStats.advance]

end ScriptKeeper.Text
