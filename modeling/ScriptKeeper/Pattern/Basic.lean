import ScriptKeeper.Pattern.Reader
import ScriptKeeper.Pattern.Search
import ScriptKeeper.Text.Bytes

/-!
# Patterns

A pattern is compiled once (`Pattern.compile`) and then looked for in texts: `isMatch`,
`find?` for the leftmost match, `findAll` for all successive ones. Matches and their groups are
given by byte ranges.
-/

namespace ScriptKeeper

open Text (ByteRange byteLength)

/-- A compiled pattern. -/
structure Pattern where
  /-- The pattern as it was written. -/
  source : String
  program : Pattern.Program
  /-- The names of the groups by their numbers; number 0 is the whole match. -/
  groupNames : List (Option String)

namespace Pattern

/-- Why a pattern cannot be compiled. -/
inductive Fault
  /-- The notation is wrong, or nested too deeply. -/
  | malformed
  /-- The compiled pattern would be larger than allowed. -/
  | tooLarge
  deriving DecidableEq, Repr

/-- The limit on the size of a compiled pattern, in bytes, unless another is asked for. -/
def defaultSizeLimit : Nat := 10 * 1024 * 1024

/-- Compiles a pattern under the given flags. -/
def compile (flags : Flags) (sizeLimit : Option Nat) (source : String) : Except Fault Pattern :=
  match read? flags source with
  | none => .error .malformed
  | some expr =>
    if expr.compiledSize > sizeLimit.getD defaultSizeLimit then .error .tooLarge
    else .ok { source, program := expr.program, groupNames := expr.groupNames }

/-- A match: its byte range, and the byte range of every group that took part in it. -/
structure Match where
  range : ByteRange
  groups : List (Option ByteRange)
  deriving DecidableEq, Repr

/-- The byte range between two positions that count characters. -/
def byteRange (text : List Char) (start stop : Nat) : ByteRange :=
  ⟨byteLength (text.take start), byteLength (text.take stop)⟩

/-- The match that a search found. A group has the range between its latest marks. -/
def matchOf (p : Pattern) (text : List Char) (found : Found) : Match :=
  let range := byteRange text found.start found.stop
  let mark (slot : Nat) : Option Nat :=
    (found.marks.find? fun m => m.1 == slot).map Prod.snd
  let groupRange (index : Nat) : Option ByteRange := do
    return byteRange text (← mark (2 * index)) (← mark (2 * index + 1))
  { range
    groups := (List.range p.groupNames.length).map fun index =>
      if index = 0 then some range else groupRange index }

/-- The leftmost match in a text. -/
def find? (p : Pattern) (text : String) : Option Match :=
  (searchFrom p.program text.toList.toArray 0).map (p.matchOf text.toList)

/-- All successive matches in a text. -/
def findAll (p : Pattern) (text : String) : List Match :=
  (allMatches p.program text.toList.toArray).map (p.matchOf text.toList)

/-- Whether the pattern matches somewhere in a text. -/
def isMatch (p : Pattern) (text : String) : Bool :=
  (searchFrom p.program text.toList.toArray 0).isSome

/-- Whether a text is a pattern that is not empty and can be compiled. -/
def isValid (source : String) : Bool :=
  source != "" && (compile {} none source).isOk

end Pattern

end ScriptKeeper
