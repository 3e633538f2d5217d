import ScriptKeeper.Pattern.Program
import ScriptKeeper.Unicode.Class

/-!
# Searching

A program is run on a text by *threads*: a thread stands at an instruction and at a position
in the text. The threads are kept in order of preference, and the foremost runs first
(`explore`). An instruction is run at a position only once, since a second thread that comes
there could do only what the first did in vain or would have done itself; so a search ends
after a number of steps that is bounded by the product of program and text.

* `searchFrom`: the foremost match at the leftmost position where there is one;
* `matchesFrom`: the successive matches, each search beginning where the match before it
  ended. An empty match directly behind another match does not count.

Positions count characters.
-/

namespace ScriptKeeper.Pattern

/-- Whether an assertion holds at a position of a text. -/
def Look.holds (text : Array Char) (pos : Nat) (look : Look) : Bool :=
  let before := if pos = 0 then none else text[pos - 1]?
  let after := text[pos]?
  let isWord (ascii : Bool) (c : Option Char) : Bool :=
    c.any (if ascii then Unicode.isAsciiWord else Unicode.isWord)
  match look with
  | .textStart => pos == 0
  | .textEnd => after.isNone
  | .lineStart => before.isNone || before == some '\n'
  | .lineEnd => after.isNone || after == some '\n'
  | .anyLineStart =>
    before.isNone || before == some '\n' || (before == some '\r' && after != some '\n')
  | .anyLineEnd =>
    after.isNone || after == some '\r' || (after == some '\n' && before != some '\r')
  | .wordBoundary ascii => isWord ascii before != isWord ascii after
  | .notWordBoundary ascii => isWord ascii before == isWord ascii after
  | .wordStart ascii => !isWord ascii before && isWord ascii after
  | .wordEnd ascii => isWord ascii before && !isWord ascii after
  | .wordStartHalf ascii => !isWord ascii before
  | .wordEndHalf ascii => !isWord ascii after

/-- A thread: where it stands in the program and in the text, and the marks that it has set,
    the latest first. -/
structure Thread where
  pc : Nat
  pos : Nat
  marks : List (Nat × Nat) := []
  deriving DecidableEq, Repr

/-- The threads that a thread leaves behind when it runs an instruction, in order of
    preference. -/
def Thread.step (text : Array Char) (t : Thread) : Instr → List Thread
  | .consume set next =>
    match text[t.pos]? with
    | some c => if set.contains c then [{ t with pc := next, pos := t.pos + 1 }] else []
    | none => []
  | .check look next => if look.holds text t.pos then [{ t with pc := next }] else []
  | .save slot next => [{ t with pc := next, marks := (slot, t.pos) :: t.marks }]
  | .jump next => [{ t with pc := next }]
  | .fork preferred other => [{ t with pc := preferred }, { t with pc := other }]
  | .accept => []

/-- Which instructions have been run at which positions: for each position, the set of
    addresses as the bits of a number. -/
structure Visited where
  rows : Array Nat

namespace Visited

/-- Nothing has been run at the positions of a text of `length` characters. -/
def none (length : Nat) : Visited := ⟨Array.replicate (length + 1) 0⟩

/-- Whether the instruction at `pc` has been run at `pos`. -/
def has (v : Visited) (pc pos : Nat) : Bool := (v.rows[pos]?.getD 0).testBit pc

/-- The instruction at `pc` is run at `pos`. -/
def add (v : Visited) (pc pos : Nat) : Visited :=
  ⟨v.rows.modify pos fun row => row ||| (1 <<< pc)⟩

end Visited

/-- Runs the threads in order until one accepts. The first argument bounds the steps. -/
def explore (program : Program) (text : Array Char) :
    Nat → List Thread → Visited → Option Thread × Visited
  | 0, _, visited => (none, visited)
  | _ + 1, [], visited => (none, visited)
  | fuel + 1, t :: rest, visited =>
    if visited.has t.pc t.pos then explore program text fuel rest visited
    else
      let visited := visited.add t.pc t.pos
      match program[t.pc]? with
      | none => explore program text fuel rest visited
      | some .accept => (some t, visited)
      | some instr => explore program text fuel (t.step text instr ++ rest) visited

/-- Enough steps for every instruction at every position, each of which leaves at most two
    threads behind. -/
def stepBound (program : Program) (text : Array Char) : Nat :=
  3 * program.size * (text.size + 1) + 2

/-- What a search found: from where to where it matches, and the marks that were set. -/
structure Found where
  start : Nat
  stop : Nat
  marks : List (Nat × Nat)
  deriving DecidableEq, Repr

/-- Tries the given number of positions from `start` on. What an earlier position has run in
    vain is not run again. -/
def tryPositions (program : Program) (text : Array Char) :
    (count start : Nat) → Visited → Option Found
  | 0, _, _ => none
  | count + 1, start, visited =>
    match explore program text (stepBound program text) [{ pc := 0, pos := start }] visited with
    | (some t, _) => some ⟨start, t.pos, t.marks⟩
    | (none, visited) => tryPositions program text count (start + 1) visited

/-- The preferred match at the leftmost position from `start` on. -/
def searchFrom (program : Program) (text : Array Char) (start : Nat) : Option Found :=
  tryPositions program text (text.size + 1 - start) start (Visited.none text.size)

/-- The successive matches from `start` on; `last` is where the match before them ended. The
    first argument bounds their number. -/
def matchesFrom (program : Program) (text : Array Char) :
    Nat → (start : Nat) → (last : Option Nat) → List Found
  | 0, _, _ => []
  | bound + 1, start, last =>
    match searchFrom program text start with
    | none => []
    | some found =>
      if found.start = found.stop ∧ last = some found.stop then
        match searchFrom program text (start + 1) with
        | none => []
        | some found => found :: matchesFrom program text bound found.stop (some found.stop)
      else found :: matchesFrom program text bound found.stop (some found.stop)

/-- All successive matches in a text. -/
def allMatches (program : Program) (text : Array Char) : List Found :=
  matchesFrom program text (text.size + 2) 0 none

end ScriptKeeper.Pattern
