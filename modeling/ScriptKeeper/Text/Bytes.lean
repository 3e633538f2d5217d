/-!
# Byte positions in a text

Positions in a text count the bytes of its UTF-8 form. A position is a *boundary* if it
does not fall inside a character; only the stretch between two boundaries is a text.
-/

namespace ScriptKeeper.Text

/-- The number of bytes that the characters take. -/
def byteLength : List Char → Nat
  | [] => 0
  | c :: cs => c.utf8Size + byteLength cs

/-- The characters that fill exactly the first `n` bytes, and those after them. -/
def splitBytes? (n : Nat) : List Char → Option (List Char × List Char)
  | [] => if n = 0 then some ([], []) else none
  | c :: cs =>
    if n = 0 then some ([], c :: cs)
    else if c.utf8Size ≤ n then
      (splitBytes? (n - c.utf8Size) cs).map fun (first, rest) => (c :: first, rest)
    else none

/-- Whether the byte position `n` is one between characters, or an end of the text. -/
def isBoundary (text : String) (n : Nat) : Bool := (splitBytes? n text.toList).isSome

/-- A stretch of bytes, from `start` up to but without `stop`. -/
structure ByteRange where
  start : Nat
  stop : Nat
  deriving DecidableEq, Repr, Inhabited

namespace ByteRange

/-- How many bytes the range holds. -/
def length (r : ByteRange) : Nat := r.stop - r.start

/-- Whether the range is a stretch of whole characters of the text. -/
def fits (text : String) (r : ByteRange) : Bool :=
  r.start ≤ r.stop && isBoundary text r.start && isBoundary text r.stop

/-- The stretch of the text that the range covers, if it covers whole characters. -/
def slice? (text : String) (r : ByteRange) : Option String :=
  if r.start ≤ r.stop then do
    let (_, rest) ← splitBytes? r.start text.toList
    let (covered, _) ← splitBytes? r.length rest
    return String.ofList covered
  else none

end ByteRange

end ScriptKeeper.Text
