import ScriptKeeper.Text.Bytes

/-!
# Cutting a document

A document is cut around ranges: into the ranges themselves and the literal stretches between
them, of which the empty ones are left out (`cutAll`). The ranges have to come in order, apart
from each other and on the boundaries of characters; the first that does not is refused.
-/

namespace ScriptKeeper.Inspection

open Text (ByteRange)

/-- What a piece of a cut document is. -/
inductive PieceKind
  /-- What stands between the ranges. -/
  | literal
  /-- The range of the given index. -/
  | matched (index : Nat)
  deriving DecidableEq, Repr

/-- A contiguous stretch of a cut document. -/
structure Piece where
  range : ByteRange
  kind : PieceKind
  deriving DecidableEq, Repr

/-- Whether the piece is one of the ranges. -/
def Piece.isMatch (p : Piece) : Bool := p.kind != .literal

/-- The text of the piece in the document. -/
def Piece.text? (p : Piece) (document : String) : Option String := p.range.slice? document

/-- Why a document cannot be cut around a range. -/
inductive CutError
  /-- The range starts before the end of the one before it. -/
  | unordered (start cursor : Nat)
  /-- The range does not cover whole characters of the document. -/
  | outOfBounds (range : ByteRange) (length : Nat)
  deriving DecidableEq, Repr

/-- The failure in words. -/
def CutError.message : CutError → String
  | unordered start cursor =>
    s!"match starting at byte {start} precedes the cut cursor at byte {cursor}"
  | outOfBounds range length =>
    s!"match range {range.start}..{range.stop} does not fit a document of {length} bytes"

/-- The literal piece between two positions, if it is not empty. -/
def literalBetween (start stop : Nat) : List Piece :=
  if start < stop then [⟨⟨start, stop⟩, .literal⟩] else []

/-- Cuts the document from the position `cursor` on around ranges, the first of which has the
    given index. -/
def cutFrom (document : String) (cursor index : Nat) :
    List ByteRange → Except CutError (List Piece)
  | [] => .ok (literalBetween cursor document.utf8ByteSize)
  | r :: rest =>
    if r.start < cursor then .error (.unordered r.start cursor)
    else if !r.fits document then .error (.outOfBounds r document.utf8ByteSize)
    else do
      let pieces ← cutFrom document r.stop (index + 1) rest
      return literalBetween cursor r.start ++ ⟨r, .matched index⟩ :: pieces

/-- Cuts the document around ranges. -/
def cutAll (document : String) (ranges : List ByteRange) : Except CutError (List Piece) :=
  cutFrom document 0 0 ranges

/-- Cuts the document around one range. -/
def cutSingle (document : String) (range : ByteRange) : Except CutError (List Piece) :=
  cutAll document [range]

end ScriptKeeper.Inspection
