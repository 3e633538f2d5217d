import ScriptKeeper.Inspection.Segment

/-!
# The arena of a decomposition

Segments are kept in slots, which are numbered in the order of their creation and never move,
and every slot knows the slots before and after it in the document. So a segment can be
inserted next to another without touching the rest, and a slot number names the same segment
for as long as the arena is not cleared.

* `pushBack`, `pushFront`, `insertBefore`, `insertAfter` add a segment in a new slot;
* `order` follows the slots from the first to the last, `preceding` goes back from one;
* `reconstruct` is the text of the whole document.
-/

namespace ScriptKeeper.Inspection

/-- A segment with the slots before and after it. -/
structure Slot where
  segment : Segment
  previous : Option Nat
  next : Option Nat
  deriving DecidableEq, Repr

/-- The segments of a decomposition in their slots. -/
structure Arena where
  slots : Array Slot := #[]
  first : Option Nat := none
  last : Option Nat := none
  deriving DecidableEq, Repr

namespace Arena

/-- The arena without segments. -/
def empty : Arena := {}

/-- How many segments the arena has, emptied ones included. -/
def size (a : Arena) : Nat := a.slots.size

/-- The segment in a slot. -/
def get? (a : Arena) (slot : Nat) : Option Segment := (a.slots[slot]?).map Slot.segment

/-- The slot before a slot. -/
def previous? (a : Arena) (slot : Nat) : Option Nat := (a.slots[slot]?).bind Slot.previous

/-- The slot after a slot. -/
def next? (a : Arena) (slot : Nat) : Option Nat := (a.slots[slot]?).bind Slot.next

/-- The arena with another text in the segment of a slot. -/
def setText (a : Arena) (slot : Nat) (text : String) : Arena :=
  { a with slots := a.slots.modify slot fun s => { s with segment := { s.segment with text } } }

/-- The arena in which `after` comes behind `slot`; without a slot, `after` comes first. -/
def linkAfter (a : Arena) (slot : Option Nat) (after : Nat) : Arena :=
  match slot with
  | some slot => { a with slots := a.slots.modify slot fun s => { s with next := some after } }
  | none => { a with first := some after }

/-- The arena in which `before` comes in front of `slot`; without a slot, `before` comes
    last. -/
def linkBefore (a : Arena) (slot : Option Nat) (before : Nat) : Arena :=
  match slot with
  | some slot =>
    { a with slots := a.slots.modify slot fun s => { s with previous := some before } }
  | none => { a with last := some before }

/-- Puts a segment in a new slot between two neighbours, either of which may be missing. -/
def insertBetween (a : Arena) (previous next : Option Nat) (segment : Segment) : Nat × Arena :=
  let slot := a.slots.size
  let grown := { a with slots := a.slots.push { segment, previous, next } }
  (slot, (grown.linkAfter previous slot).linkBefore next slot)

/-- Every insertion takes the next free slot. -/
theorem insertBetween_fst (a : Arena) (previous next : Option Nat) (segment : Segment) :
    (a.insertBetween previous next segment).1 = a.size := rfl

@[simp] theorem size_linkAfter (a : Arena) (slot : Option Nat) (after : Nat) :
    (a.linkAfter slot after).size = a.size := by
  cases slot <;> simp [linkAfter, size]

@[simp] theorem size_linkBefore (a : Arena) (slot : Option Nat) (before : Nat) :
    (a.linkBefore slot before).size = a.size := by
  cases slot <;> simp [linkBefore, size]

@[simp] theorem size_setText (a : Arena) (slot : Nat) (text : String) :
    (a.setText slot text).size = a.size := by
  simp [setText, size]

/-- Every insertion adds one slot. -/
theorem size_insertBetween (a : Arena) (previous next : Option Nat) (segment : Segment) :
    (a.insertBetween previous next segment).2.size = a.size + 1 := by
  simp [insertBetween]
  simp [size]

/-- Adds a segment behind all others. -/
def pushBack (a : Arena) (segment : Segment) : Nat × Arena :=
  a.insertBetween a.last none segment

/-- Adds a segment in front of all others. -/
def pushFront (a : Arena) (segment : Segment) : Nat × Arena :=
  a.insertBetween none a.first segment

/-- Adds a segment directly in front of the one in the slot `anchor`. -/
def insertBefore (a : Arena) (anchor : Nat) (segment : Segment) : Option (Nat × Arena) :=
  (a.slots[anchor]?).map fun s => a.insertBetween s.previous (some anchor) segment

/-- Adds a segment directly behind the one in the slot `anchor`. -/
def insertAfter (a : Arena) (anchor : Nat) (segment : Segment) : Option (Nat × Arena) :=
  (a.slots[anchor]?).map fun s => a.insertBetween (some anchor) s.next segment

/-- The slots from `slot` on, as `step` leads from one to the next; at most as many as the
    first argument says. -/
def chain (step : Nat → Option Nat) : Nat → Option Nat → List Nat
  | 0, _ => []
  | _ + 1, none => []
  | bound + 1, some slot => slot :: chain step bound (step slot)

/-- The slots in the order of the document. -/
def order (a : Arena) : List Nat := chain a.next? a.size a.first

/-- The slots before a slot, the nearest first. -/
def precedingSlots (a : Arena) (slot : Nat) : List Nat :=
  chain a.previous? a.size (a.previous? slot)

/-- The slots with their segments in the order of the document. -/
def toList (a : Arena) : List (Nat × Segment) :=
  a.order.filterMap fun slot => (a.get? slot).map (slot, ·)

/-- The segments before a slot, the nearest first. -/
def preceding (a : Arena) (slot : Nat) : List Segment := (a.precedingSlots slot).filterMap a.get?

/-- The texts of all segments in the order of the document. -/
def reconstruct (a : Arena) : String := String.join (a.toList.map fun x => x.2.text)

end Arena

end ScriptKeeper.Inspection
