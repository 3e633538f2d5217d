/-!
# Sets of characters

A set of characters is the list of its ranges of code points, in increasing order and with
gaps between them. Every operation keeps that form:

* `insert` adds one range, `union` all ranges of another set;
* `complement` is taken within the code points up to `maxPoint`; the other Boolean
  operations come from it;
* `contains` looks a code point up, and stops at the first range that lies beyond it.

Large sets are written as tables (`CharSet.ofTable`): a table gives, for every range, how
far it begins behind the end of the range before it and, after a point, how long it is, as
numbers to the base 36.
-/

namespace ScriptKeeper.Unicode

/-- The greatest code point. -/
def maxPoint : Nat := 0x10FFFF

/-- A set of characters, as the increasing list of its ranges of code points. -/
structure CharSet where
  ranges : List (Nat × Nat)
  deriving DecidableEq, Repr, Inhabited

namespace CharSet

/-- The set without characters. -/
def empty : CharSet := ⟨[]⟩

/-- The set of all characters. -/
def full : CharSet := ⟨[(0, maxPoint)]⟩

/-- The set of one character. -/
def singleton (c : Char) : CharSet := ⟨[(c.toNat, c.toNat)]⟩

/-- Whether the code point `n` lies in one of the ranges, which increase. -/
def inRanges (n : Nat) : List (Nat × Nat) → Bool
  | [] => false
  | (lo, hi) :: rest => if n < lo then false else if n ≤ hi then true else inRanges n rest

/-- Whether the code point `n` is in the set. -/
def hasPoint (s : CharSet) (n : Nat) : Bool := inRanges n s.ranges

/-- Whether the character `c` is in the set. -/
def contains (s : CharSet) (c : Char) : Bool := s.hasPoint c.toNat

/-- The increasing ranges with the range from `lo` to `hi` added: the ranges that it
    touches are merged with it. -/
def insertRange (lo hi : Nat) : List (Nat × Nat) → List (Nat × Nat)
  | [] => [(lo, hi)]
  | (a, b) :: rest =>
    if hi + 1 < a then (lo, hi) :: (a, b) :: rest
    else if b + 1 < lo then (a, b) :: insertRange lo hi rest
    else insertRange (min lo a) (max hi b) rest

/-- The set with the code points from `lo` to `hi` added. -/
def insert (s : CharSet) (lo hi : Nat) : CharSet := ⟨insertRange lo hi s.ranges⟩

/-- The set of the given ranges, in any order. -/
def ofRanges (rs : List (Nat × Nat)) : CharSet :=
  rs.foldl (fun s r => s.insert r.1 r.2) empty

/-- The characters of either set. -/
def union (s t : CharSet) : CharSet := t.ranges.foldl (fun u r => u.insert r.1 r.2) s

/-- The gaps between the increasing ranges, from the code point `next` on. -/
def gaps (next : Nat) : List (Nat × Nat) → List (Nat × Nat)
  | [] => if next ≤ maxPoint then [(next, maxPoint)] else []
  | (lo, hi) :: rest =>
    if next < lo then (next, lo - 1) :: gaps (hi + 1) rest else gaps (hi + 1) rest

/-- The characters that are not in the set. -/
def complement (s : CharSet) : CharSet := ⟨gaps 0 s.ranges⟩

/-- The characters of both sets. -/
def inter (s t : CharSet) : CharSet := (s.complement.union t.complement).complement

/-- The characters of the first set that are not in the second. -/
def diff (s t : CharSet) : CharSet := s.inter t.complement

/-- The characters of exactly one of the sets. -/
def symmDiff (s t : CharSet) : CharSet := (s.union t).diff (s.inter t)

/-! ### Tables -/

/-- The value of a digit to the base 36. -/
def digitValue (c : Char) : Nat :=
  if c.isDigit then c.toNat - '0'.toNat else c.toNat - 'a'.toNat + 10

/-- The numbers of a table's entry, which points divide: `value` is what has been read of
    the present one. -/
def entryNumbers (value : Nat) : List Char → List Nat
  | [] => [value]
  | '.' :: rest => value :: entryNumbers 0 rest
  | c :: rest => entryNumbers (36 * value + digitValue c) rest

/-- The entries of a table, which blanks and line breaks divide, each as the list of its
    numbers. -/
def tableEntries (table : String) : List (List Nat) :=
  (table.toList.splitOnP fun c => c = ' ' || c = '\n').filterMap fun entry =>
    if entry.isEmpty then none else some (entryNumbers 0 entry)

/-- The ranges of a table's entries, the last of which ended at `last`. -/
def tableRanges (last : Nat) : List (List Nat) → List (Nat × Nat)
  | [] => []
  | (gap :: length :: _) :: rest =>
    (last + gap, last + gap + length) :: tableRanges (last + gap + length) rest
  | [gap] :: rest => (last + gap, last + gap) :: tableRanges (last + gap) rest
  | [] :: rest => tableRanges last rest

/-- The set that a table describes. -/
def ofTable (table : String) : CharSet := ⟨tableRanges 0 (tableEntries table)⟩

end CharSet

end ScriptKeeper.Unicode
