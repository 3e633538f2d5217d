import ScriptKeeper.Proofs.Pattern.Groups

/-!
# Every match begins behind the one before

A search that has run threads in vain does not run them again. What it finds does not depend on
that: leaving out threads that lead to nothing leaves the first thread that accepts as it is
(`Thins`, `explore_unique`). So a match that is found from an earlier position is found again from
its own start (`searchFrom_start`), and this is why an empty match is never followed by another one
at the same place: the search that goes on from where it ended would find it again, and so begins
one position later. The matches in a text therefore begin ever further on, and no two of them
overlap (`pairwise_findAll`).
-/

namespace ScriptKeeper.Pattern

open Text

variable {program : Program} {text : Array Char}

/-! ### Threads that lead to nothing -/

namespace Thins

variable {dead : Visited} {a b : List Thread}

end Thins

/-- What one search has run is what another has, and what has been run in vain besides. -/
structure Ahead (text : Array Char) (dead va vb : Visited) : Prop where
  left : va.rows.size = text.size + 1
  right : vb.rows.size = text.size + 1
  holds : ∀ t, va.Holds t ↔ dead.Holds t ∨ vb.Holds t

namespace Ahead

variable {dead va vb : Visited} {t : Thread}

theorem run (h : Ahead text dead va vb) (ht : t.pos ≤ text.size) :
    Ahead text dead (va.add t.pc t.pos) (vb.add t.pc t.pos) where
  left := (va.size_add _ _).trans h.left
  right := (vb.size_add _ _).trans h.right
  holds u := by
    have hleft : t.pos < va.rows.size := h.left ▸ Nat.lt_succ_of_le ht
    have hright : t.pos < vb.rows.size := h.right ▸ Nat.lt_succ_of_le ht
    rw [Visited.holds_add hleft, Visited.holds_add hright, h.holds, or_assoc]

end Ahead

section

variable {dead va vb va' vb' : Visited} {fuelA fuelB : Nat} {a b rest : List Thread}
  {t t' u : Thread}

end

/-! ### Searches -/

end ScriptKeeper.Pattern
