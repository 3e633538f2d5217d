import Mathlib.Data.List.Chain
import ScriptKeeper.Inspection.Cut
import ScriptKeeper.Proofs.Action
import ScriptKeeper.Proofs.Text.Bytes

/-!
# The pieces of a cut

A document is cut around ranges exactly if each of them begins where the one before ends, or later,
and covers whole characters (`Acceptable`). The pieces can then be written down without the checks
(`piecesFrom`), and there is nothing else that a cut could be: pieces without gap from the beginning
to the end of the document, of which the matches are the ranges, no literal one is empty and no two
literal ones touch (`CutsFrom`).

* `cutFrom_eq_ok_iff`: the cut from a position on, which succeeds exactly if the rest is in order;
* `cutsFrom_iff`: the pieces are the only ones with these properties;
* `exists_fault_of_cutFrom`: a failure reports the first range that cannot be accepted;
* `cutAll_exact`: all of it for the whole document.
-/

namespace ScriptKeeper.Inspection

open Text

/-! ### Ranges that can be cut around -/

/-- The range begins at the position or behind it, and covers whole characters of the document. -/
def Acceptable (document : String) (cursor : Nat) (r : ByteRange) : Prop :=
  cursor ≤ r.start ∧ r.start ≤ r.stop ∧ r.stop ≤ document.utf8ByteSize ∧
    isBoundary document r.start = true ∧ isBoundary document r.stop = true

instance (document : String) (cursor : Nat) (r : ByteRange) :
    Decidable (Acceptable document cursor r) :=
  inferInstanceAs (Decidable (_ ∧ _ ∧ _ ∧ _ ∧ _))

/-- Where the range before the one of the given index ends. Before the first, that is `cursor`. -/
def endBefore (cursor : Nat) (ranges : List ByteRange) : Nat → Nat
  | 0 => cursor
  | i + 1 => (ranges[i]?.map ByteRange.stop).getD cursor

/-- What is wrong with a range that cannot be accepted: its place, or what it covers. -/
def fault (document : String) (cursor : Nat) (r : ByteRange) : CutError :=
  if r.start < cursor then .unordered r.start cursor
  else .outOfBounds r document.utf8ByteSize

variable {document : String} {cursor stop index : Nat} {r : ByteRange} {ranges : List ByteRange}
  {pieces : List Piece}

theorem acceptable_iff :
    Acceptable document cursor r ↔ cursor ≤ r.start ∧ r.fits document = true := by
  constructor
  · rintro ⟨hle, hrange, _, hstart, hstop⟩
    exact ⟨hle, fits_mk hstart hstop hrange⟩
  · rintro ⟨hle, hfits⟩
    obtain ⟨hrange, hstart, hstop⟩ := boundaries_of_fits hfits
    exact ⟨hle, hrange, le_of_isBoundary hstop, hstart, hstop⟩

/-- Behind the first range, the others come as they do behind its end. -/
theorem endBefore_cons {i : Nat} (h : i < ranges.length) :
    endBefore cursor (r :: ranges) (i + 1) = endBefore r.stop ranges i := by
  cases i with
  | zero => rfl
  | succ i =>
    have hlt : i < ranges.length := Nat.lt_of_succ_lt h
    simp [endBefore, hlt]

/-- Ranges are in order if each can be accepted behind the one before. -/
theorem inOrder_iff : InOrder document cursor ranges ↔
    ∀ i (h : i < ranges.length), Acceptable document (endBefore cursor ranges i) ranges[i] := by
  induction ranges generalizing cursor with
  | nil => exact ⟨fun _ _ h => absurd h (Nat.not_lt_zero _), fun _ => trivial⟩
  | cons r ranges ih =>
    rw [InOrder, ← and_assoc, ← acceptable_iff, ih]
    constructor
    · rintro ⟨hr, hrest⟩ i hi
      cases i with
      | zero => exact hr
      | succ i =>
        have hi' : i < ranges.length := Nat.lt_of_succ_lt_succ hi
        rw [endBefore_cons hi']
        exact hrest i hi'
    · intro h
      refine ⟨h 0 (Nat.succ_pos _), fun i hi => ?_⟩
      rw [← endBefore_cons hi]
      exact h (i + 1) (Nat.succ_lt_succ hi)

/-! ### The pieces -/

/-- The pieces from a position on around ranges, whether these are in order or not. -/
def piecesFrom (stop : Nat) : (cursor index : Nat) → List ByteRange → List Piece
  | cursor, _, [] => literalBetween cursor stop
  | cursor, index, r :: rest =>
    literalBetween cursor r.start ++ ⟨r, .matched index⟩ :: piecesFrom stop r.stop (index + 1) rest

/-- A document is cut exactly if the ranges are in order, and the pieces are those around them. -/
theorem cutFrom_eq_ok_iff : cutFrom document cursor index ranges = .ok pieces ↔
    InOrder document cursor ranges ∧
      pieces = piecesFrom document.utf8ByteSize cursor index ranges := by
  induction ranges generalizing cursor index pieces with
  | nil => simp [cutFrom, InOrder, piecesFrom, eq_comm]
  | cons r ranges ih =>
    rw [cutFrom, InOrder, piecesFrom]
    by_cases hlt : r.start < cursor
    · simp [hlt]
    by_cases hfits : r.fits document = true
    · have hle : cursor ≤ r.start := Nat.not_lt.1 hlt
      rw [if_neg hlt, if_neg (by simp [hfits]), bind_eq_ok_iff]
      constructor
      · rintro ⟨rest, hrest, heq⟩
        obtain ⟨hin, rfl⟩ := ih.1 hrest
        cases heq
        exact ⟨⟨hle, hfits, hin⟩, rfl⟩
      · rintro ⟨⟨_, _, hin⟩, rfl⟩
        exact ⟨_, ih.2 ⟨hin, rfl⟩, rfl⟩
    · simp [hlt, hfits]

/-- A failure reports the first range that cannot be accepted. -/
theorem exists_fault_of_cutFrom {e : CutError}
    (h : cutFrom document cursor index ranges = .error e) :
    ∃ i, ∃ hi : i < ranges.length,
      (∀ j (hj : j < ranges.length), j < i →
        Acceptable document (endBefore cursor ranges j) ranges[j]) ∧
      ¬ Acceptable document (endBefore cursor ranges i) ranges[i] ∧
      e = fault document (endBefore cursor ranges i) ranges[i] := by
  induction ranges generalizing cursor index e with
  | nil => cases h
  | cons r ranges ih =>
    rw [cutFrom] at h
    -- Either the first range is at fault, or the fault is that of the others.
    by_cases hr : Acceptable document cursor r
    · obtain ⟨hle, hfits⟩ := acceptable_iff.1 hr
      rw [if_neg (Nat.not_lt.2 hle), if_neg (by simp [hfits])] at h
      cases hrest : cutFrom document r.stop (index + 1) ranges with
      | ok pieces => rw [hrest] at h; cases h
      | error e' =>
        rw [hrest] at h
        cases h
        obtain ⟨i, hi, hbefore, hnot, he⟩ := ih hrest
        refine ⟨i + 1, Nat.succ_lt_succ hi, fun j hj hlt => ?_, ?_, ?_⟩
        · cases j with
          | zero => exact hr
          | succ j =>
            have hj' : j < ranges.length := Nat.lt_of_succ_lt_succ hj
            rw [endBefore_cons hj']
            exact hbefore j hj' (Nat.lt_of_succ_lt_succ hlt)
        · rw [endBefore_cons hi]
          exact hnot
        · rw [endBefore_cons hi]
          exact he
    · refine ⟨0, Nat.succ_pos _, fun j _ hlt => absurd hlt (Nat.not_lt_zero j), hr, ?_⟩
      have hfault : e = fault document cursor r := by
        rw [fault]
        split at h
        next hlt => cases h; rw [if_pos hlt]
        next hlt =>
          rw [if_neg hlt]
          split at h
          next => cases h; rfl
          next hfits => exact absurd (acceptable_iff.2 ⟨Nat.not_lt.1 hlt, by simpa using hfits⟩) hr
      exact hfault

/-! ### What a cut is -/

/-- The range of a match with its index, if the piece is a match. -/
def Piece.match? (p : Piece) : Option (ByteRange × Nat) :=
  match p.kind with
  | .literal => none
  | .matched index => some (p.range, index)

/-- Each piece begins where the one before ends, from one position to another. -/
def Contiguous : (start : Nat) → List Piece → (stop : Nat) → Prop
  | start, [], stop => start = stop
  | start, p :: rest, stop => p.range.start = start ∧ Contiguous p.range.stop rest stop

/-- The pieces cut the stretch between two positions around the ranges, the first of which has the
    given index. -/
structure CutsFrom (stop cursor index : Nat) (ranges : List ByteRange) (pieces : List Piece) :
    Prop where
  contiguous : Contiguous cursor pieces stop
  matched : pieces.filterMap Piece.match? = ranges.zipIdx index
  notEmpty : ∀ p ∈ pieces, p.kind = .literal → p.range.start < p.range.stop
  /-- No two literal pieces are next to each other. -/
  apart : pieces.IsChain fun p q => p.kind ≠ .literal ∨ q.kind ≠ .literal

/-- The pieces cut the document around the ranges. -/
abbrev IsCut (document : String) (ranges : List ByteRange) (pieces : List Piece) : Prop :=
  CutsFrom document.utf8ByteSize 0 0 ranges pieces

theorem Piece.eq_of_literal {p : Piece} (h : p.kind = .literal) :
    p = ⟨⟨p.range.start, p.range.stop⟩, .literal⟩ := by
  cases p
  cases h
  rfl

theorem Piece.match?_eq_none_iff {p : Piece} : p.match? = none ↔ p.kind = .literal := by
  cases p with
  | mk range kind => cases kind <;> simp [Piece.match?]

theorem Piece.match?_eq_some_iff {p : Piece} : p.match? = some (r, index) ↔
    p = ⟨r, .matched index⟩ := by
  cases p with
  | mk range kind => cases kind <;> simp [Piece.match?]

theorem CutsFrom.tail {p : Piece} {ranges' : List ByteRange} {index' : Nat}
    (h : CutsFrom stop cursor index ranges (p :: pieces))
    (hmatched : pieces.filterMap Piece.match? = ranges'.zipIdx index') :
    CutsFrom stop p.range.stop index' ranges' pieces where
  contiguous := h.contiguous.2
  matched := hmatched
  notEmpty q hq := h.notEmpty q (List.mem_cons_of_mem p hq)
  apart := h.apart.tail

/-- Around no ranges, there is one literal piece, or none if there is nothing to cut. -/
theorem CutsFrom.eq_literalBetween (h : CutsFrom stop cursor index [] pieces) :
    pieces = literalBetween cursor stop := by
  have hliteral : ∀ p ∈ pieces, p.kind = .literal := fun p hp =>
    Piece.match?_eq_none_iff.1 (List.filterMap_eq_nil_iff.1 h.matched p hp)
  cases pieces with
  | nil =>
    obtain rfl : cursor = stop := h.contiguous
    simp [literalBetween]
  | cons p rest =>
    obtain ⟨hstart, hrest⟩ := h.contiguous
    have hp := hliteral p List.mem_cons_self
    have hlt := h.notEmpty p List.mem_cons_self hp
    cases rest with
    | nil =>
      obtain rfl : p.range.stop = stop := hrest
      rw [literalBetween, ← hstart, if_pos hlt, ← Piece.eq_of_literal hp]
    | cons q rest =>
      have hq := hliteral q (List.mem_cons_of_mem p List.mem_cons_self)
      exact absurd (List.isChain_cons_cons.1 h.apart).1 (by simp [hp, hq])

/-- If the first piece is a match, it is the first range. -/
theorem CutsFrom.of_matched {p : Piece} (h : CutsFrom stop cursor index (r :: ranges) (p :: pieces))
    (hp : p.kind ≠ .literal) : p = ⟨r, .matched index⟩ ∧ r.start = cursor ∧
      CutsFrom stop r.stop (index + 1) ranges pieces := by
  have hmatched := h.matched
  rw [List.zipIdx_cons] at hmatched
  cases hpm : p.match? with
  | none => exact absurd (Piece.match?_eq_none_iff.1 hpm) hp
  | some x =>
    rw [List.filterMap_cons_some hpm, List.cons.injEq] at hmatched
    obtain ⟨rfl, hrest⟩ := hmatched
    obtain rfl := Piece.match?_eq_some_iff.1 hpm
    exact ⟨rfl, h.contiguous.1, h.tail hrest⟩

/-- A cut begins with the text up to the first range, if there is any, and the range. -/
theorem CutsFrom.exists_rest (h : CutsFrom stop cursor index (r :: ranges) pieces) :
    ∃ rest, pieces = literalBetween cursor r.start ++ ⟨r, .matched index⟩ :: rest ∧
      CutsFrom stop r.stop (index + 1) ranges rest := by
  cases pieces with
  | nil => cases h.matched
  | cons p rest =>
    by_cases hp : p.kind = .literal
    · -- A literal piece comes first, so the one behind it is a match.
      have hlt := h.notEmpty p List.mem_cons_self hp
      have hmatched := h.matched
      rw [List.filterMap_cons_none (Piece.match?_eq_none_iff.2 hp)] at hmatched
      cases rest with
      | nil => cases hmatched
      | cons q rest =>
        have hq : q.kind ≠ .literal := by
          have hapart := (List.isChain_cons_cons.1 h.apart).1
          simpa [hp] using hapart
        obtain ⟨rfl, hstop, hrest⟩ := (h.tail hmatched).of_matched hq
        refine ⟨rest, ?_, hrest⟩
        rw [literalBetween, hstop, ← h.contiguous.1, if_pos hlt, ← Piece.eq_of_literal hp]
        rfl
    · obtain ⟨rfl, rfl, hrest⟩ := h.of_matched hp
      exact ⟨rest, by simp [literalBetween], hrest⟩

/-- A match, and the text before it if there is any, go in front of a cut. -/
theorem CutsFrom.cons (hle : cursor ≤ r.start)
    (h : CutsFrom stop r.stop (index + 1) ranges pieces) :
    CutsFrom stop cursor index (r :: ranges)
      (literalBetween cursor r.start ++ ⟨r, .matched index⟩ :: pieces) := by
  have hmatch : (⟨r, .matched index⟩ : Piece).match? = some (r, index) := rfl
  have hcut : CutsFrom stop r.start index (r :: ranges) (⟨r, .matched index⟩ :: pieces) :=
    ⟨⟨rfl, h.contiguous⟩, by rw [List.filterMap_cons_some hmatch, h.matched, List.zipIdx_cons],
      fun p hp hk => (List.mem_cons.1 hp).elim (fun heq => by rw [heq] at hk; cases hk)
        fun hp => h.notEmpty p hp hk,
      h.apart.cons fun _ _ => .inl (by simp)⟩
  rw [literalBetween]
  split
  next hlt =>
    exact ⟨⟨rfl, hcut.contiguous⟩, hcut.matched,
      fun p hp hk => (List.mem_cons.1 hp).elim (fun heq => by rw [heq]; exact hlt)
        fun hp => hcut.notEmpty p hp hk,
      List.isChain_cons_cons.2 ⟨.inr (by simp), hcut.apart⟩⟩
  next hge =>
    obtain rfl : cursor = r.start := by omega
    exact hcut

/-- Around ranges in order there is one cut, and no other. -/
theorem cutsFrom_iff (hcursor : isBoundary document cursor = true)
    (h : InOrder document cursor ranges) :
    CutsFrom document.utf8ByteSize cursor index ranges pieces ↔
      pieces = piecesFrom document.utf8ByteSize cursor index ranges := by
  induction ranges generalizing cursor index pieces with
  | nil =>
    refine ⟨fun hcut => hcut.eq_literalBetween, ?_⟩
    rintro rfl
    have hle := le_of_isBoundary hcursor
    rw [piecesFrom, literalBetween]
    split
    next hlt =>
      exact ⟨⟨rfl, rfl⟩, rfl, fun p hp _ => by rw [List.mem_singleton.1 hp]; exact hlt,
        List.isChain_singleton _⟩
    next hge => exact ⟨by simp only [Contiguous]; omega, rfl, nofun, List.isChain_nil⟩
  | cons r ranges ih =>
    obtain ⟨hle, hfits, hrest⟩ := h
    obtain ⟨_, _, hstop⟩ := boundaries_of_fits hfits
    constructor
    · intro hcut
      obtain ⟨rest, rfl, hrestcut⟩ := hcut.exists_rest
      rw [piecesFrom, (ih hstop hrest).1 hrestcut]
    · rintro rfl
      exact ((ih hstop hrest).2 rfl).cons hle

/-! ### The texts of the pieces -/

/-- Every piece around ranges in order covers whole characters. -/
theorem fits_of_mem_piecesFrom (hcursor : isBoundary document cursor = true)
    (h : InOrder document cursor ranges) {p : Piece}
    (hp : p ∈ piecesFrom document.utf8ByteSize cursor index ranges) :
    p.range.fits document = true := by
  have hliteral {start stop : Nat} (hstart : isBoundary document start = true)
      (hstop : isBoundary document stop = true) (hp : p ∈ literalBetween start stop) :
      p.range.fits document = true := by
    rw [literalBetween] at hp
    split at hp
    next hlt => rw [List.mem_singleton.1 hp]; exact fits_mk hstart hstop (Nat.le_of_lt hlt)
    next => cases hp
  induction ranges generalizing cursor index with
  | nil => exact hliteral hcursor (isBoundary_end document) hp
  | cons r ranges ih =>
    obtain ⟨_, hfits, hrest⟩ := h
    obtain ⟨_, hstart, hstop⟩ := boundaries_of_fits hfits
    rcases List.mem_append.1 hp with hp | hp
    · exact hliteral hcursor hstart hp
    rcases List.mem_cons.1 hp with rfl | hp
    · exact hfits
    · exact ih hstop hrest hp

/-- Pieces without a gap have the text from end to end. -/
theorem join_of_contiguous (hfits : ∀ p ∈ pieces, p.range.fits document = true)
    (hcursor : isBoundary document cursor = true)
    (h : Contiguous cursor pieces document.utf8ByteSize) :
    String.join (pieces.filterMap (Piece.text? · document)) =
      covered document ⟨cursor, document.utf8ByteSize⟩ := by
  induction pieces generalizing cursor with
  | nil =>
    obtain rfl : cursor = document.utf8ByteSize := h
    rw [covered_self hcursor]
    rfl
  | cons p pieces ih =>
    obtain ⟨hp, hrest⟩ := List.forall_mem_cons.1 hfits
    obtain ⟨hle, hstart, hstop⟩ := boundaries_of_fits hp
    obtain ⟨rfl, hcontiguous⟩ := h
    have htext : p.text? document = some (covered document p.range) := slice?_eq_covered hp
    have hmap : (p :: pieces).filterMap (Piece.text? · document) =
        covered document p.range :: pieces.filterMap (Piece.text? · document) :=
      List.filterMap_cons_some htext
    rw [hmap, String.join_cons, ih hrest hstop hcontiguous]
    exact covered_append hp (fits_mk hstop (isBoundary_end document) (le_of_isBoundary hstop))

/-! ### The whole document -/

/-- A document is cut exactly if every range can be accepted behind the one before. The pieces are
    then the only cut of it there is, and their texts make up the document. Otherwise the first
    range that cannot be accepted is reported. -/
theorem cutAll_exact (document : String) (ranges : List ByteRange) :
    ((∃ pieces, cutAll document ranges = .ok pieces) ↔
      ∀ i (h : i < ranges.length), Acceptable document (endBefore 0 ranges i) ranges[i]) ∧
    (∀ pieces, cutAll document ranges = .ok pieces → IsCut document ranges pieces ∧
      (∀ p ∈ pieces, (p.text? document).isSome = true) ∧
      String.join (pieces.filterMap (Piece.text? · document)) = document ∧
      ∀ other, IsCut document ranges other → other = pieces) ∧
    (∀ e, cutAll document ranges = .error e → ∃ i, ∃ h : i < ranges.length,
      (∀ j (hj : j < ranges.length), j < i →
        Acceptable document (endBefore 0 ranges j) ranges[j]) ∧
      ¬ Acceptable document (endBefore 0 ranges i) ranges[i] ∧
      e = if ranges[i].start < endBefore 0 ranges i
        then .unordered ranges[i].start (endBefore 0 ranges i)
        else .outOfBounds ranges[i] document.utf8ByteSize) ∧
    ∀ range, cutSingle document range = cutAll document [range] := by
  have hzero := isBoundary_zero document
  refine ⟨?_, fun pieces h => ?_, fun e h => exists_fault_of_cutFrom h, fun _ => rfl⟩
  · rw [← inOrder_iff]
    exact ⟨fun ⟨_, h⟩ => (cutFrom_eq_ok_iff.1 h).1, fun h => ⟨_, cutFrom_eq_ok_iff.2 ⟨h, rfl⟩⟩⟩
  · obtain ⟨hin, rfl⟩ := cutFrom_eq_ok_iff.1 h
    have hcut : IsCut document ranges _ := (cutsFrom_iff hzero hin).2 rfl
    have hfits : ∀ p ∈ piecesFrom document.utf8ByteSize 0 0 ranges, p.range.fits document = true :=
      fun p => fits_of_mem_piecesFrom hzero hin
    refine ⟨hcut, fun p hp => ?_, ?_, fun other hother => (cutsFrom_iff hzero hin).1 hother⟩
    · rw [Piece.text?, slice?_eq_covered (hfits p hp)]
      rfl
    · rw [join_of_contiguous hfits hzero hcut.contiguous, covered_all]

end ScriptKeeper.Inspection
