import ScriptKeeper.Inspection.Query
import ScriptKeeper.Proofs.Text.Bytes

/-!
# A document cut around matches

Around matches that come in order a document can be cut, and the segments can be written down
without the cuts: the text up to a match, if there is any, then the match, and so on up to the end
(`segmentsFrom`). Put together they are the document (`join_segmentsFrom`).
-/

namespace ScriptKeeper.Inspection

open Text Session

/-- The text between two positions, unless it is empty. -/
def literalSegments (document : String) (start stop : Nat) : List Segment :=
  if start < stop then [{ text := covered document ⟨start, stop⟩ }] else []

/-- The segment of a match. -/
def matchedSegment (document : String) (c : Captures) : Segment :=
  { text := covered document c.range, origin := .matched c }

/-- The segments of a document from a position on, when it is cut around matches. -/
def segmentsFrom (document : String) : Nat → List Captures → List Segment
  | cursor, [] => literalSegments document cursor document.utf8ByteSize
  | cursor, c :: cs => literalSegments document cursor c.range.start ++
      matchedSegment document c :: segmentsFrom document c.range.stop cs

/-! ### What the segments are -/

theorem segmentsFrom_ne_nil (document : String) (cursor : Nat) {captures : List Captures}
    (h : captures ≠ []) : segmentsFrom document cursor captures ≠ [] := by
  cases captures with
  | nil => exact absurd rfl h
  | cons c captures => simp [segmentsFrom]

/-- The literal segment has the text between the positions, which is missing only if it is
    empty. -/
theorem join_literalSegments {document : String} {start stop : Nat}
    (hstop : isBoundary document stop = true) (hle : start ≤ stop) :
    String.join ((literalSegments document start stop).map Segment.text) =
      covered document ⟨start, stop⟩ := by
  rw [literalSegments]
  split
  next => simp
  next hge =>
    obtain rfl : start = stop := by omega
    rw [covered_self hstop]
    rfl

/-- The segments make up the text from the position on. -/
theorem join_segmentsFrom {document : String} {captures : List Captures} {cursor : Nat}
    (hcursor : isBoundary document cursor = true)
    (h : InOrder document cursor (captures.map Captures.range)) :
    String.join ((segmentsFrom document cursor captures).map Segment.text) =
      covered document ⟨cursor, document.utf8ByteSize⟩ := by
  have hend := isBoundary_end document
  induction captures generalizing cursor with
  | nil => exact join_literalSegments hend (le_of_isBoundary hcursor)
  | cons c captures ih =>
    obtain ⟨hle, hfits, hrest⟩ := h
    obtain ⟨_, hstart, hstop⟩ := boundaries_of_fits hfits
    have hmatched : covered document c.range ++
        covered document ⟨c.range.stop, document.utf8ByteSize⟩ =
          covered document ⟨c.range.start, document.utf8ByteSize⟩ :=
      covered_append hfits (fits_mk hstop hend (le_of_isBoundary hstop))
    rw [segmentsFrom, List.map_append, List.map_cons, String.join_append, String.join_cons,
      join_literalSegments hstart hle, ih hstop hrest, matchedSegment, hmatched]
    exact covered_append (fits_mk hcursor hstart hle)
      (fits_mk hstart hend (le_of_isBoundary hstart))

/-! ### The cut -/

theorem segmentsOf_append {document : String} {captures : List Captures}
    {pieces pieces' : List Piece} {segments segments' : List Segment}
    (h : segmentsOf document captures pieces = .ok segments)
    (h' : segmentsOf document captures pieces' = .ok segments') :
    segmentsOf document captures (pieces ++ pieces') = .ok (segments ++ segments') := by
  rw [segmentsOf] at h h' ⊢
  rw [List.mapM_append, h, h']
  rfl

theorem segmentsOf_singleton {document : String} {captures : List Captures} {piece : Piece}
    {g : Segment} (h : segmentOf document captures piece = .ok g) :
    segmentsOf document captures [piece] = .ok [g] := by
  rw [segmentsOf, List.mapM_cons, h]
  rfl

theorem segmentsOf_literalBetween {document : String} {start stop : Nat} (captures : List Captures)
    (hstart : isBoundary document start = true) (hstop : isBoundary document stop = true) :
    segmentsOf document captures (literalBetween start stop) =
      .ok (literalSegments document start stop) := by
  rw [literalBetween, literalSegments]
  split
  next hlt =>
    refine segmentsOf_singleton ?_
    rw [segmentOf, Piece.text?, slice?_eq_covered (fits_mk hstart hstop (Nat.le_of_lt hlt))]
  next => rfl

theorem segmentsOf_matched {document : String} (before captures : List Captures) {c : Captures}
    (h : c.range.fits document = true) :
    segmentsOf document (before ++ c :: captures) [⟨c.range, .matched before.length⟩] =
      .ok [matchedSegment document c] := by
  have hget : (before ++ c :: captures)[before.length]? = some c := by simp
  refine segmentsOf_singleton ?_
  rw [segmentOf, Piece.text?, slice?_eq_covered h]
  dsimp only
  rw [hget]
  rfl

/-- The cut from a position on gives the segments from there on. -/
theorem cutFrom_ok {document : String} (before : List Captures) {captures : List Captures}
    {cursor : Nat} (hcursor : isBoundary document cursor = true)
    (h : InOrder document cursor (captures.map Captures.range)) :
    ∃ pieces, cutFrom document cursor before.length (captures.map Captures.range) = .ok pieces ∧
      segmentsOf document (before ++ captures) pieces =
        .ok (segmentsFrom document cursor captures) := by
  -- The pieces number the matches from the start of the document, so those before are kept.
  induction captures generalizing before cursor with
  | nil => exact ⟨_, rfl, segmentsOf_literalBetween _ hcursor (isBoundary_end document)⟩
  | cons c captures ih =>
    obtain ⟨hle, hfits, hrest⟩ := h
    obtain ⟨_, hstart, hstop⟩ := boundaries_of_fits hfits
    obtain ⟨pieces, hpieces, hsegments⟩ := ih (before ++ [c]) hstop hrest
    rw [List.length_append, List.length_singleton] at hpieces
    rw [List.append_assoc, List.singleton_append] at hsegments
    refine ⟨literalBetween cursor c.range.start ++ (⟨c.range, .matched before.length⟩ :: pieces),
      ?_, ?_⟩
    · rw [List.map_cons, cutFrom, if_neg (Nat.not_lt.2 hle), hfits, hpieces]
      rfl
    · exact segmentsOf_append (segmentsOf_literalBetween _ hcursor hstart)
        (segmentsOf_append (segmentsOf_matched before captures hfits) hsegments)

/-- A document can be cut around matches in order. -/
theorem cutAll_ok {document : String} {captures : List Captures}
    (h : InOrder document 0 (captures.map Captures.range)) :
    ∃ pieces, cutAll document (captures.map Captures.range) = .ok pieces ∧
      segmentsOf document captures pieces = .ok (segmentsFrom document 0 captures) :=
  cutFrom_ok [] (isBoundary_zero document) h

end ScriptKeeper.Inspection
