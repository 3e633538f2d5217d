import ScriptKeeper.Proofs.Inspection.Lines
import ScriptKeeper.Scan.Hit

/-!
# Hits in a decomposed script

A script is decomposed around the matches of a pattern, and a hit is read off the segments before
that of its match. What is read there can be said of the plain list of segments (`hitBehind`), which
a session with a new decomposition shows (`Shows`).

* `ofHandle_eq`: the hit of a handle, as seen from the segments before its own;
* `mapM_ofHandle`: the hits of all handles of matches, from the first segment to the last.
-/

namespace ScriptKeeper

open Inspection Text

namespace Scan

/-! ### Hits -/

/-- The hit of a segment, as seen from the segments before it. -/
def hitBehind (before : List Segment) (g : Segment) : Hit where
  line := 1 + newlineCount (String.join (before.map Segment.text)).toList
  named := (g.captures?.map Captures.namedGroups).getD []
  preceding := before.getLast?.map Segment.text

section

variable {s : Session} {all before after : List Segment} {g : Segment}

/-- A session that shows a list of segments, and counts lines. -/
structure Listed (s : Session) (all : List Segment) : Prop extends s.Shows all where
  trackLines : s.settings.trackLines = true

theorem filterMap_getElem?_range {α : Type} (l : List α) (n : Nat) :
    (List.range n).filterMap (fun i => l[i]?) = l.take n := by
  induction n with
  | zero => rfl
  | succ n ih =>
    rw [List.range_succ, List.filterMap_append, ih, List.take_add_one]
    cases h : l[n]? <;> simp [h]

/-- A segment begins on the line behind the newlines before it. -/
theorem Listed.lineIndex (h : Listed s (before ++ g :: after)) :
    s.lineIndex (s.handle before.length) =
      .ok (1 + newlineCount (String.join (before.map Segment.text)).toList) := by
  obtain ⟨l, hl⟩ := exists_range_eq before g after
  have hbefore : (List.range before.length).filterMap (fun x => (before ++ g :: after)[x]?) =
      before := by
    rw [filterMap_getElem?_range, List.take_left]
  rw [Session.lineIndex, h.resolve, ok_bind, h.trackLines,
    h.mirrors.readsAs.preceding _ _ _ hl, hbefore, List.foldr_reverse, foldl_advance]
  rfl

/-- The hit of a handle is that of its segment, as seen from the segments before. -/
theorem ofHandle_eq (h : Listed s (before ++ g :: after)) :
    Hit.ofHandle s (s.handle before.length) = .ok (hitBehind before g) := by
  rw [Hit.ofHandle, h.segment, h.previous, h.lineIndex]
  -- If there is a segment before, its text is read in the same session.
  rcases List.eq_nil_or_concat before with rfl | ⟨l, g', rfl⟩
  · rfl
  · have hlisted : Listed s (l ++ g' :: (g :: after)) := by simpa using h
    have hlast : (List.range (l ++ [g']).length).getLast? = some l.length := by
      rw [List.length_append, List.length_singleton, List.range_succ, List.getLast?_concat]
    simp only [List.concat_eq_append, hlast, Option.map_some, ok_bind, hlisted.text, hitBehind,
      List.getLast?_concat]
    rfl

/-- The hits of the matches in a list of segments, of which others come before. -/
def hitsBehind : List Segment → List Segment → List Hit
  | _, [] => []
  | before, g :: rest =>
    if g.isMatch then hitBehind before g :: hitsBehind (before ++ [g]) rest
    else hitsBehind (before ++ [g]) rest

theorem hitsBehind_append (before l₁ l₂ : List Segment) :
    hitsBehind before (l₁ ++ l₂) = hitsBehind before l₁ ++ hitsBehind (before ++ l₁) l₂ := by
  induction l₁ generalizing before with
  | nil => rw [List.nil_append, hitsBehind, List.nil_append, List.append_nil]
  | cons g l₁ ih =>
    rw [List.cons_append, hitsBehind, hitsBehind, ih, List.append_assoc, List.singleton_append]
    split <;> rfl

/-- The hits of all handles of matches. -/
theorem mapM_ofHandle (h : Listed s (before ++ after)) :
    ((((after.zipIdx before.length).map fun (g, slot) => (s.handle slot, g)).filter fun x =>
      x.2.isMatch).map Prod.fst).mapM (Hit.ofHandle s) = .ok (hitsBehind before after) := by
  induction after generalizing before with
  | nil => rfl
  | cons g after ih =>
    have hrest : Listed s ((before ++ [g]) ++ after) := by simpa using h
    have hhits := ih hrest
    rw [List.length_append, List.length_singleton] at hhits
    rw [List.zipIdx_cons, List.map_cons, hitsBehind, List.filter_cons]
    dsimp only
    split
    · rw [List.map_cons, List.mapM_cons, ofHandle_eq h, hhits]
      rfl
    · exact hhits

end

end Scan

end ScriptKeeper
