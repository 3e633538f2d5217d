import ScriptKeeper.Proofs.Inspection.Handle
import ScriptKeeper.Proofs.Inspection.Sequence

/-!
# A new decomposition is a plain list

The segments of a new decomposition are put one behind the other into an empty arena, so the slots
are the numbers of the segments in their list (`shows_decompose`), and what a session says of the
handle of a slot can be told from the list: the segment, and the one before it.
-/

namespace ScriptKeeper.Inspection

/-- An arena to which segments are added one behind the other is a list to which they are added. -/
theorem Arena.mirrors_append {a : Arena} {before : List Segment} (segments : List Segment)
    (h : a.Mirrors ⟨before, List.range before.length⟩) :
    (a.append segments).Mirrors
      ⟨before ++ segments, List.range (before ++ segments).length⟩ := by
  -- The slot that is added is the next number, so the slots stay in the order of their numbers.
  induction segments generalizing a before with
  | nil =>
    rw [List.append_nil]
    exact h
  | cons g segments ih =>
    have hpush : (a.pushBack g).2.Mirrors
        ⟨before ++ [g], List.range (before ++ [g]).length⟩ := by
      have horder : (List.range before.length).insertIdx (List.range before.length).length
          before.length = List.range (before ++ [g]).length := by
        rw [List.insertIdx_length_self, List.length_append, List.length_singleton,
          List.range_succ]
      rw [← horder]
      exact (h.perform (.pushBack g)).2
    have hrest := ih hpush
    rw [List.append_assoc, List.singleton_append] at hrest
    exact hrest

/-- Where a member stands among the numbers of all. -/
theorem exists_range_eq {α : Type} (before : List α) (x : α) (after : List α) :
    ∃ l, List.range (before ++ x :: after).length =
      List.range before.length ++ before.length :: l := by
  refine ⟨(List.range after.length).map fun i => before.length + (i + 1), ?_⟩
  rw [List.length_append, List.length_cons, List.range_add, List.range_succ_eq_map, List.map_cons,
    List.map_map]
  rfl

namespace Session

/-- An open session whose segments have been put one behind the other. -/
structure Shows (s : Session) (all : List Segment) : Prop where
  opened : s.closed = false
  mirrors : s.segments.Mirrors ⟨all, List.range all.length⟩

variable {s : Session} {all before after : List Segment} {g : Segment}

/-- A session without segments shows the list of those into which it is decomposed. -/
theorem shows_decompose (ho : s.closed = false) (h : s.segments = .empty)
    (segments : List Segment) : (s.decompose segments).Shows segments where
  opened := ho
  mirrors := by
    rw [decompose, h]
    exact Arena.mirrors_append segments Arena.Mirrors.empty

namespace Shows

theorem resolve (h : s.Shows (before ++ g :: after)) :
    s.resolve (s.handle before.length) = .ok before.length := by
  refine resolve_eq_ok_iff.2 ⟨h.opened, rfl, ?_⟩
  rw [h.mirrors.size_eq]
  simp

theorem get? (h : s.Shows (before ++ g :: after)) :
    s.segments.get? before.length = some g := by
  rw [h.mirrors.get]
  simp

theorem segment (h : s.Shows (before ++ g :: after)) :
    s.segment (s.handle before.length) = .ok g :=
  segment_of_resolve h.resolve h.get?

theorem text (h : s.Shows (before ++ g :: after)) :
    s.text (s.handle before.length) = .ok g.text := by
  rw [Session.text, h.segment, ok_bind]
  rfl

/-- Before a segment stands the last one of those before it. -/
theorem previous (h : s.Shows (before ++ g :: after)) :
    s.previous (s.handle before.length) =
      .ok ((List.range before.length).getLast?.map s.handle) := by
  obtain ⟨l, hl⟩ := exists_range_eq before g after
  rw [Session.previous, h.resolve, ok_bind, h.mirrors.readsAs.previous _ _ _ hl]
  rfl

end Shows

end Session

end ScriptKeeper.Inspection
