import ScriptKeeper.Proofs.Inspection.Step

/-!
# Sessions that can be reached

A session starts idle and without segments, and whatever is done to it, its arena stays well
linked, and is empty while the session is idle (`Sound`, `sound_of_reachable`). So a query puts its
segments into an empty arena, and they are all that the session has (`allSegments_decompose`).
-/

namespace ScriptKeeper.Inspection

open Session

/-! ### Segments behind others -/

namespace Arena

variable {a : Arena}

theorem WellLinked.append (h : a.WellLinked) (segments : List Segment) :
    (a.append segments).WellLinked ∧ (a.append segments).toList =
      a.toList ++ (segments.zipIdx a.size).map fun (added, slot) => (slot, added) := by
  induction segments generalizing a with
  | nil => exact ⟨h, (List.append_nil _).symm⟩
  | cons segment segments ih =>
    obtain ⟨hw, htoList⟩ := h.pushBack segment
    obtain ⟨hws, htoLists⟩ := ih hw
    refine ⟨hws, htoLists.trans ?_⟩
    rw [htoList, List.zipIdx_cons, List.map_cons, List.append_assoc, Arena.pushBack,
      size_insertBetween]
    rfl

end Arena

/-! ### The invariant -/

namespace Session

variable {s s' : Session}

/-- The sessions that can be reached: a new one, and what the operations and its registry make of
    one. -/
inductive Reachable : Session → Prop
  | ofText (id : SessionId) (text : String) : Reachable (.ofText id text)
  | ofFile (id : SessionId) (path : CanonicalPath) (mode : Mode) (document : String) :
      Reachable (.start id (.file path) mode document)
  | perform {s : Session} (op : Operation) (files : FileTree) : Reachable s →
      Reachable (op.perform.run (s, files)).2.1
  | upgrade {s : Session} : Reachable s → Reachable (upgrade.run s).2
  | close {s : Session} : Reachable s → Reachable s.close

/-- The arena is well linked, and empty while there is no decomposition. -/
structure Sound (s : Session) : Prop where
  linked : s.segments.WellLinked
  idle : s.phase = .idle → s.segments = .empty

/-- Without a decomposition, every arena is the empty one. -/
theorem sound_of_empty (h : s.segments = .empty) : s.Sound where
  linked := h ▸ Arena.wellLinked_empty
  idle _ := h

theorem Sound.ready (h : s.Sound) {r : Session} (hr : s.ready = .ok r) : r.segments = .empty := by
  rcases ready_cases hr with ⟨hp, rfl⟩ | ⟨_, _, rfl⟩
  · exact h.idle hp
  · rfl

/-- An idle session has no slots. -/
theorem Sound.active_of_lt (h : s.Sound) {slot : Nat} (hlt : slot < s.segments.size) :
    s.phase = .active := by
  rcases hp : s.phase
  · rw [h.idle hp] at hlt
    exact absurd hlt (Nat.not_lt_zero slot)
  · rfl

/-- Only a decomposition can be edited. -/
theorem Sound.active_of_edited (h : s.Sound) {e : Edit} {slot : Option Nat} {arena : Arena}
    (he : s.edited e = .ok (slot, arena)) : s.phase = .active := by
  cases edited_eq_ok he with
  | setText _ hlt | delete hlt | addBefore hlt | addAfter hlt => exact h.active_of_lt hlt
  | addFirst _ ha | addLast _ ha => exact ha

theorem Step.sound (hs : s.Sound) (h : s.Step s') : s'.Sound := by
  cases h with
  | stay => exact hs
  | drop => exact sound_of_empty rfl
  | settings _ hr =>
    have hempty := hs.ready hr
    exact sound_of_empty hempty
  | decompose segments hr =>
    refine ⟨?_, fun h => by cases h⟩
    rw [Session.decompose, hs.ready hr]
    exact (Arena.wellLinked_empty.append segments).1
  | edit e he =>
    -- Only an active session is edited, so nothing is to be shown of an idle one.
    refine ⟨(draft_of_edited hs.linked he).1, fun h => ?_⟩
    have hactive := hs.active_of_edited he
    rw [hactive] at h
    cases h

theorem sound_of_effect {files files' : FileTree} (hs : s.Sound)
    (h : Effect s files s' files') : s'.Sound := by
  cases h with
  | step h => exact h.sound hs
  | replace | write => exact sound_of_empty rfl

theorem sound_of_reachable (h : s.Reachable) : s.Sound := by
  induction h with
  | ofText | ofFile | close => exact sound_of_empty rfl
  | perform op files _ ih => exact sound_of_effect ih (effect_perform op _ files)
  | @upgrade s _ ih =>
    rw [run_upgrade]
    split
    · exact ih
    split
    · exact ih
    · exact sound_of_empty rfl

/-! ### After a query -/

/-- All segments of a decomposition are those of the query. -/
theorem allSegments_decompose (h : s.segments = .empty) (segments : List Segment) :
    (s.decompose segments).allSegments = s.numbered segments := by
  rw [allSegments, decompose, numbered, h, (Arena.wellLinked_empty.append segments).2,
    List.map_append, List.map_map]
  rfl

end Session

end ScriptKeeper.Inspection
