import ScriptKeeper.Proofs.Inspection.Commit

/-!
# What a handle names

A session gives out handles of the segments that it shows, and of no others: with the answers to
queries, edits and looks (`exists_of_answer`), and when it is asked for its ends or all its segments
(`exists_of_shown`). What it says of a handle that it does not accept, it says whatever it is asked
about it (`Refuses`).

* `allSegments_of_query`, `allSegments_of_edit`: the segments for which handles are given out;
* `Presented`: all that can come of presenting a handle to a session.
-/

namespace ScriptKeeper.Inspection

/-- The text of the segment that an edit adds, if it adds one. -/
def Edit.added? : Edit → Option String
  | .setText .. | .delete _ => none
  | .addFirst text | .addLast text | .addBefore _ text | .addAfter _ text => some text

namespace Session

variable {s s' : Session} {h : Handle} {g : Segment}

/-- A session that may not write refuses every edit, whatever the handle. -/
theorem edited_of_ensureWritable {e : InspectionError} (hw : s.ensureWritable = .error e)
    (edit : Edit) : s.edited edit = .error e := by
  cases edit <;> simp [edited, addedNextTo, hw]

/-- A handle that names no segment is refused by the edits that are made at it. -/
theorem edited_of_resolve {e : InspectionError} (hw : s.ensureWritable = .ok ())
    (hresolve : s.resolve h = .error e) {edit : Edit} (hanchor : edit.anchor? = some h) :
    s.edited edit = .error e := by
  cases edit with
  | setText | delete | addBefore | addAfter =>
    cases hanchor
    simp [edited, addedNextTo, hw, hresolve]
  | addFirst | addLast => cases hanchor

/-- Whatever a session is asked about the segment of a handle, it fails in the same way. An edit of
    a session that may only read fails before. -/
structure Refuses (s : Session) (h : Handle) (e : InspectionError) : Prop where
  resolve : s.resolve h = .error e
  look : ∀ l, s.look h l = .error e
  edit : s.closed = true ∨ s.isWritable = true → ∀ edit : Edit, edit.anchor? = some h →
    (Session.edit edit).run s = (.error e, s)

theorem refuses_of_resolve {e : InspectionError} (hresolve : s.resolve h = .error e) :
    s.Refuses h e where
  resolve := hresolve
  look l := by
    have hsegment : s.segment h = .error e := by rw [segment, hresolve, error_bind]
    cases l with
    | segment => rw [look, hsegment, error_bind]
    | text => rw [look, text, hsegment, error_bind, error_bind]
    | previous => rw [look, previous, hresolve, error_bind, error_bind]
    | next => rw [look, next, hresolve, error_bind, error_bind]
    | lineIndex => rw [look, lineIndex, hresolve, error_bind, error_bind]
  edit hw edit hanchor := by
    have hedited : s.edited edit = .error e := by
      cases hclosed : s.closed with
      | true =>
        have hopen : s.ensureOpen = .error (.closed s.id) := by rw [ensureOpen, hclosed]; rfl
        rw [Session.resolve, hopen, error_bind] at hresolve
        cases hresolve
        exact edited_of_ensureWritable (by rw [ensureWritable, hopen, error_bind]) edit
      | false =>
        have hwritable : s.isWritable = true := by simpa [hclosed] using hw
        exact edited_of_resolve (ensureWritable_eq_ok_iff.2 ⟨hclosed, hwritable⟩) hresolve hanchor
    rw [run_edit, hedited]

/-- What becomes of a handle that is presented to a session: `resets` is how often the session that
    gave it out has been reset since, and `g` is the segment that it was given out for, as it has
    been edited through the handle. -/
structure Presented (s : Session) (h : Handle) (resets : Nat) (g : Segment) : Prop where
  resolves : s.id = h.session →
    ((∃ slot, s.resolve h = .ok slot) ↔ s.closed = false ∧ resets = 0)
  names : (∃ slot, s.resolve h = .ok slot) → s.segment h = .ok g ∧ s.text h = .ok g.text
  closed : s.closed = true → s.Refuses h (.closed s.id)
  foreign : s.closed = false → s.id ≠ h.session →
    s.Refuses h (.foreignHandle h.session s.id)
  stale : s.closed = false → s.id = h.session → resets ≠ 0 →
    h.generation ≠ s.generation ∧ s.Refuses h (.staleHandle h.generation s.generation)
  /-- Whether a session may be edited is checked before the handle. -/
  readOnly : s.closed = false → s.isWritable = false → ∀ edit : Edit,
    (Session.edit edit).run s =
      (.error (.readOnly s.id ((s.path?.map CanonicalPath.text).getD "")), s)

/-! ### What a session makes of a handle -/

theorem resolve_of_closed (hc : s.closed = true) (h : Handle) :
    s.resolve h = .error (.closed s.id) := by
  rw [resolve, ensureOpen, hc]
  rfl

theorem resolve_of_foreign (hc : s.closed = false) (hid : s.id ≠ h.session) :
    s.resolve h = .error (.foreignHandle h.session s.id) := by
  rw [resolve, ensureOpen_eq_ok_iff.2 hc, ok_bind, if_pos (Ne.symm hid)]
  rfl

theorem resolve_of_stale (hc : s.closed = false) (hid : s.id = h.session)
    (hg : h.generation ≠ s.generation) :
    s.resolve h = .error (.staleHandle h.generation s.generation) := by
  rw [resolve, ensureOpen_eq_ok_iff.2 hc, ok_bind, if_neg (by simp [hid]), if_pos (.inl hg)]
  rfl

theorem segment_of_resolve {slot : Nat} (hresolve : s.resolve h = .ok slot)
    (hg : s.segments.get? slot = some g) : s.segment h = .ok g := by
  rw [segment, hresolve, ok_bind, hg]
  rfl

theorem edit_readOnly (hc : s.closed = false) (hw : s.isWritable = false) (edit : Edit) :
    (Session.edit edit).run s =
      (.error (.readOnly s.id ((s.path?.map CanonicalPath.text).getD "")), s) := by
  have hwritable : s.ensureWritable =
      .error (.readOnly s.id ((s.path?.map CanonicalPath.text).getD "")) := by
    rw [ensureWritable, ensureOpen, hc, hw]
    rfl
  rw [run_edit, edited_of_ensureWritable hwritable]

/-! ### What a session gives out -/

/-- The handles that a session shows of its segments. -/
def shown (s : Session) : List Handle :=
  s.first.toList ++ s.last.toList ++ s.allSegments.map Prod.fst

theorem mem_allSegments (hl : s.segments.WellLinked) : (h, g) ∈ s.allSegments ↔
    ∃ slot, h = s.handle slot ∧ s.segments.get? slot = some g := by
  rw [allSegments, List.mem_map]
  constructor
  · rintro ⟨⟨slot, g'⟩, hmem, heq⟩
    cases heq
    exact ⟨slot, rfl, hl.mem_toList.1 hmem⟩
  · rintro ⟨slot, rfl, hg⟩
    exact ⟨(slot, g), hl.mem_toList.2 hg, rfl⟩

theorem exists_mem_allSegments (hl : s.segments.WellLinked) {slot : Nat}
    (hlt : slot < s.segments.size) : ∃ g, (s.handle slot, g) ∈ s.allSegments := by
  have hget : s.segments.get? slot = some s.segments.slots[slot].segment := by
    rw [Arena.get?, Array.getElem?_eq_getElem hlt, Option.map_some]
  exact ⟨_, (mem_allSegments hl).2 ⟨slot, rfl, hget⟩⟩

/-- A handle is shown for one segment. -/
theorem segment_unique (hl : s.segments.WellLinked) {g' : Segment} (hg : (h, g) ∈ s.allSegments)
    (hg' : (h, g') ∈ s.allSegments) : g = g' := by
  obtain ⟨slot, rfl, hget⟩ := (mem_allSegments hl).1 hg
  obtain ⟨slot', heq, hget'⟩ := (mem_allSegments hl).1 hg'
  obtain rfl := s.handle_injective heq
  rw [hget] at hget'
  exact Option.some.inj hget'

theorem exists_of_shown (hl : s.segments.WellLinked) (h' : h ∈ s.shown) :
    ∃ g, (h, g) ∈ s.allSegments := by
  rw [shown, List.mem_append, List.mem_append, Option.mem_toList, Option.mem_toList] at h'
  rcases h' with (hfirst | hlast) | hall
  · obtain ⟨slot, hslot, rfl⟩ := Option.map_eq_some_iff.1 hfirst
    exact exists_mem_allSegments hl (hl.lt_of_ends (.inl hslot))
  · obtain ⟨slot, hslot, rfl⟩ := Option.map_eq_some_iff.1 hlast
    exact exists_mem_allSegments hl (hl.lt_of_ends (.inr hslot))
  · obtain ⟨⟨_, g⟩, hmem, rfl⟩ := List.mem_map.1 hall
    exact ⟨g, hmem⟩

/-- The segments that a session shows after a query are those of the query. -/
theorem allSegments_of_query {q : Query} {hs : List Handle} (hsound : s.Sound)
    (h : (query q).run s = (.ok hs, s')) :
    q.segments s'.settings s'.document = .ok (s'.allSegments.map Prod.snd) ∧
      hs = q.pick s'.allSegments := by
  rw [run_query] at h
  split at h
  next segments r hp =>
    obtain ⟨_, hsegments, hr⟩ := plan_eq_ok hp
    have hempty := hsound.ready hr
    have hkept : q.segments r.settings r.document = .ok segments := by
      rw [settings_of_ready hr, document_of_ready hr, hsegments]
    have hall := allSegments_decompose hempty segments
    have hnone : r.allSegments = [] := by rw [allSegments, hempty]; rfl
    split at h
    next hnil =>
      cases h
      rw [hkept, hnone, hnil]
      exact ⟨rfl, by cases q <;> rfl⟩
    next =>
      cases h
      refine ⟨hkept.trans (congrArg _ ?_), by rw [hall]⟩
      rw [hall, numbered, List.map_map]
      exact (List.zipIdx_map_fst _ _).symm
  next => cases h

/-- An edit gives out the handle of the segment that it adds. -/
theorem allSegments_of_edit {e : Edit} {new : Handle} (hl : s.segments.WellLinked)
    (h : (edit e).run s = (.ok (some new), s')) :
    ∃ text, e.added? = some text ∧ (new, { text }) ∈ s'.allSegments := by
  obtain ⟨slot, arena, he, hnew, rfl⟩ := edit_eq_ok h
  obtain ⟨x, rfl, rfl⟩ := Option.map_eq_some_iff.1 hnew.symm
  have hadd (previous next : Option Nat) (text : String) :
      (s.segments.insertBetween previous next { text }).2.get? s.segments.size = some { text } :=
    (Arena.get?_insertBetween ..).trans (if_pos rfl)
  suffices hget : ∃ text, e.added? = some text ∧ arena.get? x = some { text } by
    obtain ⟨text, htext, hget⟩ := hget
    exact ⟨text, htext, (mem_allSegments (draft_of_edited hl he).1).2 ⟨x, rfl, hget⟩⟩
  cases edited_eq_ok he with
  | addFirst text | addLast text => exact ⟨text, rfl, hadd _ _ text⟩
  | @addBefore _ _ text _ _ hinsert | @addAfter _ _ text _ _ hinsert =>
    obtain ⟨_, _, hinsert⟩ := Option.map_eq_some_iff.1 hinsert
    cases hinsert
    exact ⟨text, rfl, hadd _ _ text⟩

/-- A query gives out handles of segments only. -/
theorem exists_of_pick {q : Query} {segments : List (Handle × Segment)} (h' : h ∈ q.pick segments) :
    ∃ g, (h, g) ∈ segments := by
  have hmatch (h' : h ∈ (segments.filter fun x => x.2.isMatch).map Prod.fst) :
      ∃ g, (h, g) ∈ segments := by
    obtain ⟨⟨_, g⟩, hmem, rfl⟩ := List.mem_map.1 h'
    exact ⟨g, (List.mem_filter.1 hmem).1⟩
  cases q with
  | find => exact hmatch (List.mem_of_head? (Option.mem_toList.1 h'))
  | findAll => exact hmatch h'
  | everything =>
    obtain ⟨⟨_, g⟩, hmem, rfl⟩ := List.mem_map.1 h'
    exact ⟨g, hmem⟩

/-- A look at a segment gives out the handle of a neighbour. -/
theorem exists_of_look {l : Look} {anchor : Handle} {hs : List Handle}
    (hl : s.segments.WellLinked) (h' : s.look anchor l = .ok (.handles hs)) (hmem : h ∈ hs) :
    ∃ g, (h, g) ∈ s.allSegments := by
  cases l with
  | segment | text | lineIndex =>
    obtain ⟨_, _, h'⟩ := bind_eq_ok_iff.1 h'
    cases h'
  | previous =>
    obtain ⟨_, hprevious, h'⟩ := bind_eq_ok_iff.1 h'
    cases h'
    obtain ⟨slot, hslot, hprevious⟩ := bind_eq_ok_iff.1 hprevious
    cases hprevious
    obtain ⟨x, hx, rfl⟩ := Option.map_eq_some_iff.1 (Option.mem_toList.1 hmem)
    exact exists_mem_allSegments hl
      (hl.lt_of_neighbour (resolve_eq_ok_iff.1 hslot).2.2 (.inl hx))
  | next =>
    obtain ⟨_, hnext, h'⟩ := bind_eq_ok_iff.1 h'
    cases h'
    obtain ⟨slot, hslot, hnext⟩ := bind_eq_ok_iff.1 hnext
    cases hnext
    obtain ⟨x, hx, rfl⟩ := Option.map_eq_some_iff.1 (Option.mem_toList.1 hmem)
    exact exists_mem_allSegments hl
      (hl.lt_of_neighbour (resolve_eq_ok_iff.1 hslot).2.2 (.inr hx))

theorem query_of_perform {q : Query} {files files' : FileTree} {hs : List Handle}
    (h : (Operation.query q).perform.run (s, files) = (.ok (.handles hs), (s', files'))) :
    (query q).run s = (.ok hs, s') := by
  obtain ⟨_, hq, heq⟩ := bind_pure_eq_ok h
  cases heq
  exact filed_eq_ok hq

theorem edit_of_perform {e : Edit} {files files' : FileTree} {hs : List Handle}
    (h : (Operation.edit e).perform.run (s, files) = (.ok (.handles hs), (s', files'))) :
    ∃ new, (edit e).run s = (.ok new, s') ∧ hs = new.toList := by
  obtain ⟨new, hedit, heq⟩ := bind_pure_eq_ok h
  cases heq
  exact ⟨new, filed_eq_ok hedit, rfl⟩

/-- Every handle in an answer is that of a segment that the session shows then. -/
theorem exists_of_answer {op : Operation} {files files' : FileTree} {hs : List Handle}
    (hsound : s.Sound)
    (h' : op.perform.run (s, files) = (.ok (.handles hs), (s', files'))) (hmem : h ∈ hs) :
    ∃ g, (h, g) ∈ s'.allSegments := by
  cases op with
  | query q =>
    rw [(allSegments_of_query hsound (query_of_perform h')).2] at hmem
    exact exists_of_pick hmem
  | edit e =>
    obtain ⟨new, hedit, rfl⟩ := edit_of_perform h'
    rw [Option.mem_toList] at hmem
    rw [hmem] at hedit
    obtain ⟨text, _, hall⟩ := allSegments_of_edit hsound.linked hedit
    exact ⟨_, hall⟩
  | look l anchor =>
    obtain rfl : s = s' := (Prod.mk.inj (Prod.mk.inj h').2).1
    exact exists_of_look hsound.linked (Prod.mk.inj h').1 hmem
  | cancel => cases h'
  | changeSettings | setEverything | commit =>
    -- The other answers hold no handles.
    rw [Operation.perform, run_bind_pure] at h'
    obtain ⟨_, _, h'⟩ := bind_eq_ok_iff.1 (Prod.mk.inj h').1
    cases h'

end Session

end ScriptKeeper.Inspection
