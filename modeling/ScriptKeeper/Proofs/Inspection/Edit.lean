import ScriptKeeper.Proofs.Action
import ScriptKeeper.Proofs.Inspection.Draft

/-!
# What an edit does

An edit is checked, and then it changes the arena and nothing else (`run_edit`): a handle that is
accepted names a slot of the arena (`resolve_eq_ok_iff`), so the insertion next to it succeeds. What
an edit that succeeds has done is listed once (`Edited`). On the draft of the session, the texts of
its segments under their handles, an edit is the edit of a plain list (`draft_of_edited`), and the
text of the session is that of its draft (`currentText_of_active`).
-/

namespace ScriptKeeper.Inspection.Session

variable {s : Session}

/-! ### Checks -/

theorem ensureOpen_eq_ok_iff : s.ensureOpen = .ok () ↔ s.closed = false := by
  rw [ensureOpen]
  cases s.closed <;> simp

theorem ensureWritable_eq_ok_iff :
    s.ensureWritable = .ok () ↔ s.closed = false ∧ s.isWritable = true := by
  rw [ensureWritable, ensureOpen]
  cases s.closed
  · cases s.isWritable
    · simp [throw, throwThe, MonadExceptOf.throw]
    · simp [pure, Except.pure]
  · simp

theorem ensureActive_eq_ok_iff : s.ensureActive = .ok () ↔ s.phase = .active := by
  rw [ensureActive]
  split <;> simp_all

/-- The handles that an open session accepts are those of its slots. -/
theorem resolve_eq_ok_iff {h : Handle} {slot : Nat} : s.resolve h = .ok slot ↔
    s.closed = false ∧ h = s.handle slot ∧ slot < s.segments.size := by
  obtain ⟨session, generation, index⟩ := h
  rw [resolve, ensureOpen]
  cases s.closed
  · simp only [Bool.false_eq_true, if_false, ok_bind, handle, Handle.mk.injEq, true_and]
    split
    next hid => simp [throw, throwThe, MonadExceptOf.throw, hid]
    next hid =>
    split
    next hstale =>
      simp only [throw, throwThe, MonadExceptOf.throw, reduceCtorEq, false_iff]
      rintro ⟨⟨-, hg, rfl⟩, hlt⟩
      exact hstale.elim (fun hne => hne hg) (Nat.not_le.2 hlt)
    next hlive =>
      simp only [pure, Except.pure, Except.ok.injEq]
      rw [not_or, Decidable.not_not, Nat.not_le] at hlive
      constructor
      · rintro rfl
        exact ⟨⟨Decidable.not_not.1 hid, hlive.1, rfl⟩, hlive.2⟩
      · rintro ⟨⟨-, -, rfl⟩, -⟩
        rfl
  · simp

theorem handle_injective (s : Session) : Function.Injective s.handle := fun _ _ h => by
  simpa [handle] using h

/-! ### The run of an edit -/

/-- The arena with a segment added next to that of a handle, as `insert` does, and its slot. -/
def addedNextTo (s : Session) (insert : Arena → Nat → Segment → Option (Nat × Arena))
    (anchor : Handle) (text : String) : Except InspectionError (Nat × Arena) := do
  s.ensureWritable
  match insert s.segments (← s.resolve anchor) { text } with
  | some added => return added
  | none => throw (s.stale anchor)

/-- The arena after an edit, and the slot of the segment that was added, if one was. -/
def edited (s : Session) : Edit → Except InspectionError (Option Nat × Arena)
  | .setText h text => do
    s.ensureWritable
    return (none, s.segments.setText (← s.resolve h) text)
  | .delete h => do
    s.ensureWritable
    return (none, s.segments.setText (← s.resolve h) "")
  | .addFirst text => do
    s.ensureWritable
    s.ensureActive
    return (some s.segments.size, (s.segments.pushFront { text }).2)
  | .addLast text => do
    s.ensureWritable
    s.ensureActive
    return (some s.segments.size, (s.segments.pushBack { text }).2)
  | .addBefore anchor text => do
    let (slot, arena) ← s.addedNextTo Arena.insertBefore anchor text
    return (some slot, arena)
  | .addAfter anchor text => do
    let (slot, arena) ← s.addedNextTo Arena.insertAfter anchor text
    return (some slot, arena)

theorem run_addNextTo (insert : Arena → Nat → Segment → Option (Nat × Arena)) (anchor : Handle)
    (text : String) (s : Session) : (addNextTo insert anchor text).run s =
    match s.addedNextTo insert anchor text with
    | .ok (slot, arena) => (.ok (s.handle slot), { s with segments := arena })
    | .error e => (.error e, s) := by
  simp only [addNextTo, addedNextTo, run_bind, run_get, run_lift]
  cases s.ensureWritable with
  | error e => rfl
  | ok _ =>
  cases s.resolve anchor with
  | error e => rfl
  | ok slot =>
    simp only [ok_bind]
    cases insert s.segments slot { text } <;> rfl

/-- An edit fails and changes nothing, or changes the arena only. -/
theorem run_edit (s : Session) (e : Edit) : (edit e).run s = match s.edited e with
    | .ok (slot, arena) => (.ok (slot.map s.handle), { s with segments := arena })
    | .error e => (.error e, s) := by
  cases e with
  | setText h text | delete h =>
    simp only [edit, delete, setText, edited, run_bind, run_get, run_lift]
    cases s.ensureWritable with
    | error e => rfl
    | ok _ => cases s.resolve h <;> rfl
  | addFirst text | addLast text =>
    simp only [edit, addFirst, addLast, edited, run_bind, run_get, run_lift]
    cases s.ensureWritable with
    | error e => rfl
    | ok _ => cases s.ensureActive <;> rfl
  | addBefore anchor text =>
    rw [edit, run_bind_pure, addBefore, run_addNextTo, edited]
    cases s.addedNextTo Arena.insertBefore anchor text <;> rfl
  | addAfter anchor text =>
    rw [edit, run_bind_pure, addAfter, run_addNextTo, edited]
    cases s.addedNextTo Arena.insertAfter anchor text <;> rfl

theorem addedNextTo_eq_ok {insert : Arena → Nat → Segment → Option (Nat × Arena)}
    {anchor : Handle} {text : String} {added : Nat × Arena}
    (h : s.addedNextTo insert anchor text = .ok added) : ∃ slot, anchor = s.handle slot ∧
      slot < s.segments.size ∧ insert s.segments slot { text } = some added := by
  obtain ⟨_, _, h⟩ := bind_eq_ok_iff.1 h
  obtain ⟨slot, hslot, h⟩ := bind_eq_ok_iff.1 h
  obtain ⟨_, hanchor, hlt⟩ := resolve_eq_ok_iff.1 hslot
  refine ⟨slot, hanchor, hlt, ?_⟩
  split at h
  next hinsert => cases h; exact hinsert
  next => cases h

/-- What an edit has done if it succeeds: it has given a segment another text, or added one, at one
    of the ends of a decomposition or next to the segment of a handle. -/
inductive Edited (s : Session) : Edit → Option Nat → Arena → Prop
  | setText {slot : Nat} (text : String) : slot < s.segments.size →
      Edited s (.setText (s.handle slot) text) none (s.segments.setText slot text)
  | delete {slot : Nat} : slot < s.segments.size →
      Edited s (.delete (s.handle slot)) none (s.segments.setText slot "")
  | addFirst (text : String) : s.phase = .active →
      Edited s (.addFirst text) (some s.segments.size) (s.segments.pushFront { text }).2
  | addLast (text : String) : s.phase = .active →
      Edited s (.addLast text) (some s.segments.size) (s.segments.pushBack { text }).2
  | addBefore {slot added : Nat} {text : String} {arena : Arena} : slot < s.segments.size →
      s.segments.insertBefore slot { text } = some (added, arena) →
      Edited s (.addBefore (s.handle slot) text) (some added) arena
  | addAfter {slot added : Nat} {text : String} {arena : Arena} : slot < s.segments.size →
      s.segments.insertAfter slot { text } = some (added, arena) →
      Edited s (.addAfter (s.handle slot) text) (some added) arena

theorem edited_eq_ok {e : Edit} {added : Option Nat} {arena : Arena}
    (h : s.edited e = .ok (added, arena)) : s.Edited e added arena := by
  cases e with
  | setText anchor text | delete anchor =>
    obtain ⟨_, _, h⟩ := bind_eq_ok_iff.1 h
    obtain ⟨slot, hslot, h⟩ := bind_eq_ok_iff.1 h
    cases h
    obtain ⟨_, rfl, hlt⟩ := resolve_eq_ok_iff.1 hslot
    constructor
    exact hlt
  | addFirst text | addLast text =>
    obtain ⟨_, _, h⟩ := bind_eq_ok_iff.1 h
    obtain ⟨_, hactive, h⟩ := bind_eq_ok_iff.1 h
    cases h
    constructor
    exact ensureActive_eq_ok_iff.1 hactive
  | addBefore anchor text | addAfter anchor text =>
    obtain ⟨⟨_, _⟩, hadded, h⟩ := bind_eq_ok_iff.1 h
    cases h
    obtain ⟨slot, rfl, hlt, hinsert⟩ := addedNextTo_eq_ok hadded
    constructor
    · exact hlt
    · exact hinsert

/-! ### The draft of a session -/

/-- The texts of the segments under their handles, in the order of the document. -/
def draft (s : Session) : Draft := s.allSegments.map fun x => (x.1, x.2.text)

theorem draft_eq_map (s : Session) :
    s.draft = s.segments.toList.map (Prod.map s.handle Segment.text) := by
  rw [draft, allSegments, List.map_map]
  rfl

/-- With a decomposition, the text of a session is that of its draft. -/
theorem currentText_of_active (h : s.phase = .active) : s.currentText = s.draft.text := by
  rw [currentText, h, draft_eq_map, Draft.text, List.map_map]
  rfl

theorem map_fst_draft (h : s.segments.WellLinked) :
    s.draft.map Prod.fst = s.segments.order.map s.handle := by
  rw [draft_eq_map, ← h.map_fst_toList, List.map_map, List.map_map]
  rfl

/-- The handles of a draft are all different. -/
theorem nodup_draft (h : s.segments.WellLinked) : (s.draft.map Prod.fst).Nodup := by
  rw [map_fst_draft h]
  exact h.nodup.map s.handle_injective

/-- The handles of a draft are those that an open session accepts. -/
theorem mem_draft_iff (hl : s.segments.WellLinked) (ho : s.closed = false) {h : Handle} :
    h ∈ s.draft.map Prod.fst ↔ ∃ slot, s.resolve h = .ok slot := by
  simp only [map_fst_draft hl, List.mem_map, resolve_eq_ok_iff, ho, true_and, hl.mem_iff]
  exact exists_congr fun slot => by rw [and_comm, eq_comm]

/-- An edit keeps the arena well linked, and edits the draft as a plain list. -/
theorem draft_of_edited {e : Edit} {slot : Option Nat} {arena : Arena}
    (hl : s.segments.WellLinked) (h : s.edited e = .ok (slot, arena)) :
    arena.WellLinked ∧
      draft { s with segments := arena } = e.onDraft (slot.map s.handle) s.draft := by
  have hdraft : draft { s with segments := arena } =
      arena.toList.map (Prod.map s.handle Segment.text) := draft_eq_map _
  rw [hdraft, draft_eq_map]
  cases edited_eq_ok h with
  | @setText x text | @delete x =>
    refine ⟨hl.setText x _, ?_⟩
    rw [hl.toList_setText, Edit.onDraft]
    exact map_change Segment.text s.handle_injective x (fun _ => rfl) _
  | addFirst text =>
    obtain ⟨hw, htoList⟩ := hl.pushFront { text }
    exact ⟨hw, by rw [htoList, List.map_cons]; rfl⟩
  | addLast text =>
    obtain ⟨hw, htoList⟩ := hl.pushBack { text }
    exact ⟨hw, by rw [htoList, List.map_append]; rfl⟩
  | @addBefore x _ text _ hlt hinsert =>
    obtain ⟨arena', hinsert', hw, htoList⟩ := hl.insertBefore hlt { text }
    rw [hinsert] at hinsert'
    cases hinsert'
    refine ⟨hw, ?_⟩
    rw [htoList]
    exact map_replaceAt Segment.text s.handle_injective x (fun _ => rfl) _
  | @addAfter x _ text _ hlt hinsert =>
    obtain ⟨arena', hinsert', hw, htoList⟩ := hl.insertAfter hlt { text }
    rw [hinsert] at hinsert'
    cases hinsert'
    refine ⟨hw, ?_⟩
    rw [htoList]
    exact map_replaceAt Segment.text s.handle_injective x (fun _ => rfl) _

theorem addedNextTo_ok {insert : Arena → Nat → Segment → Option (Nat × Arena)} {anchor : Handle}
    {slot : Nat} {text : String} {added : Nat × Arena} (hw : s.ensureWritable = .ok ())
    (hr : s.resolve anchor = .ok slot) (hinsert : insert s.segments slot { text } = some added) :
    s.addedNextTo insert anchor text = .ok added := by
  rw [addedNextTo, hw, ok_bind, hr, ok_bind, hinsert]
  rfl

/-- An edit succeeds if it is made at a handle of the draft, or at none. -/
theorem exists_edited (hl : s.segments.WellLinked) (ho : s.closed = false)
    (hw : s.isWritable = true) (ha : s.phase = .active) {e : Edit}
    (he : ∀ h, e.anchor? = some h → h ∈ s.draft.map Prod.fst) : ∃ p, s.edited e = .ok p := by
  have hwritable : s.ensureWritable = .ok () := ensureWritable_eq_ok_iff.2 ⟨ho, hw⟩
  have hactive : s.ensureActive = .ok () := by rw [ensureActive, if_pos ha]
  cases e with
  | setText h text =>
    obtain ⟨slot, hslot⟩ := (mem_draft_iff hl ho).1 (he h rfl)
    exact ⟨_, by rw [edited, hwritable, ok_bind, hslot, ok_bind]; rfl⟩
  | delete h =>
    obtain ⟨slot, hslot⟩ := (mem_draft_iff hl ho).1 (he h rfl)
    exact ⟨_, by rw [edited, hwritable, ok_bind, hslot, ok_bind]; rfl⟩
  | addFirst text | addLast text =>
    exact ⟨_, by rw [edited, hwritable, ok_bind, hactive, ok_bind]; rfl⟩
  | addBefore anchor text =>
    obtain ⟨slot, hslot⟩ := (mem_draft_iff hl ho).1 (he anchor rfl)
    obtain ⟨arena, hinsert, _⟩ :=
      hl.insertBefore (resolve_eq_ok_iff.1 hslot).2.2 { text }
    exact ⟨_, by rw [edited, addedNextTo_ok hwritable hslot hinsert, ok_bind]; rfl⟩
  | addAfter anchor text =>
    obtain ⟨slot, hslot⟩ := (mem_draft_iff hl ho).1 (he anchor rfl)
    obtain ⟨arena, hinsert, _⟩ :=
      hl.insertAfter (resolve_eq_ok_iff.1 hslot).2.2 { text }
    exact ⟨_, by rw [edited, addedNextTo_ok hwritable hslot hinsert, ok_bind]; rfl⟩

end ScriptKeeper.Inspection.Session
