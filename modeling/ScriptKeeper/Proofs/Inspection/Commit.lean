import ScriptKeeper.Proofs.Inspection.Session

/-!
# From a query to a commit

A query makes a draft of the document, successful edits change it as a plain list (`EditRun`), and
at each moment the text of the session is that of the draft. A commit then stores this text, unless
it is the document still (`StoresText`).

* `EditRun.invariant`: what every run of edits keeps;
* `storesText`: what a commit does;
* `editRun_commit`: from an accepted query through any edits to the commit.
-/

namespace ScriptKeeper.Inspection

open Session

variable {s s' : Session} {d d' : Draft}

/-! ### Runs of edits -/

/-- Successful edits in a row, of a session and of a draft. -/
inductive EditRun (s : Session) (d : Draft) : Session → Draft → Prop
  | refl : EditRun s d s d
  | edit {s' s'' : Session} {d' : Draft} {new : Option Handle} (e : Edit) : EditRun s d s' d' →
      (edit e).run s' = (.ok new, s'') → EditRun s d s'' (e.onDraft new d')

/-- A successful edit changes the arena only. -/
theorem edit_eq_ok {e : Edit} {new : Option Handle} (h : (edit e).run s = (.ok new, s')) :
    ∃ slot arena, s.edited e = .ok (slot, arena) ∧ new = slot.map s.handle ∧
      s' = { s with segments := arena } := by
  rw [run_edit] at h
  split at h
  next slot arena he => cases h; exact ⟨slot, arena, he, rfl, rfl⟩
  next => cases h

/-- A run of edits changes the arena only, keeps it well linked, and the draft is that of the
    session. -/
theorem EditRun.invariant (h : EditRun s d s' d') (hl : s.segments.WellLinked)
    (hd : s.draft = d) : s'.segments.WellLinked ∧ s'.draft = d' ∧
      s' = { s with segments := s'.segments } := by
  induction h with
  | refl => exact ⟨hl, hd, rfl⟩
  | @edit s' s'' d' new e _ he ih =>
    -- The handles of the draft stay those of the session, as neither its number nor its generation
    -- changes.
    obtain ⟨hl', hd', hs'⟩ := ih
    obtain ⟨slot, arena, hedited, rfl, rfl⟩ := edit_eq_ok he
    obtain ⟨hl'', hd''⟩ := draft_of_edited hl' hedited
    refine ⟨hl'', by rw [hd'', hd'], ?_⟩
    rw [hs']

/-! ### The commit -/

/-- What a commit does that brings a text to an open session with write permission. A text that is
    the document still is not stored, and no file is written. -/
structure StoresText (s : Session) (text : String) : Prop where
  unchanged : text = s.document → ∀ files,
    commit.run (s, files) = (.ok .noChanges, (s.reset, files))
  ofText : text ≠ s.document → s.source = .text → ∀ files, commit.run (s, files) =
    (.ok (.committed text.utf8ByteSize), ({ s.reset with document := text }, files))
  /-- A file gets the text with the line endings of the platform, and nothing else is written. -/
  ofFile : text ≠ s.document → ∀ path, s.source = .file path → ∀ files files',
    (FileTree.writeAt path.location (Text.normalize Text.hostNewline text)).run files =
      (.ok (), files') →
    commit.run (s, files) =
      (.ok (.committed (Text.normalize Text.hostNewline text).utf8ByteSize),
        ({ s.reset with document := Text.normalize Text.hostNewline text }, files')) ∧
    ∃ folder name, files.follow true FileTree.maxLinks [] path.location.dropLast = .ok folder ∧
      path.location.getLast? = some name ∧
      (files.Straight path.location → folder = path.location.dropLast) ∧
      files' = files.put (folder ++ [name])
        (.file (.text (Text.normalize Text.hostNewline text)))
  refused : text ≠ s.document → ∀ path, s.source = .file path → ∀ files cause files',
    (FileTree.writeAt path.location (Text.normalize Text.hostNewline text)).run files =
      (.error cause, files') →
    commit.run (s, files) = (.error (.fileWrite path.text cause), (s, files))

/-- A commit stores the text of the session. -/
theorem storesText (ho : s.closed = false) (hw : s.isWritable = true) (ha : s.phase = .active) :
    StoresText s s.currentText := by
  have hcurrent : s.currentText = s.segments.reconstruct := by rw [currentText, ha]
  have hrun files := run_commit none s files
  rw [ho, ha, hw, ← hcurrent] at hrun
  refine ⟨fun h files => ?_, fun h hs files => ?_, fun h path hs files files' hwrite => ?_,
    fun h path hs files cause files' hwrite => ?_⟩
  · rw [hrun, if_neg (by simp), if_neg (by simp), if_pos (.inr h)]
  · rw [hrun, if_neg (by simp), if_neg (by simp), if_neg (by simp [h]), hs]
  · constructor
    · rw [hrun, if_neg (by simp), if_neg (by simp), if_neg (by simp [h]), hs]
      dsimp only
      rw [hwrite]
    · rcases FileTree.writeAt_cases files path.location
        (Text.normalize Text.hostNewline s.currentText) with ⟨e, he⟩ |
        ⟨folder, name, hfollow, hname, -, hok⟩
      · rw [he] at hwrite; cases hwrite
      rw [hok] at hwrite
      cases hwrite
      refine ⟨folder, name, hfollow, hname, fun hstraight => ?_, rfl⟩
      have hne : path.location ≠ [] := by
        intro hnil
        rw [hnil] at hname
        cases hname
      rw [hstraight.follow_dropLast hne] at hfollow
      exact (Except.ok.inj hfollow).symm
  · rw [hrun, if_neg (by simp), if_neg (by simp), if_neg (by simp [h]), hs]
    dsimp only
    rw [hwrite, FileTree.writeAt_error hwrite]

/-! ### The draft of a query -/

/-- The handles with the texts of the segments of a new decomposition. -/
def draftOf (s : Session) (segments : List Segment) : Draft :=
  segments.zipIdx.map fun (piece, slot) => (s.handle slot, piece.text)

/-- A query that leaves the session with a decomposition has put its segments there. -/
theorem query_active {q : Query} {hs : List Handle} (hsound : s.Sound)
    (h : (query q).run s = (.ok hs, s')) (ha : s'.phase = .active) :
    ∃ segments, q.segments s.settings s.document = .ok segments ∧ segments ≠ [] ∧
      s.closed = false ∧ s.SameRights s' ∧ s'.document = s.document ∧ s'.Sound ∧
      s'.draft = draftOf s' segments ∧ hs = q.pick s'.allSegments := by
  have hstep : s.Step ((query q).run s).2 := step_query q s
  rw [h] at hstep
  rw [run_query] at h
  split at h
  next segments r hp =>
    obtain ⟨ho, hsegments, hr⟩ := plan_eq_ok hp
    have hempty := hsound.ready hr
    -- A query without segments leaves the session idle.
    split at h
    next =>
      cases h
      rcases ready_cases hr with ⟨hp, rfl⟩ | ⟨_, _, rfl⟩
      · rw [hp] at ha; cases ha
      · cases ha
    next hne =>
      cases h
      have hall := allSegments_decompose hempty segments
      refine ⟨segments, hsegments, hne, ensureOpen_eq_ok_iff.1 ho, hstep.sameRights,
        hstep.document, hstep.sound hsound, ?_, by rw [hall]⟩
      rw [draft, hall, numbered, hempty, List.map_map]
      rfl
  next => cases h

/-- From an accepted query through any successful edits to the commit: the text of the session is
    that of the draft, which is edited as a plain list, and it is what the commit stores. Edits at
    the handles of the draft do succeed. -/
theorem editRun_commit {q : Query} {s s₁ : Session} {hs : List Handle} (hr : s.Reachable)
    (hw : s.isWritable = true) (hq : (query q).run s = (.ok hs, s₁)) (ha : s₁.phase = .active) :
    ∃ segments, q.segments s.settings s.document = .ok segments ∧
      String.join (segments.map Segment.text) = s.document ∧
      s₁.draft = draftOf s₁ segments ∧ hs = q.pick s₁.allSegments ∧ s₁.document = s.document ∧
      ∀ s₂ d, EditRun s₁ (draftOf s₁ segments) s₂ d →
        (d.map Prod.fst).Nodup ∧ s₂.draft = d ∧ s₂.currentText = d.text ∧
        s₂.document = s.document ∧ s₂.source = s.source ∧
        (∀ e : Edit, (∀ h, e.anchor? = some h → h ∈ d.map Prod.fst) →
          ∃ new s₃, (edit e).run s₂ = (.ok new, s₃)) ∧ StoresText s₂ d.text := by
  obtain ⟨segments, hsegments, hne, hopen, hsame, hdocument, hsound, hdraft, hhandles⟩ :=
    query_active (sound_of_reachable hr) hq ha
  refine ⟨segments, hsegments, Query.join_segments hsegments hne, hdraft, hhandles, hdocument,
    fun s₂ d hrun => ?_⟩
  obtain ⟨hl, hd, hs₂⟩ := hrun.invariant hsound.linked hdraft
  have hactive : s₂.phase = .active := by rw [hs₂, ha]
  have htext : s₂.currentText = d.text := by rw [currentText_of_active hactive, hd]
  have hopen₂ : s₂.closed = false := by rw [hs₂, hsame.closed, hopen]
  have hwritable : s₂.isWritable = true := by
    rw [hs₂, ← hw, isWritable, isWritable, hsame.source, hsame.mode]
  refine ⟨hd ▸ nodup_draft hl, hd, htext, by rw [hs₂, hdocument], by rw [hs₂, hsame.source],
    fun e he => ?_, ?_⟩
  · rw [← hd] at he
    obtain ⟨p, hp⟩ := exists_edited hl hopen₂ hwritable hactive he
    exact ⟨_, _, by rw [run_edit, hp]⟩
  · rw [← htext]
    exact storesText hopen₂ hwritable hactive

/-- A text to which another one is added. -/
theorem editRun_commit_appended :
    let s₁ := ((query .everything).run (ofText ⟨1⟩ "ab")).2
    let s₂ := ((edit (.addAfter ⟨⟨1⟩, 0, 0⟩ "c")).run s₁).2
    s₂.currentText = "abc" ∧ ∀ files, commit.run (s₂, files) =
      (.ok (.committed 3), ({ s₂.reset with document := "abc" }, files)) := by
  intro s₁ s₂
  have hq : (query .everything).run (ofText ⟨1⟩ "ab") = (.ok [⟨⟨1⟩, 0, 0⟩], s₁) := rfl
  obtain ⟨segments, hsegments, _, _, _, _, hruns⟩ :=
    editRun_commit (.ofText ⟨1⟩ "ab") rfl hq rfl
  cases hsegments
  have hrun : EditRun s₁ (draftOf s₁ [{ text := "ab" }]) s₂ _ :=
    .edit (.addAfter ⟨⟨1⟩, 0, 0⟩ "c") .refl rfl
  obtain ⟨_, _, htext, _, _, _, hstores⟩ := hruns s₂ _ hrun
  exact ⟨htext, hstores.ofText (by decide) rfl⟩

end ScriptKeeper.Inspection
