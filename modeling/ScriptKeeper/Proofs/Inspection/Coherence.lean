import ScriptKeeper.Proofs.Inspection.Locks

/-!
# No update is lost

A session reads its file once, when it is opened, and later writes the file from its own copy. As
long as nothing but commits of one registry's sessions changes the files (`RunOf`), the copy of
every open session is what its file holds (`Coherent`): a session that writes has the file to
itself, so nobody else's copy grows old, and what it has written is its own copy from then on.

* `InSync`: the session's copy is what the file holds, and the file is where the session says;
* `writer_of_change`: who changes a file, in any world that can be reached;
* `coherence`: both, over every run.
-/

namespace ScriptKeeper.Inspection

namespace World

variable {w w' : World} {i : Nat} {req : Request}

/-- The files stay as they are, or a session of the registry commits. -/
def ChangedBy (w : World) (i : Nat) (req : Request) : Prop :=
  (w.request req).2.workspace.files = w.workspace.files ∨
    ∃ id fault o, req = .ask id (.commit fault) ∧ w.find? id = some o ∧ o.registry = some i

/-- The worlds that are reached while only commits of the registry's sessions change files. -/
inductive RunOf (i : Nat) : World → Prop
  | start (workspace : Workspace) : RunOf i { workspace }
  | request {w : World} (req : Request) : RunOf i w → w.ChangedBy i req →
      RunOf i (w.request req).2

theorem reachable_of_runOf (h : RunOf i w) : w.Reachable := by
  induction h with
  | start workspace => exact .start workspace
  | request req _ _ ih => exact .request req ih

/-! ### The invariant -/

/-- The file of the session is where its path says, and holds its document. -/
def InSync (files : FileTree) (s : Session) : Prop :=
  ∀ path, s.path? = some path → path.base = files.base ∧ files.Straight path.location ∧
    files.textAt path.location = .ok s.document

/-- All open sessions of the registry are in sync with their files. -/
def Coherent (w : World) (i : Nat) : Prop :=
  ∀ o ∈ w.opened, o.registry = some i → o.session.closed = false →
    InSync w.workspace.files o.session

theorem inSync_congr {files : FileTree} {s s' : Session} (h : InSync files s)
    (hs : s'.source = s.source) (hd : s'.document = s.document) : InSync files s' := by
  intro path hpath
  rw [Session.path?, hs] at hpath
  rw [hd]
  exact h path hpath

/-- A session that keeps its file and its document stays in sync, and so do the others. -/
theorem coherent_setSession (h : w.Coherent i) (hn : w.Numbered) {o : Opened} (ho : o ∈ w.opened)
    {s : Session} (hid : s.id = o.session.id)
    (hclosed : s.closed = false → o.session.closed = false)
    (hsource : s.source = o.session.source)
    (hdocument : s.source ≠ .text → s.document = o.session.document) :
    (w.setSession s).Coherent i := by
  intro x hx hi hopen
  obtain ⟨y, hy, ⟨hyid, rfl⟩ | ⟨_, rfl⟩⟩ := mem_setSession hx
  · obtain rfl := hn.eq_of_id hy ho (hyid.trans hid)
    have hold := h y hy hi (hclosed hopen)
    intro path hpath
    have hfile : s.source ≠ .text := fun htext => by
      rw [Session.path?, htext] at hpath
      cases hpath
    exact inSync_congr hold hsource (hdocument hfile) path hpath
  · exact h x hy hi hopen

theorem path?_of_source {s : Session} {path : CanonicalPath} (h : s.source = .file path) :
    s.path? = some path := by
  rw [Session.path?, h]

/-- The file that a session has to itself may be written: the session has what it has written, and
    the files of the others are not this one. -/
theorem Coherent.write (h : w.Coherent i) (hl : w.Locked) {o : Opened} {path : CanonicalPath}
    {stored : String} {files : FileTree} (ho : o ∈ w.opened) (hi : o.registry = some i)
    (hopen : o.session.closed = false) (hwritable : o.session.isWritable = true)
    (hsource : o.session.source = .file path)
    (hwrite : (FileTree.writeAt path.location stored).run w.workspace.files = (.ok (), files)) :
    (setSession { w with workspace := { w.workspace with files } }
      { o.session.reset with document := stored }).Coherent i := by
  obtain ⟨hbase, hstraight, htext⟩ := h o ho hi hopen path (path?_of_source hsource)
  obtain rfl := hstraight.writeAt_ok hwrite
  have hno := FileTree.not_folder_of_textAt htext
  intro x hx hxi hxopen
  obtain ⟨y, hy, ⟨hyid, rfl⟩ | ⟨hyid, rfl⟩⟩ := mem_setSession hx
  · -- The writer: what it has stored is its document now.
    intro path' hpath'
    obtain rfl : path = path' := by
      have hpath : Session.path? { o.session.reset with document := stored } = some path :=
        path?_of_source hsource
      exact Option.some_inj.1 (hpath.symm.trans hpath')
    exact ⟨by rw [hbase]; exact (FileTree.base_put _ _ _).symm, hstraight.put hno _,
      FileTree.textAt_put_self _ (FileTree.ne_nil_of_textAt htext) stored⟩
  · intro path' hpath'
    obtain ⟨hbase', hstraight', htext'⟩ := h x hy hxi hxopen path' hpath'
    -- Two sessions on one location would be on one file, and then neither may write.
    have hne : path'.location ≠ path.location := fun hloc => by
      obtain rfl : path' = path := by
        cases path
        cases path'
        cases hloc
        rw [CanonicalPath.mk.injEq]
        exact ⟨hbase'.trans hbase.symm, rfl⟩
      have hread := hl.read_of_shared ho hy (Ne.symm hyid) hi hxi hopen hxopen
        (path?_of_source hsource) hpath'
      simp [Session.isWritable, hsource, hread] at hwritable
    exact ⟨by rw [hbase']; exact (FileTree.base_put _ _ _).symm, hstraight'.put hno _,
      (FileTree.textAt_put_of_ne _ hne _).trans htext'⟩

theorem Coherent.step (h : w.Coherent i) (hl : w.Locked) (hs : w.Step req w')
    (hc : w'.workspace.files = w.workspace.files ∨
      ∃ id fault o, req = .ask id (.commit fault) ∧ w.find? id = some o ∧
        o.registry = some i) : w'.Coherent i := by
  cases hs with
  | stay | unread => exact h
  | openText text =>
    intro x hx hi hopen
    rcases List.mem_append.1 hx with hx | hx
    · exact h x hx hi hopen
    · rw [List.mem_singleton.1 hx] at hi
      cases hi
  | @openFile j path mode file document hfile _ hdocument =>
    intro x hx hi hopen
    rcases List.mem_append.1 hx with hx | hx
    · exact h x hx hi hopen
    · rw [List.mem_singleton.1 hx]
      intro path' hpath'
      cases hpath'
      obtain ⟨hbase, hstraight⟩ := FileTree.straight_of_canonical hfile
      exact ⟨hbase, hstraight, hdocument⟩
  | @ask id op o s files hfind heffect _ =>
    obtain ⟨ho, rfl⟩ := of_find? hfind
    have hsame := heffect.sameRights
    cases heffect with
    | step hstep =>
      exact coherent_setSession h hl.numbered ho hsame.id (fun hopen => hsame.closed ▸ hopen)
        hsame.source fun _ => hstep.document
    | replace text hopen htext =>
      exact coherent_setSession h hl.numbered ho rfl (fun _ => hopen) rfl
        fun hfile => absurd htext hfile
    | write hopen _ hwritable hsource hwrite =>
      by_cases hi : o.registry = some i
      · exact h.write hl ho hi hopen hwritable hsource hwrite
      -- A session of another registry has written what was there.
      have hfiles : files = w.workspace.files := by
        rcases hc with hfiles | ⟨_, _, o', hreq, hfind', hi'⟩
        · exact hfiles
        · cases hreq
          rw [hfind] at hfind'
          cases hfind'
          exact absurd hi' hi
      subst hfiles
      intro x hx hxi hxopen
      obtain ⟨y, hy, ⟨hyid, rfl⟩ | ⟨_, rfl⟩⟩ := mem_setSession hx
      · obtain rfl := hl.numbered.eq_of_id hy ho hyid
        exact absurd hxi hi
      · exact h x hy hxi hxopen
  | close hfind _ _ _ =>
    obtain ⟨ho, rfl⟩ := of_find? hfind
    exact coherent_setSession h hl.numbered ho rfl (fun hopen => by cases hopen) rfl fun _ => rfl
  | grantWrite hfind _ _ _ _ =>
    obtain ⟨ho, rfl⟩ := of_find? hfind
    exact coherent_setSession h hl.numbered ho rfl (fun hopen => hopen) rfl fun _ => rfl
  | drop id =>
    intro x hx hi hopen
    obtain ⟨y, hy, rfl⟩ := List.mem_map.1 hx
    split at hi
    next hid => rw [if_pos hid] at hopen ⊢; exact h y hy hi hopen
    next hid => rw [if_neg hid] at hopen ⊢; exact h y hy hi hopen
  | disturb files =>
    rcases hc with hfiles | ⟨_, _, _, hreq, _⟩
    · subst hfiles
      exact h
    · cases hreq

theorem coherent_of_runOf (h : RunOf i w) : w.Coherent i := by
  induction h with
  | start => exact fun o ho => by cases ho
  | @request w req h hc ih =>
    have hl := locked_of_reachable (reachable_of_runOf h)
    exact ih.step hl (hl.numbered.step_request req) hc

/-! ### Who writes -/

/-- The session of the number may change the file, and is about to. -/
structure Writes (w : World) (id : SessionId) (path : CanonicalPath) (o : Opened) : Prop where
  found : w.find? id = some o
  opened : o.session.closed = false
  mode : o.session.mode = .readWrite
  active : o.session.phase = .active
  file : o.session.path? = some path
  /-- Its record is the only one of the file. -/
  alone : ∀ i, o.registry = some i →
    (w.registries i).locksOf path = [⟨id, .write⟩]

/-- Apart from what else there is in the system, only the commit of a session that has its file to
    itself changes files. -/
theorem writer_of_change (h : w.Reachable)
    (hchange : (w.request req).2.workspace.files ≠ w.workspace.files) :
    (∃ files, req = .disturb files) ∨
      ∃ id fault path o stored, req = .ask id (.commit fault) ∧ w.Writes id path o ∧
        (FileTree.writeAt path.location stored).run w.workspace.files =
          (.ok (), (w.request req).2.workspace.files) := by
  have hl := locked_of_reachable h
  have hs := hl.numbered.step_request req
  generalize (w.request req).2 = w' at hs hchange ⊢
  cases hs with
  | stay | unread | openText | openFile | close | grantWrite | drop => exact absurd rfl hchange
  | disturb files => exact .inl ⟨files, rfl⟩
  | @ask id op o s files hfind heffect hop =>
    obtain ⟨fault, rfl⟩ := hop hchange
    obtain ⟨ho, rfl⟩ := of_find? hfind
    cases heffect with
    | step | replace => exact absurd rfl hchange
    | @write path stored files' hopen hactive hwritable hsource hwrite =>
    have hmode : o.session.mode = .readWrite := by
      simpa [Session.isWritable, hsource] using hwritable
    have hpath := path?_of_source hsource
    exact .inr ⟨_, fault, path, o, stored, rfl, ⟨hfind, hopen, hmode, hactive, hpath,
      fun i hi => hl.alone ho hi hopen hpath hmode⟩, hwrite⟩

/-- What is asked of a session that is closed, or may only read, changes no file. -/
theorem files_of_reader (h : w.Reachable) {id : SessionId} {o : Opened}
    (hfind : w.find? id = some o) (ho : o.session.closed = true ∨ o.session.mode = .read)
    (hreq : req.session? = some id) :
    (w.request req).2.workspace.files = w.workspace.files := by
  by_contra hchange
  rcases writer_of_change h hchange with ⟨_, rfl⟩ | ⟨_, _, _, o', _, rfl, hwrites, _⟩
  · cases hreq
  · cases hreq
    have hfound := hwrites.found
    rw [hfind] at hfound
    cases hfound
    rcases ho with hclosed | hmode
    · rw [hwrites.opened] at hclosed
      cases hclosed
    · rw [hwrites.mode] at hmode
      cases hmode

/-- While only commits of the registry's sessions change files, every open session has what its
    file holds, and a file changes only when the session that has it to itself commits. -/
theorem coherence (h : w.RunOf i) :
    (∀ o ∈ w.opened, o.registry = some i → o.session.closed = false →
      ∀ path, o.session.path? = some path →
        w.workspace.files.textAt path.location = .ok o.session.document) ∧
    (∀ req loc, w.ChangedBy i req →
      (w.request req).2.workspace.files.get? loc ≠ w.workspace.files.get? loc →
      ∃ id fault path o, req = .ask id (.commit fault) ∧ o.registry = some i ∧
        w.Writes id path o ∧ loc = path.location) ∧
    ∀ req id o, req.session? = some id → w.find? id = some o →
      o.session.closed = true ∨ o.session.mode = .read →
      (w.request req).2.workspace.files = w.workspace.files := by
  have hr := reachable_of_runOf h
  have hcoherent := coherent_of_runOf h
  refine ⟨fun o ho hi hopen path hpath => (hcoherent o ho hi hopen path hpath).2.2,
    fun req loc hc hchange => ?_, fun req id o hreq hfind ho => files_of_reader hr hfind ho hreq⟩
  have hfiles : (w.request req).2.workspace.files ≠ w.workspace.files := fun hfiles =>
    hchange (by rw [hfiles])
  obtain ⟨_, _, o', hreq, hfind, hi⟩ := hc.resolve_left hfiles
  rcases writer_of_change hr hfiles with ⟨_, hreq'⟩ | ⟨id, fault, path, o, stored, hreq', hwrites,
    hwrite⟩
  · rw [hreq] at hreq'
    cases hreq'
  · rw [hreq] at hreq'
    cases hreq'
    have hfound := hwrites.found
    rw [hfind] at hfound
    cases hfound
    refine ⟨_, _, path, o', hreq, hi, hwrites, ?_⟩
    -- The file is where the session says, so nothing else has been written.
    obtain ⟨_, hstraight, _⟩ := hcoherent o' (of_find? hfind).1 hi hwrites.opened path hwrites.file
    by_contra hne
    refine hchange ?_
    rw [hstraight.writeAt_ok hwrite, FileTree.get?_put_of_ne _ hne]

/-- A session that has written its file. -/
theorem coherence_written : (solo "y" { writer "y" with generation := 1 }).RunOf 0 ∧
    (solo "y" { writer "y" with generation := 1 }).workspace.files.textAt ["a"] = .ok "y" := by
  have h₀ : (solo "x" (writer "x")).RunOf 0 := .request (.openFile 0 "a" .readWrite)
    (.start ⟨(solo "x" (writer "x")).workspace.files, 0⟩) (.inl rfl)
  have h₁ : (solo "x" ((writer "x").decompose [{ text := "x" }])).RunOf 0 :=
    .request (.ask ⟨1⟩ (.query .everything)) h₀ (.inl rfl)
  have h₂ : (solo "x" ((writer "x").decompose [{ text := "y" }])).RunOf 0 :=
    .request (.ask ⟨1⟩ (.edit (.setText ⟨⟨1⟩, 0, 0⟩ "y"))) h₁ (.inl rfl)
  have hcommit : ((solo "x" ((writer "x").decompose [{ text := "y" }])).request
      (.ask ⟨1⟩ (.commit none))).2 = solo "y" { writer "y" with generation := 1 } := rfl
  have h₃ : (solo "y" { writer "y" with generation := 1 }).RunOf 0 :=
    hcommit ▸ .request _ h₂ (.inr ⟨_, _, _, rfl, rfl, rfl⟩)
  exact ⟨h₃, (coherence h₃).1 _ (List.mem_singleton_self _) rfl rfl ⟨"/home", ["a"]⟩ rfl⟩

end World

end ScriptKeeper.Inspection
