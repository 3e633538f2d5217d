import ScriptKeeper.Proofs.Inspection.Registry

/-!
# Worlds

In a world there are any number of registries, the sessions that have been opened, and the files
that all of them work on. A world answers one request after another (`request`), in any order: from
any session and to any registry, whether it opened the session or not. A session that has been
dropped is asked nothing more, but goes on to hold its lock. Something else may change the files at
any time.

* `World.Step`: what one request, or a change of the files from outside, makes of a world;
* `World.Reachable`: the worlds that requests lead to from one in which nothing is open.
-/

namespace ScriptKeeper.Inspection

/-- A session that has been opened. -/
structure Opened where
  session : Session
  /-- The registry that opened it, if it inspects a file. -/
  registry : Option Nat := none
  /-- Nobody has the session any more. -/
  dropped : Bool := false

/-- The registries, the sessions, and what they share. -/
structure World where
  workspace : Workspace := {}
  registries : Nat → Registry := fun _ => {}
  opened : List Opened := []

/-- What can be asked of a world. -/
inductive Request
  | openText (text : String)
  | openFile (registry : Nat) (path : String) (mode : Mode)
  | ask (id : SessionId) (op : Operation)
  | close (registry : Nat) (id : SessionId)
  | grantWrite (registry : Nat) (id : SessionId)
  | drop (id : SessionId)
  /-- Something else leaves the files like this. -/
  | disturb (files : FileTree)

/-- The session that a request is about. -/
def Request.session? : Request → Option SessionId
  | .ask id _ | .close _ id | .grantWrite _ id | .drop id => some id
  | .openText _ | .openFile .. | .disturb _ => none

namespace World

/-- The session of a number, if it has not been dropped. -/
def find? (w : World) (id : SessionId) : Option Opened :=
  w.opened.find? fun o => o.session.id == id && !o.dropped

/-- The world with one session in another state. -/
def setSession (w : World) (s : Session) : World :=
  { w with opened := w.opened.map fun o =>
      if o.session.id = s.id then { o with session := s } else o }

/-- The world with one registry in another state. -/
def setRegistry (w : World) (i : Nat) (r : Registry) : World :=
  { w with registries := fun j => if j = i then r else w.registries j }

/-- The world with another session behind all others. -/
def addSession (w : World) (s : Session) (registry : Option Nat) : World :=
  { w with opened := w.opened ++ [{ session := s, registry }] }

/-- What a registry does with a session. With a session that nobody has, nothing is done. -/
def atRegistry (w : World) (i : Nat) (id : SessionId)
    (action : ExceptT InspectionError (StateM (Registry × Session)) Unit) :
    Except InspectionError Answer × World :=
  match w.find? id with
  | none => (.ok .done, w)
  | some o =>
    let (result, (r, s)) := action.run (w.registries i, o.session)
    (result.map fun _ => .done, (w.setRegistry i r).setSession s)

/-- The answer to a request, and the world after it. Of a session that nobody has, nothing is
    asked. -/
def request (w : World) : Request → Except InspectionError Answer × World
  | .openText text =>
    let (s, workspace) := w.workspace.openText text
    (.ok (.session s.id), { w with workspace }.addSession s none)
  | .openFile i path mode =>
    match (Registry.openFile path mode).run (w.registries i, w.workspace) with
    | (.ok s, (r, workspace)) =>
      (.ok (.session s.id), ({ w with workspace }.setRegistry i r).addSession s (some i))
    | (.error e, (r, workspace)) => (.error e, { w with workspace }.setRegistry i r)
  | .ask id op =>
    match w.find? id with
    | none => (.ok .done, w)
    | some o =>
      let (result, (s, files)) := op.perform.run (o.session, w.workspace.files)
      (result, { w with workspace := { w.workspace with files } }.setSession s)
  | .close i id => w.atRegistry i id Registry.close
  | .grantWrite i id => w.atRegistry i id Registry.grantWrite
  | .drop id =>
    (.ok .done, { w with opened := w.opened.map fun o =>
      if o.session.id = id then { o with dropped := true } else o })
  | .disturb files => (.ok .done, { w with workspace := { w.workspace with files } })

/-- The worlds that requests lead to. -/
inductive Reachable : World → Prop
  | start (workspace : Workspace) : Reachable { workspace }
  | request {w : World} (req : Request) : Reachable w → Reachable (w.request req).2

/-! ### Steps -/

/-- What can happen to a world in a request. -/
inductive Step (w : World) : Request → World → Prop
  | stay (req : Request) : Step w req w
  /-- A file that is found, but cannot be read, takes a number. -/
  | unread (i : Nat) (path : String) (mode : Mode) :
      Step w (.openFile i path mode) { w with workspace := w.workspace.takeId }
  | openText (text : String) : Step w (.openText text)
      ({ w with workspace := w.workspace.takeId }.addSession (.ofText w.workspace.nextId text) none)
  | openFile {i : Nat} {path : String} {mode : Mode} {file : CanonicalPath} {document : String} :
      w.workspace.files.canonical path = .ok file →
      Lock.refusal ((w.registries i).locksOf file) mode.lock = none →
      w.workspace.files.textAt file.location = .ok document →
      Step w (.openFile i path mode)
        (({ w with workspace := w.workspace.takeId }.setRegistry i ((w.registries i).setLocks file
          ((w.registries i).locksOf file ++ [Lock.mk w.workspace.nextId mode.lock]))).addSession
            (.start w.workspace.nextId (.file file) mode document) (some i))
  | ask {id : SessionId} {op : Operation} {o : Opened} {s : Session} {files : FileTree} :
      w.find? id = some o → Effect o.session w.workspace.files s files →
      (files ≠ w.workspace.files → ∃ fault, op = .commit fault) →
      Step w (.ask id op) ({ w with workspace := { w.workspace with files } }.setSession s)
  | close {i : Nat} {id : SessionId} {o : Opened} {path : CanonicalPath} :
      w.find? id = some o → o.session.closed = false → o.session.path? = some path →
      (∃ l ∈ (w.registries i).locksOf path, l.session = id) →
      Step w (.close i id) ((w.setRegistry i ((w.registries i).setLocks path
        (Lock.others id ((w.registries i).locksOf path)))).setSession o.session.close)
  | grantWrite {i : Nat} {id : SessionId} {o : Opened} {path : CanonicalPath} :
      w.find? id = some o → o.session.closed = false → o.session.path? = some path →
      Lock.others id ((w.registries i).locksOf path) = [] →
      (∃ l ∈ (w.registries i).locksOf path, l.session = id) →
      Step w (.grantWrite i id) ((w.setRegistry i ((w.registries i).setLocks path
        (Lock.raise id ((w.registries i).locksOf path)))).setSession o.session.upgraded)
  | drop (id : SessionId) : Step w (.drop id)
      { w with opened := w.opened.map fun o =>
        if o.session.id = id then { o with dropped := true } else o }
  | disturb (files : FileTree) : Step w (.disturb files)
      { w with workspace := { w.workspace with files } }

variable {w : World}

/-- The numbers of the sessions. -/
def ids (w : World) : List SessionId := w.opened.map fun o => o.session.id

/-- The sessions have different numbers, all of which have been counted. -/
structure Numbered (w : World) : Prop where
  nodup : w.ids.Nodup
  counted : ∀ id ∈ w.ids, id.number ≤ w.workspace.sessions

theorem of_find? {id : SessionId} {o : Opened} (h : w.find? id = some o) :
    o ∈ w.opened ∧ o.session.id = id := by
  have hid := List.find?_some h
  rw [Bool.and_eq_true, beq_iff_eq] at hid
  exact ⟨List.mem_of_find?_eq_some h, hid.1⟩

/-- A session is told by its number. -/
theorem Numbered.eq_of_id (h : w.Numbered) {o o' : Opened} (ho : o ∈ w.opened)
    (ho' : o' ∈ w.opened) (hid : o.session.id = o'.session.id) : o = o' :=
  List.inj_on_of_nodup_map h.nodup ho ho' hid

@[simp] theorem setRegistry_self (w : World) (i : Nat) : w.setRegistry i (w.registries i) = w := by
  have hsame : (fun j => if j = i then w.registries i else w.registries j) = w.registries := by
    funext j
    split
    next h => rw [h]
    next => rfl
  rw [setRegistry, hsame]

/-- Setting a session to the state that it has changes nothing. -/
theorem Numbered.setSession_self (h : w.Numbered) {o : Opened} (ho : o ∈ w.opened) :
    w.setSession o.session = w := by
  have hsame : (w.opened.map fun x =>
      if x.session.id = o.session.id then { x with session := o.session } else x) = w.opened := by
    rw [List.map_congr_left (g := fun x => x), List.map_id']
    intro x hx
    split
    next hid => rw [h.eq_of_id hx ho hid]
    next => rfl
  rw [setSession, hsame]

/-- The sessions of a world in which one has changed. -/
theorem mem_setSession {s : Session} {x : Opened} (h : x ∈ (w.setSession s).opened) :
    ∃ y ∈ w.opened, (y.session.id = s.id ∧ x = { y with session := s }) ∨
      (y.session.id ≠ s.id ∧ x = y) := by
  obtain ⟨y, hy, rfl⟩ := List.mem_map.1 h
  refine ⟨y, hy, ?_⟩
  split
  next hid => exact .inl ⟨hid, rfl⟩
  next hid => exact .inr ⟨hid, rfl⟩

theorem mem_setSession_self {o : Opened} (ho : o ∈ w.opened) {s : Session}
    (hs : s.id = o.session.id) : { o with session := s } ∈ (w.setSession s).opened :=
  List.mem_map.2 ⟨o, ho, if_pos hs.symm⟩

theorem mem_setSession_of_ne {o : Opened} (ho : o ∈ w.opened) {s : Session}
    (hs : o.session.id ≠ s.id) : o ∈ (w.setSession s).opened :=
  List.mem_map.2 ⟨o, ho, if_neg hs⟩

theorem files_perform {op : Operation} (h : ∀ fault, op ≠ .commit fault) (s : Session)
    (files : FileTree) : (op.perform.run (s, files)).2.2 = files := by
  cases op with
  | changeSettings | query | edit | setEverything =>
    rw [Operation.perform, run_bind_pure, run_filed]
  | look | cancel => rfl
  | commit fault => exact absurd rfl (h fault)

theorem step_openFile (w : World) (i : Nat) (path : String) (mode : Mode) :
    w.Step (.openFile i path mode) (w.request (.openFile i path mode)).2 := by
  -- As long as nothing is opened, the registry is put back as it was.
  have hstay : w.Step (.openFile i path mode) (w.setRegistry i (w.registries i)) := by
    rw [setRegistry_self]
    exact .stay _
  have hrun := Registry.run_openFile (w.registries i) w.workspace path mode
  rw [request]
  split at hrun
  next => rw [hrun]; exact hstay
  next =>
  split at hrun
  next => rw [hrun]; exact hstay
  next file hfile =>
  split at hrun
  next => rw [hrun]; exact hstay
  next hrefusal =>
  split at hrun
  next =>
    rw [hrun]
    have hunread := Step.unread (w := w) i path mode
    rwa [← setRegistry_self { w with workspace := w.workspace.takeId } i] at hunread
  next document hdocument =>
    rw [hrun]
    exact .openFile hfile hrefusal hdocument

theorem step_ask (w : World) (id : SessionId) (op : Operation) :
    w.Step (.ask id op) (w.request (.ask id op)).2 := by
  rw [request]
  cases ho : w.find? id with
  | none => exact .stay _
  | some o =>
    refine .ask ho (effect_perform op _ _) fun hchange => ?_
    by_contra hop
    exact hchange (files_perform (fun fault hr => hop ⟨fault, hr⟩) _ _)

/-- Nothing happens if the registry and the session are put back as they were. -/
theorem Numbered.step_self (h : w.Numbered) {o : Opened} (hmem : o ∈ w.opened) (req : Request)
    (i : Nat) : w.Step req ((w.setRegistry i (w.registries i)).setSession o.session) := by
  rw [setRegistry_self, h.setSession_self hmem]
  exact .stay req

theorem Numbered.step_close (h : w.Numbered) (i : Nat) (id : SessionId) :
    w.Step (.close i id) (w.request (.close i id)).2 := by
  rw [request, atRegistry]
  cases ho : w.find? id with
  | none => exact .stay _
  | some o =>
  obtain ⟨hmem, rfl⟩ := of_find? ho
  have hstay := h.step_self hmem (.close i o.session.id) i
  have hrun := Registry.run_close (w.registries i) o.session
  dsimp only
  split at hrun
  next => rw [hrun]; exact hstay
  next hopen =>
  split at hrun
  next => rw [hrun]; exact hstay
  next path hpath =>
  split at hrun
  next hany =>
    rw [hrun]
    exact .close ho (by simpa using hopen) hpath (by simpa using hany)
  next => rw [hrun]; exact hstay

theorem Numbered.step_grantWrite (h : w.Numbered) (i : Nat) (id : SessionId) :
    w.Step (.grantWrite i id) (w.request (.grantWrite i id)).2 := by
  rw [request, atRegistry]
  cases ho : w.find? id with
  | none => exact .stay _
  | some o =>
  obtain ⟨hmem, rfl⟩ := of_find? ho
  have hstay := h.step_self hmem (.grantWrite i o.session.id) i
  have hrun := Registry.run_grantWrite (w.registries i) o.session
  dsimp only
  split at hrun
  next => rw [hrun]; exact hstay
  next hopen =>
  split at hrun
  next => rw [hrun]; exact hstay
  next =>
  split at hrun
  next => rw [hrun]; exact hstay
  next path hpath =>
  split at hrun
  next => rw [hrun]; exact hstay
  next hothers =>
  split at hrun
  next hany =>
    rw [hrun]
    exact .grantWrite ho (by simpa using hopen) hpath (Lock.strongest_eq_none_iff.1 hothers)
      (by simpa using hany)
  next => rw [hrun]; exact hstay

/-- Every request is a step. -/
theorem Numbered.step_request (h : w.Numbered) (req : Request) : w.Step req (w.request req).2 := by
  cases req with
  | openText text => exact .openText text
  | openFile i path mode => exact w.step_openFile i path mode
  | ask id op => exact w.step_ask id op
  | close i id => exact h.step_close i id
  | grantWrite i id => exact h.step_grantWrite i id
  | drop id => exact .drop id
  | disturb files => exact .disturb files

/-! ### Numbers -/

@[simp] theorem ids_setSession (w : World) (s : Session) : (w.setSession s).ids = w.ids := by
  rw [ids, setSession, List.map_map]
  refine List.map_congr_left fun o _ => ?_
  by_cases hid : o.session.id = s.id <;> simp [hid]

@[simp] theorem ids_addSession (w : World) (s : Session) (registry : Option Nat) :
    (w.addSession s registry).ids = w.ids ++ [s.id] := by
  rw [ids, addSession, List.map_append]
  rfl

theorem Numbered.nextId_not_mem (h : w.Numbered) : w.workspace.nextId ∉ w.ids := fun hmem =>
  Nat.not_succ_le_self _ (h.counted _ hmem)

/-- A new session gets a number of its own. -/
theorem Numbered.add (h : w.Numbered) :
    (w.ids ++ [w.workspace.nextId]).Nodup ∧
      ∀ id ∈ w.ids ++ [w.workspace.nextId], id.number ≤ w.workspace.takeId.sessions := by
  constructor
  · rw [List.nodup_append]
    refine ⟨h.nodup, by simp, fun id hid id' hid' => ?_⟩
    rw [List.mem_singleton.1 hid']
    rintro rfl
    exact h.nextId_not_mem hid
  · intro id hid
    rcases List.mem_append.1 hid with hid | hid
    · exact Nat.le_succ_of_le (h.counted id hid)
    · rw [List.mem_singleton.1 hid]
      exact Nat.le_refl _

theorem Numbered.step {w' : World} {req : Request} (h : w.Numbered) (hs : w.Step req w') :
    w'.Numbered := by
  cases hs with
  | stay | disturb => exact ⟨h.nodup, h.counted⟩
  | unread => exact ⟨h.nodup, fun id hid => Nat.le_succ_of_le (h.counted id hid)⟩
  | openText | openFile =>
    have hadd := h.add
    refine ⟨?_, ?_⟩ <;> rw [ids_addSession]
    · exact hadd.1
    · exact hadd.2
  | ask | close | grantWrite =>
    refine ⟨?_, ?_⟩ <;> rw [ids_setSession]
    · exact h.nodup
    · exact h.counted
  | drop id =>
    have hsame : ids { w with opened := w.opened.map fun o =>
        if o.session.id = id then { o with dropped := true } else o } = w.ids := by
      rw [ids, List.map_map]
      refine List.map_congr_left fun o _ => ?_
      by_cases hid : o.session.id = id <;> simp [hid]
    refine ⟨?_, ?_⟩ <;> rw [hsame]
    · exact h.nodup
    · exact h.counted

theorem numbered_of_reachable (h : w.Reachable) : w.Numbered := by
  induction h with
  | start => exact ⟨.nil, fun _ h => by cases h⟩
  | request req _ ih => exact ih.step (ih.step_request req)

/-! ### A session with a file to itself -/

/-- A session that has just been opened to write a file of the given content. -/
def writer (content : String) : Session := .start ⟨1⟩ (.file ⟨"/home", ["a"]⟩) .readWrite content

/-- The world in which the only file has the given content, and the session to itself. -/
def solo (content : String) (s : Session) : World where
  workspace := ⟨{ base := "/home", entries := [(["a"], .file (.text content))] }, 1⟩
  registries i := if i = 0 then ⟨[(⟨"/home", ["a"]⟩, [⟨⟨1⟩, .write⟩])]⟩ else {}
  opened := [{ session := s, registry := some 0 }]

end World

end ScriptKeeper.Inspection
