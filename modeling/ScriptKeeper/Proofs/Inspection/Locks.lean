import ScriptKeeper.Proofs.Inspection.World

/-!
# Locks are those of the open sessions

The table of a registry and the sessions themselves are two accounts of who holds a file. They
agree in every world that can be reached (`Locked`): the locks on a file are those that the open
sessions of the registry should hold, in the order in which these were opened. So what the registry
checks against the table holds of the sessions, and no session writes a file that another one has
open.

* `locksHeld`: the locks that the sessions should hold;
* `locked_of_reachable`: the two accounts agree;
* `lockTable_of_reachable`: what this says of the table, of the sessions, and of who is refused.
-/

namespace ScriptKeeper.Inspection

/-- The lock of a session on a file in a registry. -/
def Opened.lock? (o : Opened) (i : Nat) (path : CanonicalPath) : Option Lock :=
  if o.registry = some i ∧ o.session.closed = false ∧ o.session.path? = some path then
    some ⟨o.session.id, o.session.mode.lock⟩
  else none

theorem Opened.lock?_eq_some_iff {o : Opened} {i : Nat} {path : CanonicalPath} {l : Lock} :
    o.lock? i path = some l ↔ o.registry = some i ∧ o.session.closed = false ∧
      o.session.path? = some path ∧ l = ⟨o.session.id, o.session.mode.lock⟩ := by
  rw [lock?]
  split
  next h => simp [h, eq_comm]
  next h => simp only [reduceCtorEq, false_iff]; tauto

namespace World

variable {w w' : World} {i j : Nat} {path : CanonicalPath}

/-- The locks of the open sessions on a file. -/
def locksHeld (w : World) (i : Nat) (path : CanonicalPath) : List Lock :=
  w.opened.filterMap fun o => o.lock? i path

theorem mem_locksHeld {l : Lock} : l ∈ w.locksHeld i path ↔
    ∃ o ∈ w.opened, o.registry = some i ∧ o.session.closed = false ∧
      o.session.path? = some path ∧ l = ⟨o.session.id, o.session.mode.lock⟩ := by
  simp only [locksHeld, List.mem_filterMap, Opened.lock?_eq_some_iff]

/-- A session has one lock on a file at most. -/
theorem Numbered.nodup_locksHeld (h : w.Numbered) (i : Nat) (path : CanonicalPath) :
    ((w.locksHeld i path).map Lock.session).Nodup := by
  refine h.nodup.sublist ?_
  rw [locksHeld, ids, List.map_filterMap]
  induction w.opened with
  | nil => exact .slnil
  | cons o os ih =>
    rw [List.filterMap_cons, List.map_cons]
    cases ho : o.lock? i path with
    | none => exact ih.cons _
    | some l =>
      rw [(Opened.lock?_eq_some_iff.1 ho).2.2.2]
      exact ih.cons_cons _

/-- The lock of a session is where the session is. -/
theorem Numbered.lock?_eq_some (h : w.Numbered) {o : Opened} (ho : o ∈ w.opened) {l : Lock}
    (hl : l ∈ w.locksHeld i path) (hid : l.session = o.session.id) : o.lock? i path = some l := by
  obtain ⟨o', ho', hlock⟩ := List.mem_filterMap.1 hl
  have hid' := (Opened.lock?_eq_some_iff.1 hlock).2.2.2
  rw [hid'] at hid
  rwa [h.eq_of_id ho ho' hid.symm]

/-! ### Locks after a step -/

theorem locksHeld_addSession (w : World) (s : Session) (registry : Option Nat) :
    (w.addSession s registry).locksHeld i path = w.locksHeld i path ++
      (Opened.lock? { session := s, registry } i path).toList := by
  rw [locksHeld, addSession, List.filterMap_append, locksHeld]
  cases ho : Opened.lock? { session := s, registry } i path <;> simp [ho]

/-- What happens to the lock of one session happens to the locks held. -/
theorem Numbered.locksHeld_setSession (h : w.Numbered) {o : Opened} (ho : o ∈ w.opened)
    {s : Session} (hid : s.id = o.session.id) {f : Lock → Option Lock}
    (hf : ∀ l, l.session ≠ o.session.id → f l = some l)
    (hs : Opened.lock? { o with session := s } i path = (o.lock? i path).bind f) :
    (w.setSession s).locksHeld i path = (w.locksHeld i path).filterMap f := by
  rw [locksHeld, setSession, List.filterMap_map, locksHeld, List.filterMap_filterMap]
  refine List.filterMap_congr fun x hx => ?_
  rw [Function.comp_apply, hid]
  by_cases hxo : x.session.id = o.session.id
  · obtain rfl := h.eq_of_id hx ho hxo
    rw [if_pos rfl, hs]
  · rw [if_neg hxo]
    cases hl : x.lock? i path with
    | none => rfl
    | some l =>
      have hsession : l.session = x.session.id := by rw [(Opened.lock?_eq_some_iff.1 hl).2.2.2]
      rw [Option.bind_some, hf l (by rwa [hsession])]

/-- A session that keeps its rights keeps its locks. -/
theorem Numbered.locksHeld_sameRights (h : w.Numbered) {o : Opened} (ho : o ∈ w.opened)
    {s : Session} (hs : o.session.SameRights s) :
    (w.setSession s).locksHeld i path = w.locksHeld i path := by
  rw [h.locksHeld_setSession ho hs.id (f := some) (fun _ _ => rfl), List.filterMap_some]
  rw [Option.bind_fun_some, Opened.lock?, Opened.lock?, Session.path?, Session.path?, hs.id,
    hs.source, hs.mode, hs.closed]

/-- A session that is closed gives its locks back. -/
theorem Numbered.locksHeld_close (h : w.Numbered) {o : Opened} (ho : o ∈ w.opened) :
    (w.setSession o.session.close).locksHeld i path =
      Lock.others o.session.id (w.locksHeld i path) := by
  rw [Lock.others, ← List.filterMap_eq_filter]
  refine h.locksHeld_setSession (s := o.session.close) ho rfl
    (fun l hl => by simpa [Option.guard] using hl) ?_
  rw [Opened.lock?, if_neg (by simp [Session.close])]
  cases hl : o.lock? i path with
  | none => rfl
  | some l =>
    rw [(Opened.lock?_eq_some_iff.1 hl).2.2.2]
    simp [Option.guard]

/-- A session that may write from now on has its locks raised. -/
theorem Numbered.locksHeld_upgrade (h : w.Numbered) {o : Opened} (ho : o ∈ w.opened) :
    (w.setSession o.session.upgraded).locksHeld i path =
      Lock.raise o.session.id (w.locksHeld i path) := by
  rw [Lock.raise, ← List.filterMap_eq_map]
  refine h.locksHeld_setSession (s := o.session.upgraded) ho rfl (fun l hl => ?_) ?_
  · rw [Function.comp_apply, if_neg (by simpa using hl)]
  · show (if o.registry = some i ∧ o.session.closed = false ∧ o.session.path? = some path then
      some (Lock.mk o.session.id .write) else none) = _
    rw [Opened.lock?]
    split <;> simp

/-! ### The invariant -/

/-- Every table is tidy, has the locks of the open sessions, and these go together. -/
structure Locked (w : World) : Prop where
  numbered : w.Numbered
  tidy : ∀ i, (w.registries i).Tidy
  locks : ∀ i path, (w.registries i).locksOf path = w.locksHeld i path
  compatible : ∀ i path, Lock.Compatible (w.locksHeld i path)
  onFile : ∀ o ∈ w.opened, o.registry ≠ none → ∃ path, o.session.path? = some path

theorem tidy_setRegistry {r : Registry} (h : ∀ i, (w.registries i).Tidy) (hr : r.Tidy) (i j : Nat) :
    ((w.setRegistry i r).registries j).Tidy := by
  rw [setRegistry]
  dsimp only
  split
  · exact hr
  · exact h j

theorem onFile_setSession {s : Session} {o : Opened} (h : w.Locked) (ho : o ∈ w.opened)
    (hid : s.id = o.session.id) (hs : s.source = o.session.source)
    (hw : w'.opened = (w.setSession s).opened) :
    ∀ x ∈ w'.opened, x.registry ≠ none → ∃ path, x.session.path? = some path := by
  intro x hx hregistry
  rw [hw] at hx
  obtain ⟨y, hy, rfl⟩ := List.mem_map.1 hx
  by_cases hyid : y.session.id = s.id
  · obtain rfl := h.numbered.eq_of_id hy ho (hyid.trans hid)
    rw [if_pos hyid] at hregistry ⊢
    rw [Session.path?, hs]
    exact h.onFile y hy hregistry
  · rw [if_neg hyid] at hregistry ⊢
    exact h.onFile y hy hregistry

/-- A registry that changes the locks of one session, on the file that it holds, changes them
    everywhere. -/
theorem Locked.locksOf_setLocks (h : w.Locked) {o : Opened} (ho : o ∈ w.opened)
    (hlock : ∃ l ∈ (w.registries i).locksOf path, l.session = o.session.id)
    {f : List Lock → List Lock}
    (hf : ∀ locks, (∀ l ∈ locks, l.session ≠ o.session.id) → f locks = locks) (j : Nat)
    (other : CanonicalPath) :
    (((w.setRegistry i ((w.registries i).setLocks path
      (f ((w.registries i).locksOf path)))).registries j).locksOf other) =
        f (w.locksHeld j other) := by
  obtain ⟨l, hl, hid⟩ := hlock
  rw [h.locks] at hl
  have hhere := Opened.lock?_eq_some_iff.1 (h.numbered.lock?_eq_some ho hl hid)
  -- Where the session is not, there is nothing to change.
  have hother (hne : ¬(j = i ∧ other = path)) : f (w.locksHeld j other) = w.locksHeld j other := by
    refine hf _ fun l' hl' hid' => hne ?_
    have hthere := Opened.lock?_eq_some_iff.1 (h.numbered.lock?_eq_some ho hl' hid')
    exact ⟨Option.some_inj.1 (hthere.1.symm.trans hhere.1),
      Option.some_inj.1 (hthere.2.2.1.symm.trans hhere.2.2.1)⟩
  rw [setRegistry]
  dsimp only
  split
  next hj =>
    rw [hj] at hother ⊢
    by_cases hpath : other = path
    · rw [hpath, Registry.locksOf_setLocks_self, h.locks]
    · rw [Registry.locksOf_setLocks_of_ne _ hpath, h.locks, hother (by simp [hpath])]
  next hj => rw [h.locks, hother (by simp [hj])]

theorem lock?_start (i j : Nat) (id : SessionId) (file path : CanonicalPath) (mode : Mode)
    (document : String) :
    Opened.lock? { session := .start id (.file file) mode document, registry := some i } j path =
      if j = i ∧ path = file then some ⟨id, mode.lock⟩ else none := by
  simp only [Opened.lock?, Session.start, Session.path?, Option.some_inj, true_and,
    eq_comm (a := i), eq_comm (a := file)]

/-- A file is opened with a lock that goes together with those on it. -/
theorem Locked.openFile {mode : Mode} {file : CanonicalPath} {document : String} (h : w.Locked)
    (hn : w'.Numbered)
    (hw : w' = ({ w with workspace := w.workspace.takeId }.setRegistry i
      ((w.registries i).setLocks file ((w.registries i).locksOf file ++
        [Lock.mk w.workspace.nextId mode.lock]))).addSession
          (.start w.workspace.nextId (.file file) mode document) (some i))
    (hrefusal : Lock.refusal ((w.registries i).locksOf file) mode.lock = none) : w'.Locked := by
  have hheld j path : w'.locksHeld j path = w.locksHeld j path ++
      (if j = i ∧ path = file then some (Lock.mk w.workspace.nextId mode.lock)
        else none).toList := by
    rw [hw, locksHeld_addSession, lock?_start]
    rfl
  refine ⟨hn, fun j => ?_, fun j path => ?_, fun j path => ?_, fun o ho hregistry => ?_⟩
  · rw [hw]
    exact tidy_setRegistry h.tidy ((h.tidy i).setLocks _ _) i j
  · -- In the table as among the sessions, the new lock comes last on its file.
    rw [hheld, ← h.locks, hw, addSession, setRegistry]
    dsimp only
    by_cases hj : j = i
    · rw [hj, if_pos rfl]
      by_cases hpath : path = file
      · rw [hpath, Registry.locksOf_setLocks_self, if_pos ⟨rfl, rfl⟩]
        rfl
      · rw [Registry.locksOf_setLocks_of_ne _ hpath, if_neg (by simp [hpath])]
        exact (List.append_nil _).symm
    · rw [if_neg hj, if_neg (by simp [hj])]
      exact (List.append_nil _).symm
  · rw [hheld]
    by_cases hhere : j = i ∧ path = file
    · obtain ⟨rfl, rfl⟩ := hhere
      rw [if_pos ⟨rfl, rfl⟩, ← h.locks]
      exact Lock.compatible_append hrefusal
    · rw [if_neg hhere]
      simpa using h.compatible j path
  · rw [hw] at ho
    rcases List.mem_append.1 ho with ho | ho
    · exact h.onFile o ho hregistry
    · rw [List.mem_singleton.1 ho]
      exact ⟨file, rfl⟩

/-- A session that is closed gives back its lock. -/
theorem Locked.close {o : Opened} (h : w.Locked) (ho : o ∈ w.opened)
    (hlock : ∃ l ∈ (w.registries i).locksOf path, l.session = o.session.id)
    (hw : w' = (w.setRegistry i ((w.registries i).setLocks path
      (Lock.others o.session.id ((w.registries i).locksOf path)))).setSession o.session.close)
    (hn : w'.Numbered) : w'.Locked := by
  have hheld j other : w'.locksHeld j other = Lock.others o.session.id (w.locksHeld j other) := by
    rw [hw, ← h.numbered.locksHeld_close ho]
    rfl
  refine ⟨hn, fun j => ?_, fun j other => ?_, fun j other => ?_, ?_⟩
  · rw [hw]
    exact tidy_setRegistry h.tidy ((h.tidy i).setLocks _ _) i j
  · rw [hheld, hw]
    exact h.locksOf_setLocks ho hlock (fun _ => Lock.others_eq_self) j other
  · rw [hheld]
    exact (h.compatible j other).others _
  · exact onFile_setSession (s := o.session.close) h ho rfl rfl (by rw [hw]; rfl)

/-- A session that is alone with its file may write it. -/
theorem Locked.grantWrite {o : Opened} (h : w.Locked) (ho : o ∈ w.opened)
    (hlock : ∃ l ∈ (w.registries i).locksOf path, l.session = o.session.id)
    (hothers : Lock.others o.session.id ((w.registries i).locksOf path) = [])
    (hw : w' = (w.setRegistry i ((w.registries i).setLocks path
      (Lock.raise o.session.id ((w.registries i).locksOf path)))).setSession o.session.upgraded)
    (hn : w'.Numbered) : w'.Locked := by
  have hheld j other : w'.locksHeld j other = Lock.raise o.session.id (w.locksHeld j other) := by
    rw [hw, ← h.numbered.locksHeld_upgrade ho]
    rfl
  refine ⟨hn, fun j => ?_, fun j other => ?_, fun j other => ?_, ?_⟩
  · rw [hw]
    exact tidy_setRegistry h.tidy ((h.tidy i).setLocks _ _) i j
  · rw [hheld, hw]
    exact h.locksOf_setLocks ho hlock (fun _ => Lock.raise_eq_self) j other
  · rw [hheld]
    -- The only locks that change are those of the file on which the session is alone.
    by_cases hhere : ∃ l ∈ w.locksHeld j other, l.session = o.session.id
    · obtain ⟨l, hl, hid⟩ := hlock
      obtain ⟨l', hl', hid'⟩ := hhere
      rw [h.locks] at hl
      have hi := Opened.lock?_eq_some_iff.1 (h.numbered.lock?_eq_some ho hl hid)
      have hj := Opened.lock?_eq_some_iff.1 (h.numbered.lock?_eq_some ho hl' hid')
      obtain rfl : i = j := Option.some_inj.1 (hi.1.symm.trans hj.1)
      obtain rfl : path = other := Option.some_inj.1 (hi.2.2.1.symm.trans hj.2.2.1)
      rw [h.locks] at hothers
      exact Lock.compatible_raise (h.numbered.nodup_locksHeld i path) hothers
    · rw [Lock.raise_eq_self (by simpa using hhere)]
      exact h.compatible j other
  · exact onFile_setSession (s := o.session.upgraded) h ho rfl rfl (by rw [hw]; rfl)

theorem Locked.step {req : Request} (h : w.Locked) (hs : w.Step req w') : w'.Locked := by
  have hn := h.numbered.step hs
  cases hs with
  | stay | unread | disturb => exact ⟨hn, h.tidy, h.locks, h.compatible, h.onFile⟩
  | openText text =>
    have hheld j path : locksHeld ({ w with workspace := w.workspace.takeId }.addSession
        (.ofText w.workspace.nextId text) none) j path = w.locksHeld j path := by
      rw [locksHeld_addSession, Opened.lock?, if_neg (by simp)]
      exact List.append_nil _
    refine ⟨hn, h.tidy, fun j path => ?_, fun j path => ?_, fun o ho hregistry => ?_⟩
    · rw [hheld]; exact h.locks j path
    · rw [hheld]; exact h.compatible j path
    · rcases List.mem_append.1 ho with ho | ho
      · exact h.onFile o ho hregistry
      · rw [List.mem_singleton.1 ho] at hregistry
        exact absurd rfl hregistry
  | openFile _ hrefusal _ => exact h.openFile hn rfl hrefusal
  | @ask id op o s files hfind heffect _ =>
    obtain ⟨ho, _⟩ := of_find? hfind
    have hsame := heffect.sameRights
    have hheld j path : locksHeld (setSession { w with workspace := { w.workspace with files } } s)
        j path = w.locksHeld j path := by
      rw [← h.numbered.locksHeld_sameRights ho hsame]
      rfl
    refine ⟨hn, h.tidy, fun j path => ?_, fun j path => ?_, ?_⟩
    · rw [hheld]; exact h.locks j path
    · rw [hheld]; exact h.compatible j path
    · exact onFile_setSession h ho hsame.id hsame.source rfl
  | close hfind _ _ hlock =>
    obtain ⟨ho, rfl⟩ := of_find? hfind
    exact h.close ho hlock rfl hn
  | grantWrite hfind _ _ hothers hlock =>
    obtain ⟨ho, rfl⟩ := of_find? hfind
    exact h.grantWrite ho hlock hothers rfl hn
  | drop id =>
    have hheld j path : locksHeld { w with opened := w.opened.map fun o =>
        if o.session.id = id then { o with dropped := true } else o } j path =
          w.locksHeld j path := by
      rw [locksHeld, List.filterMap_map, locksHeld]
      refine List.filterMap_congr fun o _ => ?_
      rw [Function.comp_apply]
      split <;> rfl
    refine ⟨hn, h.tidy, fun j path => ?_, fun j path => ?_, fun o ho hregistry => ?_⟩
    · rw [hheld]; exact h.locks j path
    · rw [hheld]; exact h.compatible j path
    · obtain ⟨x, hx, rfl⟩ := List.mem_map.1 ho
      split at hregistry
      next hid => rw [if_pos hid]; exact h.onFile x hx hregistry
      next hid => rw [if_neg hid]; exact h.onFile x hx hregistry

theorem locked_of_reachable (h : w.Reachable) : w.Locked := by
  induction h with
  | start =>
    exact ⟨⟨.nil, fun _ h => by cases h⟩, fun _ => Registry.tidy_empty, fun _ _ => rfl,
      fun _ _ => .inl fun _ h => (by cases h), fun _ h => (by cases h)⟩
  | request req _ ih => exact ih.step (ih.numbered.step_request req)

/-! ### Who holds a file -/

theorem Locked.mem_records (h : w.Locked) {l : Lock} : (path, l) ∈ (w.registries i).records ↔
    ∃ o ∈ w.opened, o.registry = some i ∧ o.session.closed = false ∧
      o.session.path? = some path ∧ l = ⟨o.session.id, o.session.mode.lock⟩ := by
  rw [Registry.mem_records (h.tidy i), h.locks, mem_locksHeld]

/-- A session has one record at most. -/
theorem Locked.nodup_records (h : w.Locked) (i : Nat) :
    ((w.registries i).records.map fun x => x.2.session).Nodup := by
  refine Registry.nodup_records (h.tidy i) (fun path => ?_) fun p q l l' hl hl' hid => ?_
  · rw [h.locks]
    exact h.numbered.nodup_locksHeld i path
  · rw [h.locks] at hl hl'
    obtain ⟨o, ho, _, _, hp, rfl⟩ := mem_locksHeld.1 hl
    have hlock := Opened.lock?_eq_some_iff.1 (h.numbered.lock?_eq_some ho hl' hid.symm)
    exact Option.some_inj.1 (hp.symm.trans hlock.2.2.1)

/-- An open session has exactly one record. -/
theorem Locked.filter_records (h : w.Locked) {o : Opened} (ho : o ∈ w.opened)
    (hi : o.registry = some i) (hopen : o.session.closed = false)
    (hpath : o.session.path? = some path) :
    (w.registries i).records.filter (fun x => x.2.session = o.session.id) =
      [(path, ⟨o.session.id, o.session.mode.lock⟩)] := by
  have hmem := h.mem_records.2 ⟨o, ho, hi, hopen, hpath, rfl⟩
  obtain ⟨l₁, l₂, hl⟩ := List.append_of_mem hmem
  have hnodup := h.nodup_records i
  rw [hl, List.map_append, List.map_cons, List.nodup_append, List.nodup_cons] at hnodup
  obtain ⟨_, ⟨h₂, _⟩, h₁⟩ := hnodup
  rw [hl, List.filter_append, List.filter_cons_of_pos (by simp),
    List.filter_eq_nil_iff.2, List.filter_eq_nil_iff.2, List.nil_append]
  · intro x hx hid
    exact h₂ (List.mem_map.2 ⟨x, hx, by simpa using hid⟩)
  · intro x hx hid
    exact h₁ _ (List.mem_map_of_mem hx) _ List.mem_cons_self (by simpa using hid)

/-- A session that may write has its file to itself. -/
theorem Locked.alone (h : w.Locked) {o : Opened} (ho : o ∈ w.opened) (hi : o.registry = some i)
    (hopen : o.session.closed = false) (hpath : o.session.path? = some path)
    (hmode : o.session.mode = .readWrite) :
    (w.registries i).locksOf path = [⟨o.session.id, .write⟩] := by
  have hl := mem_locksHeld.2 ⟨o, ho, hi, hopen, hpath, rfl⟩
  rw [hmode] at hl
  rw [h.locks]
  rcases h.compatible i path with hread | ⟨l, hone, _⟩
  · cases hread _ hl
  · rw [hone, List.mem_singleton] at hl
    rw [hone, ← hl]
    rfl

/-- Of two sessions on one file, neither writes. -/
theorem Locked.read_of_shared (h : w.Locked) {o o' : Opened} (ho : o ∈ w.opened)
    (ho' : o' ∈ w.opened) (hne : o.session.id ≠ o'.session.id) (hi : o.registry = some i)
    (hi' : o'.registry = some i) (hopen : o.session.closed = false)
    (hopen' : o'.session.closed = false) (hpath : o.session.path? = some path)
    (hpath' : o'.session.path? = some path) : o.session.mode = .read := by
  have hl : Lock.mk o.session.id o.session.mode.lock ∈ w.locksHeld i path :=
    mem_locksHeld.2 ⟨o, ho, hi, hopen, hpath, rfl⟩
  have hl' : Lock.mk o'.session.id o'.session.mode.lock ∈ w.locksHeld i path :=
    mem_locksHeld.2 ⟨o', ho', hi', hopen', hpath', rfl⟩
  rcases h.compatible i path with hread | ⟨l, hone, _⟩
  · have hmode := hread _ hl
    cases hm : o.session.mode with
    | read => rfl
    | readWrite => rw [hm] at hmode; cases hmode
  · rw [hone, List.mem_singleton] at hl hl'
    exact absurd (congrArg Lock.session (hl.trans hl'.symm)) hne

/-- An open session of the registry has the file, and it or the request is to write. -/
def InTheWay (w : World) (i : Nat) (file : CanonicalPath) (mode : Mode) : Prop :=
  ∃ o ∈ w.opened, o.registry = some i ∧ o.session.closed = false ∧
    o.session.path? = some file ∧ (o.session.mode = .readWrite ∨ mode = .readWrite)

theorem Locked.refusal_eq_none_iff (h : w.Locked) {file : CanonicalPath} {mode : Mode} :
    Lock.refusal ((w.registries i).locksOf file) mode.lock = none ↔ ¬ w.InTheWay i file mode := by
  have hwrite (m : Mode) : m.lock = .read ↔ m ≠ .readWrite := by cases m <;> simp [Mode.lock]
  rw [h.locks, Lock.refusal_eq_none_iff, hwrite]
  constructor
  · rintro hfree ⟨o, ho, hi, hopen, hpath, hmode⟩
    have hl := mem_locksHeld.2 ⟨o, ho, hi, hopen, hpath, rfl⟩
    rcases hfree with hnil | ⟨hm, hread⟩
    · rw [hnil] at hl
      cases hl
    · exact hmode.elim ((hwrite _).1 (hread _ hl)) hm
  · intro hfree
    rw [Classical.or_iff_not_imp_left]
    intro hne
    obtain ⟨l, hl⟩ := List.exists_mem_of_ne_nil _ hne
    constructor
    · obtain ⟨o, ho, hi, hopen, hpath, _⟩ := mem_locksHeld.1 hl
      exact fun hm => hfree ⟨o, ho, hi, hopen, hpath, .inr hm⟩
    · intro l hl
      obtain ⟨o, ho, hi, hopen, hpath, rfl⟩ := mem_locksHeld.1 hl
      exact (hwrite _).2 fun hm => hfree ⟨o, ho, hi, hopen, hpath, .inl hm⟩

/-- The answer to a request for a file that is there. -/
theorem request_openFile {path : String} {mode : Mode} {file : CanonicalPath} {document : String}
    (hfile : w.workspace.files.canonical path = .ok file)
    (hdocument : w.workspace.files.textAt file.location = .ok document) :
    (w.request (.openFile i path mode)).1 =
      match Lock.refusal ((w.registries i).locksOf file) mode.lock with
      | some held => .error (.contention file.text held mode.lock)
      | none => .ok (.session w.workspace.nextId) := by
  have hrun := Registry.run_openFile (w.registries i) w.workspace path mode
  rw [if_neg (by simp [FileTree.isEmpty_of_canonical hfile]), hfile] at hrun
  dsimp only at hrun
  rw [request]
  cases hr : Lock.refusal ((w.registries i).locksOf file) mode.lock with
  | some held =>
    rw [hr] at hrun
    rw [hrun]
  | none =>
    rw [hr, hdocument] at hrun
    rw [hrun]
    rfl

/-- What holds of the table of a registry and of its sessions. -/
structure LockTable (w : World) (i : Nat) : Prop where
  tidy : (w.registries i).Tidy
  distinct : ((w.registries i).records.map fun x => x.2.session).Nodup
  compatible : ∀ path, Lock.Compatible ((w.registries i).locksOf path)
  /-- An open session has exactly one record, on its own file and of its own mode. -/
  recorded : ∀ o ∈ w.opened, o.registry = some i → o.session.closed = false →
    ∃ path, o.session.path? = some path ∧
      (w.registries i).records.filter (fun x => x.2.session = o.session.id) =
        [(path, ⟨o.session.id, o.session.mode.lock⟩)]
  /-- A record is that of an open session. -/
  owned : ∀ path l, (path, l) ∈ (w.registries i).records → ∃ o ∈ w.opened,
    o.registry = some i ∧ o.session.closed = false ∧ o.session.path? = some path ∧
      o.session.id = l.session
  closed : ∀ o ∈ w.opened, o.session.closed = true →
    ∀ x ∈ (w.registries i).records, x.2.session ≠ o.session.id
  /-- Of two open sessions on one file, neither may write. -/
  exclusive : ∀ o ∈ w.opened, ∀ o' ∈ w.opened, o.session.id ≠ o'.session.id →
    o.registry = some i → o'.registry = some i → o.session.closed = false →
    o'.session.closed = false → o.session.path? = o'.session.path? →
    o.session.isWritable = false ∧ o'.session.isWritable = false
  /-- A file that can be read is refused if an open session is in the way. -/
  refused : ∀ path mode file document, w.workspace.files.canonical path = .ok file →
    w.workspace.files.textAt file.location = .ok document → w.InTheWay i file mode →
    ∃ held, (w.request (.openFile i path mode)).1 = .error (.contention file.text held mode.lock)
  /-- Otherwise it is opened. -/
  admitted : ∀ path mode file document, w.workspace.files.canonical path = .ok file →
    w.workspace.files.textAt file.location = .ok document → ¬ w.InTheWay i file mode →
    (w.request (.openFile i path mode)).1 = .ok (.session w.workspace.nextId)

/-- In every world that can be reached, whatever registry was asked by whichever sessions. -/
theorem lockTable_of_reachable (h : w.Reachable) (i : Nat) : w.LockTable i := by
  have hlocked := locked_of_reachable h
  have hread {o o' : Opened} (ho : o ∈ w.opened) (ho' : o' ∈ w.opened)
      (hne : o.session.id ≠ o'.session.id) (hi : o.registry = some i) (hi' : o'.registry = some i)
      (hopen : o.session.closed = false) (hopen' : o'.session.closed = false)
      (hpath : o.session.path? = o'.session.path?) : o.session.isWritable = false := by
    obtain ⟨path, hp⟩ := hlocked.onFile o ho (by simp [hi])
    have hmode := hlocked.read_of_shared ho ho' hne hi hi' hopen hopen' hp (hpath ▸ hp)
    have hsource : o.session.source ≠ .text := fun hs => by
      rw [Session.path?, hs] at hp
      cases hp
    simp [Session.isWritable, hmode, hsource]
  refine ⟨hlocked.tidy i, hlocked.nodup_records i, fun path => ?_, fun o ho hi hopen => ?_,
    fun path l hl => ?_, fun o ho hclosed x hx hid => ?_,
    fun o ho o' ho' hne hi hi' hopen hopen' hpath => ?_,
    fun path mode file document hfile hdocument hway => ?_,
    fun path mode file document hfile hdocument hway => ?_⟩
  · rw [hlocked.locks]
    exact hlocked.compatible i path
  · obtain ⟨path, hpath⟩ := hlocked.onFile o ho (by simp [hi])
    exact ⟨path, hpath, hlocked.filter_records ho hi hopen hpath⟩
  · obtain ⟨o, ho, hi, hopen, hpath, rfl⟩ := hlocked.mem_records.1 hl
    exact ⟨o, ho, hi, hopen, hpath, rfl⟩
  · obtain ⟨o', ho', _, hopen, _, hl⟩ := hlocked.mem_records.1 hx
    rw [hl] at hid
    rw [hlocked.numbered.eq_of_id ho' ho hid, hclosed] at hopen
    cases hopen
  · exact ⟨hread ho ho' hne hi hi' hopen hopen' hpath,
      hread ho' ho hne.symm hi' hi hopen' hopen hpath.symm⟩
  · rw [request_openFile hfile hdocument]
    cases hr : Lock.refusal ((w.registries i).locksOf file) mode.lock with
    | some held => exact ⟨held, rfl⟩
    | none => exact absurd hway (hlocked.refusal_eq_none_iff.1 hr)
  · rw [request_openFile hfile hdocument, hlocked.refusal_eq_none_iff.2 hway]

/-- A file that a session reads is not opened for writing. -/
theorem lockTable_shared :
    let files : FileTree := { base := "/home", entries := [(["a"], .file (.text "x"))] }
    let w := (request { workspace := { files } } (.openFile 0 "a" .read)).2
    ∃ held, (w.request (.openFile 0 "./a" .readWrite)).1 =
      .error (.contention "/home/a" held .write) := by
  intro files w
  have htable := lockTable_of_reachable (.request (.openFile 0 "a" .read) (.start { files })) 0
  exact htable.refused "./a" .readWrite ⟨"/home", ["a"]⟩ "x" rfl rfl
    ⟨_, List.mem_singleton_self _, rfl, rfl, rfl, .inr rfl⟩

end World

end ScriptKeeper.Inspection
