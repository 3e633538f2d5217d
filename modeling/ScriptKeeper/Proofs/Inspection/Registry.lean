import Mathlib.Data.List.Nodup
import ScriptKeeper.Inspection.Registry
import ScriptKeeper.Proofs.Inspection.Step

/-!
# What a registry does

A registry checks a request against the locks on one file, and then changes the locks on that file
only. The table stays tidy: it lists every file once, and no file without locks (`Tidy`).

* `run_openFile`, `run_close`, `run_grantWrite`: the runs of its operations;
* `run_close_openFile`: a session that is closed leaves the table as it was before;
* `Compatible`: the locks that may be on one file together.
-/

namespace ScriptKeeper.Inspection

/-! ### Locks on one file -/

namespace Lock

variable {locks : List Lock} {id : SessionId} {requested : LockMode}

/-- All locks are for reading, or there is exactly one, for writing. -/
def Compatible (locks : List Lock) : Prop :=
  (∀ l ∈ locks, l.mode = .read) ∨ ∃ l, locks = [l] ∧ l.mode = .write

/-- The lock held that keeps away one of the mode `requested`, if there is any. -/
def refusal (locks : List Lock) (requested : LockMode) : Option LockMode :=
  (strongest locks).filter fun held => conflicts held requested

theorem refusal_eq_none_iff : refusal locks requested = none ↔
    locks = [] ∨ requested = .read ∧ ∀ l ∈ locks, l.mode = .read := by
  have hread : (∀ l ∈ locks, l.mode = .read) ↔ ¬ ∃ l ∈ locks, l.mode = .write := by
    simp only [not_exists, not_and]
    exact forall₂_congr fun l _ => by cases l.mode <;> simp
  rw [refusal, ← strongest_eq_none_iff, hread, ← strongest_eq_write_iff]
  cases strongest locks with
  | none => simp
  | some held => cases held <;> cases requested <;> simp [Option.filter, conflicts]

theorem mem_others {l : Lock} : l ∈ others id locks ↔ l ∈ locks ∧ l.session ≠ id := by
  simp [others]

theorem length_others_eq_iff :
    (others id locks).length = locks.length ↔ ∀ l ∈ locks, l.session ≠ id := by
  rw [others, List.length_filter_eq_length_iff]
  simp

theorem others_eq_self (h : ∀ l ∈ locks, l.session ≠ id) : others id locks = locks := by
  rw [others, List.filter_eq_self]
  simpa using h

theorem raise_eq_self (h : ∀ l ∈ locks, l.session ≠ id) : raise id locks = locks := by
  rw [raise, List.map_congr_left (g := fun l => l), List.map_id']
  intro l hl
  rw [if_neg (by simpa using h l hl)]

/-- Locks that have been given back are missed by none of the others. -/
theorem Compatible.others (h : Compatible locks) (id : SessionId) :
    Compatible (Lock.others id locks) := by
  rcases h with h | ⟨l, rfl, hl⟩
  · exact .inl fun l hl => h l (mem_others.1 hl).1
  · by_cases hid : l.session = id
    · exact .inl fun l' hl' => by simp [Lock.others, hid] at hl'
    · exact .inr ⟨l, by simp [Lock.others, hid], hl⟩

/-- A lock that no lock held keeps away goes together with them. -/
theorem compatible_append (h : refusal locks requested = none) :
    Compatible (locks ++ [⟨id, requested⟩]) := by
  rcases refusal_eq_none_iff.1 h with rfl | ⟨rfl, hread⟩
  · cases requested
    · exact .inl fun l hl => by simp_all
    · exact .inr ⟨_, rfl, rfl⟩
  · refine .inl fun l hl => ?_
    rcases List.mem_append.1 hl with hl | hl
    · exact hread l hl
    · rw [List.mem_singleton.1 hl]

/-- The only session with a lock may write. -/
theorem compatible_raise (hnodup : (locks.map Lock.session).Nodup) (h : Lock.others id locks = []) :
    Compatible (raise id locks) := by
  have hid : ∀ l ∈ locks, l.session = id := fun l hl => by
    by_contra hne
    have := mem_others.2 ⟨hl, hne⟩
    rw [h] at this
    cases this
  -- All locks are those of the session, which has one at most.
  match locks with
  | [] => exact .inl fun l hl => by cases hl
  | [l] => exact .inr ⟨_, rfl, by simp [hid l (by simp)]⟩
  | l :: l' :: _ =>
    have := hid l (by simp)
    have := hid l' (by simp)
    simp_all

end Lock

/-! ### The table -/

namespace Registry

variable {r : Registry} {path : CanonicalPath} {locks : List Lock}

/-- The table lists every file once, and no file without locks. -/
structure Tidy (r : Registry) : Prop where
  nodup : (r.locks.map Prod.fst).Nodup
  ne_nil : ∀ path, (path, []) ∉ r.locks

theorem locksOf_eq_of_mem (h : r.Tidy) (hm : (path, locks) ∈ r.locks) :
    r.locksOf path = locks := by
  have hfind : r.locks.find? (fun x => x.1 == path) = some (path, locks) := by
    have hsome : (r.locks.find? fun x => x.1 == path).isSome :=
      List.find?_isSome.2 ⟨_, hm, by simp⟩
    obtain ⟨y, hy⟩ := Option.isSome_iff_exists.1 hsome
    have hkey : y.1 = path := by simpa using List.find?_some hy
    rw [hy, List.inj_on_of_nodup_map h.nodup (List.mem_of_find?_eq_some hy) hm hkey]
  rw [locksOf, hfind]
  rfl

theorem mem_of_mem_locksOf {l : Lock} (h : l ∈ r.locksOf path) :
    (path, r.locksOf path) ∈ r.locks := by
  rw [locksOf] at h ⊢
  cases hf : r.locks.find? (fun x => x.1 == path) with
  | none => rw [hf] at h; cases h
  | some y =>
    have hkey : y.1 = path := by simpa using List.find?_some hf
    have hmem := List.mem_of_find?_eq_some hf
    rw [← hkey]
    exact hmem

theorem tidy_empty : Registry.Tidy {} where
  nodup := .nil
  ne_nil _ := List.not_mem_nil

/-- Other locks on a file leave the table tidy. -/
theorem Tidy.setLocks (h : r.Tidy) (path : CanonicalPath) (locks : List Lock) :
    (r.setLocks path locks).Tidy := by
  rw [Registry.setLocks]
  split
  next =>
    refine ⟨?_, fun other hm => h.ne_nil other (List.mem_of_mem_filter hm)⟩
    exact h.nodup.sublist (List.filter_sublist.map _)
  next hne =>
  split
  next =>
    have hkeys : (r.locks.map fun x => if x.1 == path then (path, locks) else x).map Prod.fst =
        r.locks.map Prod.fst := by
      rw [List.map_map]
      refine List.map_congr_left fun x _ => ?_
      by_cases hx : x.1 = path <;> simp [hx]
    refine ⟨by rw [hkeys]; exact h.nodup, fun other hm => ?_⟩
    obtain ⟨x, hx, heq⟩ := List.mem_map.1 hm
    split at heq
    next => cases heq; exact hne rfl
    next => cases heq; exact h.ne_nil other hx
  next habsent =>
    -- A file that was not listed is listed last.
    constructor
    · rw [List.map_append, List.nodup_append]
      refine ⟨h.nodup, by simp, fun other hother _ hp => ?_⟩
      rintro rfl
      obtain ⟨x, hx, hkey⟩ := List.mem_map.1 hother
      refine habsent (List.any_eq_true.2 ⟨x, hx, ?_⟩)
      simpa [hkey] using hp
    · intro other hm
      rcases List.mem_append.1 hm with hm | hm
      · exact h.ne_nil other hm
      · cases List.mem_singleton.1 hm
        exact hne rfl

theorem locksOf_eq_nil (h : ∀ x ∈ r.locks, x.1 ≠ path) : r.locksOf path = [] := by
  have hnone : r.locks.find? (fun x => x.1 == path) = none :=
    List.find?_eq_none.2 fun x hx => by simpa using h x hx
  rw [locksOf, hnone]
  rfl

theorem setLocks_of_mem (hne : locks ≠ []) {x : CanonicalPath × List Lock} (hx : x ∈ r.locks)
    (hpath : x.1 = path) : r.setLocks path locks =
      ⟨r.locks.map fun x => if x.1 == path then (path, locks) else x⟩ := by
  have hany : (r.locks.any fun x => x.1 == path) = true :=
    List.any_eq_true.2 ⟨x, hx, by simpa using hpath⟩
  rw [Registry.setLocks, if_neg (by simpa using hne), if_pos hany]

/-- Locks that are set for a while leave no trace in the table. -/
theorem setLocks_setLocks_locksOf (h : r.Tidy) (path : CanonicalPath) (hne : locks ≠ []) :
    (r.setLocks path locks).setLocks path (r.locksOf path) = r := by
  by_cases hlisted : ∃ x ∈ r.locks, x.1 = path
  · obtain ⟨x, hx, rfl⟩ := hlisted
    have hlocks : r.locksOf x.1 = x.2 := locksOf_eq_of_mem h hx
    have hlocks_ne : r.locksOf x.1 ≠ [] := by
      intro hnil
      rw [hlocks] at hnil
      exact h.ne_nil x.1 (by rw [← hnil]; exact hx)
    rw [setLocks_of_mem hne hx rfl,
      setLocks_of_mem hlocks_ne (List.mem_map_of_mem hx) (by simp), List.map_map]
    -- The entry of the file is the only one that was replaced, and it is put back.
    have hmap : r.locks.map ((fun y => if y.1 == x.1 then (x.1, r.locksOf x.1) else y) ∘
        fun y => if y.1 == x.1 then (x.1, locks) else y) = r.locks := by
      refine (List.map_congr_left fun y hy => ?_).trans (List.map_id _)
      by_cases hkey : y.1 = x.1
      · have hsame : r.locksOf y.1 = y.2 := locksOf_eq_of_mem h hy
        rw [hkey] at hsame
        simp [hkey, hsame, Prod.ext_iff]
      · simp [hkey]
    rw [hmap]
  · have hnot : ∀ x ∈ r.locks, x.1 ≠ path := fun x hx hkey => hlisted ⟨x, hx, hkey⟩
    have hany : ¬ (r.locks.any fun x => x.1 == path) = true := by
      rw [List.any_eq_true]
      rintro ⟨x, hx, hkey⟩
      exact hnot x hx (by simpa using hkey)
    have hfilter : r.locks.filter (fun x => x.1 != path) = r.locks :=
      List.filter_eq_self.2 fun x hx => by simpa using hnot x hx
    have hadded : r.setLocks path locks = ⟨r.locks ++ [(path, locks)]⟩ := by
      rw [Registry.setLocks, if_neg (by simpa using hne), if_neg hany]
    rw [locksOf_eq_nil hnot, hadded, Registry.setLocks, if_pos List.isEmpty_nil,
      List.filter_append, hfilter]
    simp

/-- The sessions that hold locks have been numbered. -/
def Counted (r : Registry) (n : Nat) : Prop :=
  ∀ path, ∀ l ∈ r.locksOf path, l.session.number ≤ n

theorem Counted.mono {n m : Nat} (h : r.Counted n) (hle : n ≤ m) : r.Counted m :=
  fun path l hl => Nat.le_trans (h path l hl) hle

/-- All locks with their files. -/
def records (r : Registry) : List (CanonicalPath × Lock) :=
  r.locks.flatMap fun x => x.2.map (x.1, ·)

theorem mem_records (h : r.Tidy) {l : Lock} : (path, l) ∈ r.records ↔ l ∈ r.locksOf path := by
  rw [records, List.mem_flatMap]
  constructor
  · rintro ⟨⟨path', locks⟩, hm, hl⟩
    obtain ⟨l', hl', heq⟩ := List.mem_map.1 hl
    cases heq
    rwa [locksOf_eq_of_mem h hm]
  · exact fun hl => ⟨_, mem_of_mem_locksOf hl, List.mem_map_of_mem hl⟩

/-- Sessions are recorded once if they are on every file, and no session is on two. -/
theorem nodup_records (h : r.Tidy) (hn : ∀ path, ((r.locksOf path).map Lock.session).Nodup)
    (hd : ∀ p q l l', l ∈ r.locksOf p → l' ∈ r.locksOf q → l.session = l'.session → p = q) :
    (r.records.map fun x => x.2.session).Nodup := by
  rw [records, List.map_flatMap, List.nodup_flatMap]
  constructor
  · rintro ⟨path, locks⟩ hm
    rw [List.map_map, ← locksOf_eq_of_mem h hm]
    exact hn path
  · refine (List.pairwise_map.1 h.nodup).imp_of_mem fun {x y} hx hy hne => ?_
    intro id hidx hidy
    simp only [List.map_map, List.mem_map, Function.comp_apply] at hidx hidy
    obtain ⟨l, hl, rfl⟩ := hidx
    obtain ⟨l', hl', heq⟩ := hidy
    refine hne (hd x.1 y.1 l l' ?_ ?_ heq.symm)
    · rwa [locksOf_eq_of_mem h hx]
    · rwa [locksOf_eq_of_mem h hy]

/-! ### Runs -/

theorem run_openFile (r : Registry) (w : Workspace) (path : String) (mode : Mode) :
    (openFile path mode).run (r, w) =
    if path.isEmpty then (.error .emptyPath, (r, w))
    else match w.files.canonical path with
    | .error cause => (.error (.fileRead path cause), (r, w))
    | .ok file => match Lock.refusal (r.locksOf file) mode.lock with
      | some held => (.error (.contention file.text held mode.lock), (r, w))
      | none => match w.files.textAt file.location with
        | .error cause => (.error (.fileRead file.text cause), (r, w.takeId))
        | .ok document => (.ok (.start w.nextId (.file file) mode document),
            (r.setLocks file (r.locksOf file ++ [⟨w.nextId, mode.lock⟩]), w.takeId)) := by
  rw [openFile, run_bind, run_get]
  dsimp only
  cases path.isEmpty with
  | true => rfl
  | false =>
  simp only [Bool.false_eq_true, if_false]
  cases w.files.canonical path with
  | error cause => rfl
  | ok file =>
  dsimp only
  rw [Lock.refusal]
  cases Lock.strongest (r.locksOf file) with
  | none =>
    simp only [Option.filter_none, run_bind, run_set]
    cases w.files.textAt file.location <;> rfl
  | some held =>
    simp only [Option.filter]
    by_cases hc : Lock.conflicts held mode.lock = true
    · rw [if_pos hc, if_pos hc]
      rfl
    · rw [if_neg hc, if_neg hc]
      simp only [run_bind, run_set]
      cases w.files.textAt file.location <;> rfl

/-- A session is closed if it holds a lock. -/
theorem run_close (r : Registry) (s : Session) : close.run (r, s) =
    if s.closed then (.ok (), (r, s))
    else match s.path? with
    | none => (.ok (), (r, s))
    | some path =>
      if (r.locksOf path).any fun l => l.session == s.id then
        (.ok (), (r.setLocks path (Lock.others s.id (r.locksOf path)), s.close))
      else (.error (.unknownSession s.id), (r, s)) := by
  rw [close, run_bind, run_get]
  dsimp only
  cases s.closed with
  | true => rfl
  | false =>
  simp only [Bool.false_eq_true, if_false]
  cases s.path? with
  | none => rfl
  | some path =>
  dsimp only
  by_cases hany : ∃ l ∈ r.locksOf path, l.session = s.id
  · rw [if_neg (by rw [Lock.length_others_eq_iff]; simpa using hany),
      if_pos (by simpa using hany)]
    rfl
  · rw [if_pos (by rw [Lock.length_others_eq_iff]; simpa using hany),
      if_neg (by simpa using hany)]
    rfl

theorem run_grantWrite (r : Registry) (s : Session) : grantWrite.run (r, s) =
    if s.closed then (.error (.closed s.id), (r, s))
    else if s.mode = .readWrite then (.ok (), (r, s))
    else match s.path? with
    | none => (.ok (), (r, s))
    | some path => match Lock.strongest (Lock.others s.id (r.locksOf path)) with
      | some held => (.error (.contention path.text held .write), (r, s))
      | none =>
        if (r.locksOf path).any fun l => l.session == s.id then
          (.ok (), (r.setLocks path (Lock.raise s.id (r.locksOf path)), s.upgraded))
        else (.error (.unknownSession s.id), (r, s)) := by
  rw [grantWrite, run_bind, run_get]
  dsimp only
  rw [run_bind, run_lift, Session.ensureOpen]
  cases hclosed : s.closed with
  | true => rfl
  | false =>
  simp only [Bool.false_eq_true, if_false]
  by_cases hmode : s.mode = .readWrite
  · rw [if_pos hmode, if_pos hmode]
    rfl
  rw [if_neg hmode, if_neg hmode]
  cases s.path? with
  | none => rfl
  | some path =>
  dsimp only
  cases Lock.strongest (Lock.others s.id (r.locksOf path)) with
  | some held => rfl
  | none =>
  dsimp only
  rw [Session.run_upgrade, hclosed, if_neg Bool.false_ne_true, if_neg hmode]
  cases (r.locksOf path).any fun l => l.session == s.id <;> rfl

/-- The session on a file that can be opened has just begun, and holds a lock on the file. -/
theorem openFile_ok {r r' : Registry} {w w' : Workspace} {path : String} {mode : Mode}
    {s : Session} (h : (openFile path mode).run (r, w) = (.ok s, (r', w'))) :
    ∃ file document, s = .start w.nextId (.file file) mode document ∧
      ⟨w.nextId, mode.lock⟩ ∈ r'.locksOf file := by
  rw [run_openFile] at h
  split at h
  · cases h
  split at h
  · cases h
  next file _ =>
  split at h
  · cases h
  split at h
  · cases h
  next document _ =>
  cases h
  refine ⟨file, document, rfl, ?_⟩
  rw [locksOf_setLocks_self]
  exact List.mem_append_right _ List.mem_cons_self

/-- An attempt to open a file takes a number at most, and changes no file. -/
theorem workspace_openFile (r : Registry) (w : Workspace) (path : String) (mode : Mode) :
    ((openFile path mode).run (r, w)).2.2 = w ∨
      ((openFile path mode).run (r, w)).2.2 = w.takeId := by
  rw [run_openFile]
  split
  · exact .inl rfl
  split
  · exact .inl rfl
  split
  · exact .inl rfl
  split <;> exact .inr rfl

/-- An open session gives the lock back that it has on its file. -/
theorem run_close_of_mem {r : Registry} {s : Session} {file : CanonicalPath} {mode : LockMode}
    (hopened : s.closed = false) (hfile : s.path? = some file)
    (hlock : ⟨s.id, mode⟩ ∈ r.locksOf file) :
    close.run (r, s) =
      (.ok (), (r.setLocks file (Lock.others s.id (r.locksOf file)), s.close)) := by
  have hany : ((r.locksOf file).any fun l => l.session == s.id) = true :=
    List.any_eq_true.2 ⟨_, hlock, by simp⟩
  rw [run_close, hopened, if_neg Bool.false_ne_true, hfile]
  dsimp only
  rw [if_pos hany]

/-- A session that is closed leaves the table as it was before the session was opened, whatever the
    session has done in between. -/
theorem run_close_openFile {r r' : Registry} {w w' : Workspace} {path : String} {mode : Mode}
    {s s' : Session} (htidy : r.Tidy) (hcounted : r.Counted w.sessions)
    (hopen : (openFile path mode).run (r, w) = (.ok s, (r', w'))) (hrights : s.SameRights s')
    (hopened : s'.closed = false) : close.run (r', s') = (.ok (), (r, s'.close)) := by
  rw [run_openFile] at hopen
  split at hopen
  · cases hopen
  split at hopen
  · cases hopen
  next file _ =>
  split at hopen
  · cases hopen
  split at hopen
  · cases hopen
  next document _ =>
  cases hopen
  have hfile : s'.path? = some file := by rw [Session.path?, hrights.source]; rfl
  have hid : s'.id = w.nextId := hrights.id
  -- The new lock is the only one of its session.
  have hothers : Lock.others s'.id (r.locksOf file ++ [⟨w.nextId, mode.lock⟩]) =
      r.locksOf file := by
    have hfresh : ∀ l ∈ r.locksOf file, l.session ≠ w.nextId := fun l hl heq => by
      have hle := hcounted file l hl
      rw [heq] at hle
      exact Nat.not_succ_le_self _ hle
    have hself := Lock.others_eq_self hfresh
    rw [Lock.others] at hself ⊢
    rw [hid, List.filter_append, hself]
    simp
  have hlock : ⟨s'.id, mode.lock⟩ ∈ (r.setLocks file
      (r.locksOf file ++ [⟨w.nextId, mode.lock⟩])).locksOf file := by
    rw [locksOf_setLocks_self, hid]
    exact List.mem_append_right _ List.mem_cons_self
  rw [run_close_of_mem hopened hfile hlock, locksOf_setLocks_self, hothers,
    setLocks_setLocks_locksOf htidy file (by simp)]

/-! ### Failures -/

/-- A file that cannot be opened takes no lock, though it may take a number. -/
theorem openFile_error {r r' : Registry} {w w' : Workspace} {path : String} {mode : Mode}
    {e : InspectionError} (h : (openFile path mode).run (r, w) = (.error e, (r', w'))) :
    r' = r ∧ (w' = w ∨ w' = w.takeId) := by
  rw [run_openFile] at h
  split at h
  · cases h; exact ⟨rfl, .inl rfl⟩
  split at h
  · cases h; exact ⟨rfl, .inl rfl⟩
  split at h
  · cases h; exact ⟨rfl, .inl rfl⟩
  split at h
  · cases h; exact ⟨rfl, .inr rfl⟩
  · cases h

theorem allOrNothing_close : AllOrNothing close := by
  rintro ⟨r, s⟩ e t h
  rw [run_close] at h
  split at h
  · cases h
  split at h
  · cases h
  split at h
  · cases h
  · cases h; rfl

theorem allOrNothing_grantWrite : AllOrNothing grantWrite := by
  rintro ⟨r, s⟩ e t h
  rw [run_grantWrite] at h
  split at h
  · cases h; rfl
  split at h
  · cases h
  split at h
  · cases h
  split at h
  · cases h; rfl
  split at h
  · cases h
  · cases h; rfl

end Registry

end ScriptKeeper.Inspection
