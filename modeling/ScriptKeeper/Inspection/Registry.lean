import ScriptKeeper.Inspection.Edit
import ScriptKeeper.Inspection.Workspace

/-!
# Registries of locks

A registry opens sessions on files and keeps, for every file that is open, who holds it: any
number of sessions that read it, or one session that writes it. Files are told apart by their
canonical paths, so two paths that lead to one file share its locks.

A session keeps its lock until it is closed through its registry.

* `locksOf` and `setLocks` look up and replace the locks of one file;
* `openFile`, `close` and `grantWrite` are what changes them;
* `lockMode`, `holders` and `openFiles` tell of them.
-/

namespace ScriptKeeper.Inspection

/-- The locks of the files that are open. -/
structure Registry where
  locks : List (CanonicalPath × List Lock) := []
  deriving DecidableEq, Repr

namespace Registry

/-- The locks on a file. -/
def locksOf (r : Registry) (path : CanonicalPath) : List Lock :=
  ((r.locks.find? fun x => x.1 == path).map Prod.snd).getD []

/-- The registry with other locks on a file; a file without locks is not open. -/
def setLocks (r : Registry) (path : CanonicalPath) (locks : List Lock) : Registry :=
  if locks.isEmpty then ⟨r.locks.filter fun x => x.1 != path⟩
  else if r.locks.any fun x => x.1 == path then
    ⟨r.locks.map fun x => if x.1 == path then (path, locks) else x⟩
  else ⟨r.locks ++ [(path, locks)]⟩

/-- The locks that were set on a file are those on it. -/
theorem locksOf_setLocks_self (r : Registry) (path : CanonicalPath) (locks : List Lock) :
    (r.setLocks path locks).locksOf path = locks := by
  have keep : ((fun x : CanonicalPath × List Lock => x.1 == path) ∘
      fun x => if x.1 == path then (path, locks) else x) = fun x => x.1 == path := by
    funext x
    by_cases hx : x.1 = path <;> simp [hx]
  rw [setLocks]
  split
  next h =>
    rw [locksOf, List.find?_eq_none.2 (by grind), List.isEmpty_iff.1 h]
    rfl
  next =>
    split
    next hany =>
      obtain ⟨y, hy⟩ := Option.isSome_iff_exists.1 (List.find?_isSome.2 (List.any_eq_true.1 hany))
      rw [locksOf, List.find?_map, keep, hy, Option.map_some, if_pos (List.find?_some hy)]
      rfl
    next hany =>
      have hnone : r.locks.find? (fun x => x.1 == path) = none := by
        rw [List.find?_eq_none]
        intro x hx hpath
        exact hany (List.any_eq_true.2 ⟨x, hx, hpath⟩)
      rw [locksOf, List.find?_append, hnone, Option.none_or]
      simp

/-- Setting the locks on one file leaves those on the others as they are. -/
theorem locksOf_setLocks_of_ne (r : Registry) {path other : CanonicalPath} (h : other ≠ path)
    (locks : List Lock) : (r.setLocks path locks).locksOf other = r.locksOf other := by
  have keep : ((fun x : CanonicalPath × List Lock => x.1 == other) ∘
      fun x => if x.1 == path then (path, locks) else x) = fun x => x.1 == other := by
    funext x
    by_cases hx : x.1 = path <;> simp [hx]
  rw [setLocks]
  split
  next =>
    rw [locksOf, List.find?_filter, locksOf]
    congr 3
    funext x
    by_cases hx : x.1 = other <;> simp [hx, h]
  next =>
    split
    next =>
      rw [locksOf, List.find?_map, keep, locksOf]
      cases hfound : r.locks.find? (fun x => x.1 == other) with
      | none => rfl
      | some y =>
        have hother : y.1 = other := by simpa using List.find?_some hfound
        rw [Option.map_some, if_neg (by simpa [hother] using h)]
    next =>
      rw [locksOf, List.find?_append, locksOf]
      simp [Ne.symm h]

/-- Opens a session on the file at a path. A path that does not lead to a file takes no
    number; a file that cannot be read takes one. -/
def openFile (path : String) (mode : Mode) :
    ExceptT InspectionError (StateM (Registry × Workspace)) Session := do
  let (r, w) ← get
  if path.isEmpty then throw .emptyPath
  match w.files.canonical path with
  | .error cause => throw (.fileRead path cause)
  | .ok file =>
    if let some held := Lock.strongest (r.locksOf file) then
      if Lock.conflicts held mode.lock then
        throw (.contention file.text held mode.lock)
    let id := w.nextId
    set (r, w.takeId)
    match w.files.textAt file.location with
    | .error cause => throw (.fileRead file.text cause)
    | .ok document =>
      set (r.setLocks file (r.locksOf file ++ [⟨id, mode.lock⟩]), w.takeId)
      return .start id (.file file) mode document

/-- Ends a session and gives its lock back. A text has no lock, and a session that is closed
    has none any more. -/
def close : ExceptT InspectionError (StateM (Registry × Session)) Unit := do
  let (r, s) ← get
  if s.closed then return
  match s.path? with
  | none => return
  | some path =>
    let locks := r.locksOf path
    let left := Lock.others s.id locks
    if left.length = locks.length then throw (.unknownSession s.id)
    set (r.setLocks path left, s.close)

/-- Lets a session write its file, if no other session holds the file. -/
def grantWrite : ExceptT InspectionError (StateM (Registry × Session)) Unit := do
  let (r, s) ← get
  s.ensureOpen
  if s.mode = .readWrite then return
  match s.path? with
  | none => return
  | some path =>
    let locks := r.locksOf path
    if let some held := Lock.strongest (Lock.others s.id locks) then
      throw (.contention path.text held .write)
    if !(locks.any fun l => l.session == s.id) then throw (.unknownSession s.id)
    let (result, upgraded) := Session.upgrade.run s
    match result with
    | .error e => throw e
    | .ok () =>
      set (r.setLocks path (Lock.raise s.id locks), upgraded)

/-- The locks on the file that a path names. A path that leads nowhere any more names what it
    spells. -/
def locksAt (r : Registry) (w : Workspace) (path : String) : List Lock :=
  match w.files.canonical path with
  | .ok file => r.locksOf file
  | .error _ => ((r.locks.find? fun x => x.1.text == path).map Prod.snd).getD []

/-- The strongest lock on the file that a path names. -/
def lockMode (r : Registry) (w : Workspace) (path : String) : Option LockMode :=
  Lock.strongest (r.locksAt w path)

/-- How many sessions hold the file that a path names. -/
def holders (r : Registry) (w : Workspace) (path : String) : Nat := (r.locksAt w path).length

/-- How many files are open. -/
def openFiles (r : Registry) : Nat := r.locks.length

end Registry

end ScriptKeeper.Inspection
