import ScriptKeeper.Inspection.Handle

/-!
# Locks

A session holds a lock on its file. The locks of one file go together if all of them are for
reading, or if there is only one: a session that asks for the lock of a file has to get along
with the strongest lock of the others.
-/

namespace ScriptKeeper.Inspection

/-- The lock of a session on a file. Any number of sessions may read a file; one that writes
    has it to itself. -/
inductive LockMode
  | read
  | write
  deriving DecidableEq, Repr

/-- The lock in words. -/
def LockMode.text : LockMode → String
  | read => "read"
  | write => "write"

/-- The lock that a session holds. -/
structure Lock where
  session : SessionId
  mode : LockMode
  deriving DecidableEq, Repr

namespace Lock

/-- The stronger of the locks, if there is any. -/
def strongest (locks : List Lock) : Option LockMode :=
  if locks.any fun l => l.mode == .write then some .write
  else if locks.isEmpty then none
  else some .read

/-- Whether a lock of the mode `held` keeps away one of the mode `requested`. -/
def conflicts (held requested : LockMode) : Bool := held == .write || requested == .write

/-- The locks of other sessions than the given one. -/
def others (id : SessionId) (locks : List Lock) : List Lock :=
  locks.filter fun l => l.session != id

/-- The locks with that of the given session changed to one for writing. -/
def raise (id : SessionId) (locks : List Lock) : List Lock :=
  locks.map fun l => if l.session == id then { l with mode := .write } else l

/-- Nobody holds a file exactly if there is no lock on it. -/
theorem strongest_eq_none_iff {locks : List Lock} : strongest locks = none ↔ locks = [] := by
  rw [strongest]
  split
  next h => simp; rintro rfl; simp at h
  next => cases locks <;> simp

/-- The strongest lock is for writing exactly if some lock is. -/
theorem strongest_eq_write_iff {locks : List Lock} :
    strongest locks = some .write ↔ ∃ l ∈ locks, l.mode = .write := by
  rw [strongest]
  split
  next h => simpa using h
  next h => cases locks <;> simp_all

end Lock

end ScriptKeeper.Inspection
