import ScriptKeeper.Inspection.Session

/-!
# Workspaces

All sessions of a run work on the same files, and are numbered in the order in which they are
opened.
-/

namespace ScriptKeeper.Inspection

/-- What all registries and sessions of a run share: the files, and the count of the sessions
    that have been numbered. -/
structure Workspace where
  files : FileTree := {}
  sessions : Nat := 0
  deriving DecidableEq, Repr

namespace Workspace

/-- The number of the next session. -/
def nextId (w : Workspace) : SessionId := ⟨w.sessions + 1⟩

/-- The workspace in which the next number is taken. -/
def takeId (w : Workspace) : Workspace := { w with sessions := w.sessions + 1 }

/-- A new session on a text. -/
def openText (w : Workspace) (text : String) : Session × Workspace :=
  (.ofText w.nextId text, w.takeId)

end Workspace

end ScriptKeeper.Inspection
