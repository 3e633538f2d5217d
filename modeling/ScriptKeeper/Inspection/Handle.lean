/-!
# Sessions and handles by name

A session has a number that no other session of a run has. A handle names a segment by its
session, the generation of the decomposition that it belongs to and its slot.
-/

namespace ScriptKeeper.Inspection

/-- The number of a session. -/
structure SessionId where
  number : Nat
  deriving DecidableEq, Repr, Inhabited

/-- The number as messages show it. -/
def SessionId.text (id : SessionId) : String := "#" ++ toString id.number

/-- The name of a segment of a decomposition. Generations are counted in one machine word. -/
structure Handle where
  session : SessionId
  generation : UInt64
  slot : Nat
  deriving DecidableEq, Repr

end ScriptKeeper.Inspection
