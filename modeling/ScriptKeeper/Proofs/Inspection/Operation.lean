import ScriptKeeper.Inspection.Query
import ScriptKeeper.Inspection.Edit

/-!
# Operations

What can be asked of a session: queries, looks at segments, edits, new settings, the end of a
decomposition. `Operation.perform` is the action of an operation on the session and the files;
only `commit` touches the files. The system may fail to write a file, so a commit names the step at
which it does, if there is one.
-/

namespace ScriptKeeper.Inspection

/-- A query of a session. -/
inductive Query
  | find (pattern : String)
  | findAll (pattern : String)
  | everything
  deriving DecidableEq, Repr

/-- A look at the segment of a handle. -/
inductive Look
  | segment
  | text
  | previous
  | next
  | lineIndex
  deriving DecidableEq, Repr

/-- An edit of a decomposition. -/
inductive Edit
  | setText (h : Handle) (text : String)
  | delete (h : Handle)
  | addFirst (text : String)
  | addLast (text : String)
  | addBefore (anchor : Handle) (text : String)
  | addAfter (anchor : Handle) (text : String)
  deriving DecidableEq, Repr

/-- An operation of a session. -/
inductive Operation
  | changeSettings (settings : SearchSettings)
  | query (q : Query)
  | look (l : Look) (h : Handle)
  | edit (e : Edit)
  | setEverything (text : String)
  | cancel
  | commit (fault : Option WriteFault)
  deriving DecidableEq, Repr

/-- What an operation answers. -/
inductive Answer
  | done
  /-- The session that has been opened. -/
  | session (id : SessionId)
  /-- The handles that a query or an edit gives, or those next to a segment. -/
  | handles (hs : List Handle)
  | segment (segment : Segment)
  | text (text : String)
  | line (index : Nat)
  | outcome (outcome : CommitOutcome)
  deriving DecidableEq, Repr

namespace Session

/-- Decomposes the document; the handles that the query gives. -/
def query : Query → SessionAction (List Handle)
  | .find pattern => do return (← find pattern).toList
  | .findAll pattern => findAll pattern
  | .everything => do return [← everything]

/-- Edits the decomposition; the handle of the segment that was added, if one was. -/
def edit : Edit → SessionAction (Option Handle)
  | .setText h text => do setText h text; return none
  | .delete h => do delete h; return none
  | .addFirst text => do return some (← addFirst text)
  | .addLast text => do return some (← addLast text)
  | .addBefore anchor text => do return some (← addBefore anchor text)
  | .addAfter anchor text => do return some (← addAfter anchor text)

/-- What there is to see at the segment of a handle. -/
def look (s : Session) (h : Handle) : Look → Except InspectionError Answer
  | .segment => do return .segment (← s.segment h)
  | .text => do return .text (← s.text h)
  | .previous => do return .handles (← s.previous h).toList
  | .next => do return .handles (← s.next h).toList
  | .lineIndex => do return .line (← s.lineIndex h)

end Session

/-- An action of the session alone, which leaves the files as they are. -/
def SessionAction.filed {α : Type} (action : SessionAction α) : FiledAction α :=
  ExceptT.mk fun (s, files) =>
    let (result, s') := action.run s
    (result, (s', files))

/-- Performs an operation on a session, among the files. -/
def Operation.perform : Operation → FiledAction Answer
  | .changeSettings settings => do
    SessionAction.filed (Session.changeSettings settings)
    return .done
  | .query q => do return .handles (← SessionAction.filed (Session.query q))
  | .look l h => do (← get).1.look h l
  | .edit e => do return .handles (← SessionAction.filed (Session.edit e)).toList
  | .setEverything text => do
    SessionAction.filed (Session.setEverything text)
    return .done
  | .cancel => do
    modify fun (s, files) => (s.cancel, files)
    return .done
  | .commit fault => do return .outcome (← Session.commit fault)

end ScriptKeeper.Inspection
