import ScriptKeeper.Files.Canonical
import ScriptKeeper.Files.Write
import ScriptKeeper.Inspection.Arena
import ScriptKeeper.Inspection.Error
import ScriptKeeper.Inspection.Settings

/-!
# Sessions

A session inspects one document. It is *idle* until a query decomposes the document into
segments; then it is *active*, and handles name its segments, until the decomposition is
committed or cancelled. With every such end the generation goes up, which makes all handles of
the decomposition stale.

* `resolve` finds the slot of a handle, or says why it names no segment any more;
* `segment`, `text`, `previous`, `next`, `lineIndex` look at the segment of a handle;
* `currentText` is the document as it would be committed.
-/

namespace ScriptKeeper.Inspection

/-- What a session may do with its document. -/
inductive Mode
  /-- Queries only. A new query ends the decomposition before it. -/
  | read
  /-- Queries and edits. A decomposition has to be committed or cancelled. -/
  | readWrite
  deriving DecidableEq, Repr, Inhabited

/-- The mode in words. -/
def Mode.text : Mode → String
  | read => "read"
  | readWrite => "read-write"

/-- The lock that a session of the mode holds on its file. -/
def Mode.lock : Mode → LockMode
  | read => .read
  | readWrite => .write

/-- Where the document of a session comes from. -/
inductive Source
  | text
  | file (path : CanonicalPath)
  deriving DecidableEq, Repr

/-- Whether a session has a decomposition. -/
inductive Phase
  | idle
  | active
  deriving DecidableEq, Repr

/-- A session. -/
structure Session where
  id : SessionId
  source : Source
  mode : Mode
  /-- A new query ends the decomposition before it. -/
  autoCommit : Bool
  settings : SearchSettings := {}
  /-- The document as it was read or last committed. -/
  document : String
  segments : Arena := .empty
  phase : Phase := .idle
  generation : UInt64 := 0
  closed : Bool := false
  deriving DecidableEq, Repr

/-- An action of a session that can fail. What it has done before it fails stays done. -/
abbrev SessionAction := ExceptT InspectionError (StateM Session)

namespace Session

/-- A new session. -/
def start (id : SessionId) (source : Source) (mode : Mode) (document : String) : Session :=
  { id, source, mode, document, autoCommit := mode == .read }

/-- A new session on a text, which may always be edited. -/
def ofText (id : SessionId) (text : String) : Session := start id .text .readWrite text

/-- The file of a session. -/
def path? (s : Session) : Option CanonicalPath :=
  match s.source with
  | .text => none
  | .file path => some path

/-- Whether the session may edit its document. -/
def isWritable (s : Session) : Bool := s.source == .text || s.mode == .readWrite

/-- The handle of the segment in a slot. -/
def handle (s : Session) (slot : Nat) : Handle := ⟨s.id, s.generation, slot⟩

/-- The session without decomposition, one generation later. -/
def reset (s : Session) : Session :=
  { s with segments := .empty, phase := .idle, generation := s.generation + 1 }

/-! ### Conditions -/

/-- Fails on a closed session. -/
def ensureOpen (s : Session) : Except InspectionError Unit :=
  if s.closed then .error (.closed s.id) else .ok ()

/-- Fails on a session that may not edit its document. -/
def ensureWritable (s : Session) : Except InspectionError Unit := do
  s.ensureOpen
  if s.isWritable then return
  else throw (.readOnly s.id ((s.path?.map CanonicalPath.text).getD ""))

/-- Fails on a session without decomposition. -/
def ensureActive (s : Session) : Except InspectionError Unit :=
  if s.phase = .active then .ok () else .error (.noActiveDecomposition s.id)

/-- The failure of a handle that names no segment any more. -/
def stale (s : Session) (h : Handle) : InspectionError := .staleHandle h.generation s.generation

/-- The slot of the segment that a handle names. -/
def resolve (s : Session) (h : Handle) : Except InspectionError Nat := do
  s.ensureOpen
  if h.session ≠ s.id then throw (.foreignHandle h.session s.id)
  else if h.generation ≠ s.generation ∨ s.segments.size ≤ h.slot then throw (s.stale h)
  else return h.slot

/-! ### Looking at segments -/

/-- The segment of a handle. -/
def segment (s : Session) (h : Handle) : Except InspectionError Segment := do
  let slot ← s.resolve h
  match s.segments.get? slot with
  | some segment => return segment
  | none => throw (s.stale h)

/-- The present text of the segment of a handle. -/
def text (s : Session) (h : Handle) : Except InspectionError String := do
  return (← s.segment h).text

/-- The handle of the segment before that of a handle. -/
def previous (s : Session) (h : Handle) : Except InspectionError (Option Handle) := do
  return (s.segments.previous? (← s.resolve h)).map s.handle

/-- The handle of the segment after that of a handle. -/
def next (s : Session) (h : Handle) : Except InspectionError (Option Handle) := do
  return (s.segments.next? (← s.resolve h)).map s.handle

/-- The handle of the first segment. -/
def first (s : Session) : Option Handle := s.segments.first.map s.handle

/-- The handle of the last segment. -/
def last (s : Session) : Option Handle := s.segments.last.map s.handle

/-- The handles with their segments, in the order of the document. -/
def allSegments (s : Session) : List (Handle × Segment) :=
  s.segments.toList.map fun (slot, segment) => (s.handle slot, segment)

/-- The document as it would be committed. -/
def currentText (s : Session) : String :=
  match s.phase with
  | .idle => s.document
  | .active => s.segments.reconstruct

/-- The line on which the segment of a handle begins; the first line is line 1. -/
def lineIndex (s : Session) (h : Handle) : Except InspectionError Nat := do
  let slot ← s.resolve h
  if !s.settings.trackLines then throw (.lineTrackingDisabled s.id)
  return (s.segments.preceding slot).foldr (fun segment n => segment.lineStats.advance + n) 1

end Session

end ScriptKeeper.Inspection
