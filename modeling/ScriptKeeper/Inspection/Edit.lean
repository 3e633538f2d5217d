import ScriptKeeper.Inspection.Session
import ScriptKeeper.Text.LineEnding

/-!
# Edits

Edits change the texts of the segments of a decomposition and add segments; the document
changes when they are committed. A segment that is deleted stays in its place without text, so
the handles of its neighbours and its own go on to name what they named.

* `commit` puts the texts of all segments in place of the document; that of a file is written
  with normalised line endings;
* `cancel` drops the decomposition;
* `setEverything` replaces the document of a text at once.
-/

namespace ScriptKeeper.Inspection

/-- What a commit did. -/
inductive CommitOutcome
  /-- The document has changed, and has the given number of bytes now. -/
  | committed (bytes : Nat)
  | noChanges
  deriving DecidableEq, Repr

/-- An action of a session that may touch files. -/
abbrev FiledAction := ExceptT InspectionError (StateM (Session × FileTree))

namespace Session

/-- Replaces the text of the segment of a handle. -/
def setText (h : Handle) (text : String) : SessionAction Unit := do
  let s ← get
  s.ensureWritable
  let slot ← s.resolve h
  set { s with segments := s.segments.setText slot text }

/-- Empties the segment of a handle. -/
def delete (h : Handle) : SessionAction Unit := setText h ""

/-- Adds a text before all segments. -/
def addFirst (text : String) : SessionAction Handle := do
  let s ← get
  s.ensureWritable
  s.ensureActive
  let (slot, arena) := s.segments.pushFront { text }
  set { s with segments := arena }
  return s.handle slot

/-- Adds a text after all segments. -/
def addLast (text : String) : SessionAction Handle := do
  let s ← get
  s.ensureWritable
  s.ensureActive
  let (slot, arena) := s.segments.pushBack { text }
  set { s with segments := arena }
  return s.handle slot

/-- Adds a segment next to that of a handle, as `insert` does. -/
def addNextTo (insert : Arena → Nat → Segment → Option (Nat × Arena)) (anchor : Handle)
    (text : String) : SessionAction Handle := do
  let s ← get
  s.ensureWritable
  let slot ← s.resolve anchor
  match insert s.segments slot { text } with
  | some (slot, arena) =>
    set { s with segments := arena }
    return s.handle slot
  | none => throw (s.stale anchor)

/-- Adds a text directly before the segment of a handle. -/
def addBefore (anchor : Handle) (text : String) : SessionAction Handle :=
  addNextTo Arena.insertBefore anchor text

/-- Adds a text directly after the segment of a handle. -/
def addAfter (anchor : Handle) (text : String) : SessionAction Handle :=
  addNextTo Arena.insertAfter anchor text

/-- Replaces the document of a text, and drops its decomposition. -/
def setEverything (text : String) : SessionAction Unit := do
  let s ← get
  s.ensureOpen
  if s.source ≠ .text then throw (.textOnly s.id)
  set { s.reset with document := text }

/-- Drops the decomposition and all edits in it. -/
def cancel (s : Session) : Session := s.reset

/-- Ends the decomposition and stores what its segments hold. If the file cannot be written, the
    decomposition stays as it is. -/
def commit (fault : Option WriteFault := none) : FiledAction CommitOutcome := do
  let (s, files) ← get
  s.ensureOpen
  if s.phase = .idle then return .noChanges
  let updated := s.segments.reconstruct
  if !s.isWritable ∨ updated = s.document then
    set (s.reset, files)
    return .noChanges
  match s.source with
  | .text =>
    set ({ s.reset with document := updated }, files)
    return .committed updated.utf8ByteSize
  | .file path =>
    let normalized := Text.normalize Text.hostNewline updated
    let (result, files) := (FileTree.writeAt path.location normalized fault).run files
    match result with
    | .error cause =>
      set (s, files)
      throw (.fileWrite path.text cause)
    | .ok () =>
      set ({ s.reset with document := normalized }, files)
      return .committed normalized.utf8ByteSize

/-! ### What a registry does with a session -/

/-- Lets a session that may only read its document edit it too. -/
def upgrade : SessionAction Unit := do
  let s ← get
  s.ensureOpen
  if s.mode = .readWrite then return
  set { s.reset with mode := .readWrite, autoCommit := false }

/-- The session after its end. -/
def close (s : Session) : Session := { s.reset with closed := true }

end Session

end ScriptKeeper.Inspection
