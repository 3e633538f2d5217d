import ScriptKeeper.Inspection.Session

/-!
# Queries

A query decomposes the document of an idle session. If the session has a decomposition still,
a session that commits by itself drops it, and any other refuses the query.

* `find` cuts the document around one match, `findAll` around all of them, `everything` not at
  all; a search without a match leaves the session idle;
* `changeSettings` is refused like a query.

A query is checked before it touches the session: one that fails has changed nothing.
-/

namespace ScriptKeeper.Inspection

/-- Compiles a pattern under the settings of a session. -/
def SearchSettings.compile (settings : SearchSettings) (pattern : String) :
    Except InspectionError Pattern :=
  match Pattern.compile settings.flags settings.sizeLimit pattern with
  | .ok compiled => .ok compiled
  | .error fault => .error (.invalidPattern pattern fault)

namespace Session

/-- Makes way for a new decomposition. -/
def beginQuery : SessionAction Unit := do
  let s ← get
  match s.phase, s.autoCommit with
  | .idle, _ => return
  | .active, true => set s.reset
  | .active, false => throw (.decompositionActive s.id)

/-- Replaces the settings. -/
def changeSettings (settings : SearchSettings) : SessionAction Unit := do
  (← get).ensureOpen
  beginQuery
  modify fun s => { s with settings }

/-- The segment of a piece of the document; a match gets the captures of its index. -/
def segmentOf (document : String) (captures : List Captures) (piece : Piece) :
    Except InspectionError Segment :=
  match piece.text? document with
  | none => .error (.cut (.outOfBounds piece.range document.utf8ByteSize))
  | some text =>
    match piece.kind with
    | .literal => .ok { text }
    | .matched index =>
      match captures[index]? with
      | some captures => .ok { text, origin := .matched captures }
      | none => .ok { text }

/-- The segments of pieces of the document. -/
def segmentsOf (document : String) (captures : List Captures) (pieces : List Piece) :
    Except InspectionError (List Segment) :=
  pieces.mapM (segmentOf document captures)

/-- Makes segments of the pieces of the document, and the session active; the handles of the
    matches. -/
def install (pieces : List Piece) (captures : List Captures) : SessionAction (List Handle) := do
  let s ← get
  let segments ← segmentsOf s.document captures pieces
  let (arena, slots) := segments.foldl
    (fun (arena, slots) segment =>
      let (slot, arena) := arena.pushBack segment
      (arena, if segment.isMatch then slots ++ [slot] else slots))
    (s.segments, [])
  set { s with segments := arena, phase := .active }
  return slots.map s.handle

/-- A failure to cut, as a failure of the session. -/
def liftCut (pieces : Except CutError (List Piece)) : Except InspectionError (List Piece) :=
  match pieces with
  | .ok pieces => .ok pieces
  | .error cause => .error (.cut cause)

/-- Cuts the document around the first match of the pattern, or around the last if the session
    searches from right to left. -/
def find (pattern : String) : SessionAction (Option Handle) := do
  let s ← get
  s.ensureOpen
  let compiled ← s.settings.compile pattern
  beginQuery
  let found :=
    if s.settings.rightToLeft then (compiled.findAll s.document).getLast?
    else compiled.find? s.document
  match found with
  | none => return none
  | some m =>
    let captures := Captures.ofMatch compiled s.document m
    let pieces ← liftCut (cutSingle s.document captures.range)
    return (← install pieces [captures]).head?

/-- Cuts the document around all matches of the pattern. -/
def findAll (pattern : String) : SessionAction (List Handle) := do
  let s ← get
  s.ensureOpen
  if s.settings.rightToLeft then throw (.unsupportedOption "right_to_left" "find_all")
  let compiled ← s.settings.compile pattern
  beginQuery
  let captures := (compiled.findAll s.document).map (Captures.ofMatch compiled s.document)
  if captures.isEmpty then return []
  let pieces ← liftCut (cutAll s.document (captures.map Captures.range))
  install pieces captures

/-- Makes one segment of the whole document. -/
def everything : SessionAction Handle := do
  (← get).ensureOpen
  beginQuery
  let s ← get
  let (slot, arena) := s.segments.pushBack { text := s.document }
  set { s with segments := arena, phase := .active }
  return s.handle slot

end Session

end ScriptKeeper.Inspection
