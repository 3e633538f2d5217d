import ScriptKeeper.Diagnostics
import ScriptKeeper.Files.Error
import ScriptKeeper.Inspection.Cut
import ScriptKeeper.Inspection.Lock
import ScriptKeeper.Text.Quoted

/-!
# Failures of inspections

Everything that can go wrong with a session or with the table of locks, in words and in broad
categories.
-/

namespace ScriptKeeper.Inspection

/-- Why an operation of a session or a registry failed. -/
inductive InspectionError
  | invalidPattern (pattern : String) (fault : Pattern.Fault)
  | unsupportedOption (option operation : String)
  | contention (path : String) (held requested : LockMode)
  | staleHandle (handle current : UInt64)
  | foreignHandle (owner session : SessionId)
  | decompositionActive (session : SessionId)
  | noActiveDecomposition (session : SessionId)
  | readOnly (session : SessionId) (path : String)
  | closed (session : SessionId)
  | unknownSession (session : SessionId)
  | lineTrackingDisabled (session : SessionId)
  | textOnly (session : SessionId)
  | emptyPath
  | fileRead (path : String) (cause : FileError)
  | fileWrite (path : String) (cause : FileError)
  | cut (cause : CutError)
  deriving DecidableEq, Repr

/-- What a failure asks of the caller. -/
inductive ErrorCategory
  /-- The pattern or an option cannot be used. -/
  | configuration
  /-- Another session holds the file. -/
  | contention
  /-- The handle has outlived its decomposition. -/
  | staleHandle
  /-- A file could not be read or written. -/
  | files
  /-- The operation is not allowed in the present state. -/
  | misuse
  deriving DecidableEq, Repr

namespace InspectionError

/-- The category of a failure. -/
def category : InspectionError → ErrorCategory
  | invalidPattern .. | unsupportedOption .. => .configuration
  | contention .. => .contention
  | staleHandle .. => .staleHandle
  | fileRead .. | fileWrite .. => .files
  | _ => .misuse

/-- The failure in words. -/
def message (diagnostics : Diagnostics) : InspectionError → String
  | invalidPattern pattern fault =>
    "invalid regular expression " ++ Text.quoted pattern ++ ": " ++ diagnostics.pattern fault
  | unsupportedOption option operation =>
    "regex option \x60" ++ option ++ "\x60 is not supported by " ++ operation
  | contention path held requested =>
    path ++ " is held for " ++ held.text ++ "; " ++ requested.text ++ " access refused"
  | staleHandle handle current =>
    "segment handle from generation " ++ toString handle ++
      " is stale (session is at generation " ++ toString current ++ ")"
  | foreignHandle owner session =>
    "segment handle belongs to session " ++ owner.text ++ ", not " ++ session.text
  | decompositionActive session =>
    "session " ++ session.text ++
      " already has an active decomposition; commit or cancel it first"
  | noActiveDecomposition session =>
    "session " ++ session.text ++ " has no active decomposition"
  | readOnly session path =>
    "session " ++ session.text ++ " has no write permission for " ++ path
  | closed session => "session " ++ session.text ++ " is closed"
  | unknownSession session =>
    "session " ++ session.text ++ " holds no lock in this registry"
  | lineTrackingDisabled session =>
    "line tracking is disabled for session " ++ session.text
  | textOnly session =>
    "session " ++ session.text ++
      " inspects a file; only text sessions can replace their document"
  | emptyPath => "file inspection requires a non-empty path"
  | fileRead path cause => "failed to read " ++ path ++ ": " ++ cause.message
  | fileWrite path cause => "failed to write " ++ path ++ ": " ++ cause.message
  | cut cause => cause.message

end InspectionError

end ScriptKeeper.Inspection
