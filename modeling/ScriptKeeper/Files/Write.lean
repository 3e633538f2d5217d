import ScriptKeeper.Files.Tree

/-!
# Writing files

A file is written as a whole: a temporary file next to the target gets the content, and is
then renamed to the target. If one of the steps fails the temporary file is removed, so either
the target has the whole content or nothing has changed (`writeFile`).

A step can fail because of the files that there are, and it can fail because of the system. The
second is said by an argument of all that write, the *fault*.
-/

namespace ScriptKeeper

/-- An action on a file tree that can fail. What it has done before it fails stays done. -/
abbrev FileAction := ExceptT FileError (StateM FileTree)

/-- The step at which the system fails while a file is written, with its message. -/
inductive WriteFault
  /-- The temporary file cannot be made. -/
  | make (message : String)
  /-- The text is written in part only. The temporary file has the given content by then, which
      need not be a text. -/
  | write (content : Content) (message : String)
  /-- The temporary file cannot be renamed. -/
  | rename (message : String)
  deriving DecidableEq, Repr

namespace FileTree

/-- A name that is longer than all names in the tree, so that no entry has it. -/
def freshName (t : FileTree) : String :=
  let longest := ((t.entries.flatMap Prod.fst).map String.length).foldl max 0
  ".tmp" ++ String.ofList (List.replicate (longest + 1) 'x')

/-- Creates an empty temporary file in the folder that the names lead to. -/
def createTemporary (folder : List String) : FileAction Location := do
  let t ← get
  let loc ← (t.follow true maxLinks [] folder : Except FileError Location)
  if t.get? loc ≠ some .folder then throw .notFolder
  let temporary := loc ++ [t.freshName]
  set (t.put temporary (.file (.text "")))
  return temporary

/-- Creates an empty temporary file in the folder of a path. -/
def createTemporaryIn (folder : String) : FileAction Location := do
  if folder.isEmpty then createTemporary []
  else
    checkPath folder
    match (← get).steps? folder with
    | none => throw .notFound
    | some names => createTemporary names

/-- Writes a text to the file at a location. What has been written before the system fails stays in
    the file. -/
def writeText (loc : Location) (text : String) (fault : Option WriteFault) : FileAction Unit :=
  match fault with
  | some (.write content message) => do
    modify fun t => t.put loc (.file content)
    throw (.system message)
  | _ => modify fun t => t.put loc (.file (.text text))

/-- Renames the file at a location to the path of the given names. Unless `replace` is set,
    nothing may have that name, not even a link that leads nowhere. -/
def rename (loc : Location) (names : List String) (endsWithSlash replace : Bool) :
    FileAction Unit := do
  let t ← get
  let folder ← (t.follow true maxLinks [] names.dropLast : Except FileError Location)
  if t.get? folder ≠ some .folder then throw .notFolder
  match names.getLast? with
  | none | some "." | some ".." => throw (if replace then .busy else .alreadyExists)
  | some name =>
    if name.utf8ByteSize > maxNameLength then throw .nameTooLong
    let target := folder ++ [name]
    let present := t.get? target
    if present.isSome && !replace then throw .alreadyExists
    if endsWithSlash then throw .notFolder
    if present = some .folder then throw .isFolder
    match t.get? loc with
    | none => throw .notFound
    | some e => set ((t.erase loc).put target e)

/-- Performs an action on a temporary file, and removes the file if the action fails. -/
def removingOnFailure (temporary : Location) (action : FileAction Unit) : FileAction Unit :=
  tryCatch action fun e => do
    modify fun t => t.erase temporary
    throw e

/-- Renames the file at a location to a path. -/
def renameToPath (loc : Location) (path : String) (replace : Bool) : FileAction Unit := do
  checkPath path
  match (← get).namesFromBase? path with
  | none => throw .notFound
  | some names => rename loc names (Path.endsWithSlash path) replace

/-- Writes a file as a whole: a temporary file gets the text, and is renamed by `finish`. -/
def writeFile (temporary : FileAction Location) (text : String)
    (finish : Location → FileAction Unit) (fault : Option WriteFault) : FileAction Unit := do
  let loc ←
    match fault with
    | some (.make message) => throw (.system message)
    | _ => temporary
  removingOnFailure loc do
    writeText loc text fault
    match fault with
    | some (.rename message) => throw (.system message)
    | _ => finish loc

/-- Writes the file of a path. The temporary file is made in the folder of the path `folder`;
    the empty path stands for the base folder. -/
def writePathIn (folder path : String) (replace : Bool) (text : String)
    (fault : Option WriteFault := none) : FileAction Unit :=
  writeFile (createTemporaryIn folder) text (fun loc => renameToPath loc path replace) fault

/-- Writes the file of a path. -/
def writePath (path : String) (replace : Bool) (text : String)
    (fault : Option WriteFault := none) : FileAction Unit :=
  writePathIn (Path.folder path) path replace text fault

/-- Writes the file at a location. -/
def writeAt (loc : Location) (text : String) (fault : Option WriteFault := none) :
    FileAction Unit :=
  writeFile (createTemporary loc.dropLast) text
    (fun temporary => rename temporary loc false true) fault

end FileTree

end ScriptKeeper
