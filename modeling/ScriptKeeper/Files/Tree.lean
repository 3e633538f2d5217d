import ScriptKeeper.Files.Error
import ScriptKeeper.Files.Path

/-!
# File trees

The files that a program works on: below a base folder, in which relative paths start, every
entry has a location, the names that lead to it. An entry is a file, a folder or a symbolic
link. The entries are listed in the order in which a folder yields them.

* `locate`: the location that a path leads to, links followed;
* `readText`, `list?`, `isFile`, `isFolder`: what can be learnt of a path;
* `put` and `erase`: the tree with one entry set, or removed with all that is below it.
-/

namespace ScriptKeeper

/-- The content of a file: a text, or bytes that are no text in UTF-8. -/
inductive Content
  | text (value : String)
  | binary (bytes : List UInt8)
  deriving DecidableEq, Repr

/-- An entry of a file tree. -/
inductive Entry
  | file (content : Content)
  | folder
  /-- A symbolic link to the path `target`, relative to the folder of the link. -/
  | link (target : String)
  deriving DecidableEq, Repr

/-- Whether an entry is a file. -/
def Entry.isFile : Entry → Bool
  | .file _ => true
  | _ => false

/-- The names that lead from the base folder to an entry. -/
abbrev Location := List String

/-- The entries below a base folder. -/
structure FileTree where
  /-- The absolute path of the base folder. -/
  base : String := ""
  entries : List (Location × Entry) := []
  deriving DecidableEq, Repr

namespace FileTree

/-- How many links may be followed on one path. -/
def maxLinks : Nat := 40

/-- How many bytes a name may have. -/
def maxNameLength : Nat := 255

/-- How many bytes a path may have. -/
def maxPathLength : Nat := 4095

/-- The entry at a location; the base folder is at the empty one. -/
def get? (t : FileTree) (loc : Location) : Option Entry :=
  if loc.isEmpty then some .folder
  else (t.entries.find? fun e => e.1 == loc).map Prod.snd

/-- The tree with an entry at a location, in place of the one that is there. A new entry comes
    last in its folder. -/
def put (t : FileTree) (loc : Location) (e : Entry) : FileTree :=
  if t.entries.any fun x => x.1 == loc then
    { t with entries := t.entries.map fun x => if x.1 == loc then (loc, e) else x }
  else { t with entries := t.entries ++ [(loc, e)] }

/-- The tree without the entry at a location and all entries below it. -/
def erase (t : FileTree) (loc : Location) : FileTree :=
  { t with entries := t.entries.filter fun x => !loc.isPrefixOf x.1 }

/-- Except at the base folder, an entry is looked up in the list. -/
theorem get?_of_ne_nil (t : FileTree) {loc : Location} (h : loc ≠ []) :
    t.get? loc = (t.entries.find? fun x => x.1 == loc).map Prod.snd := by
  rw [get?, if_neg (by simpa using h)]

/-- The entry that was put at a location is there. -/
theorem get?_put_self (t : FileTree) {loc : Location} (h : loc ≠ []) (e : Entry) :
    (t.put loc e).get? loc = some e := by
  have keep : ((fun x : Location × Entry => x.1 == loc) ∘
      fun x => if x.1 == loc then (loc, e) else x) = fun x => x.1 == loc := by
    funext x
    by_cases hx : x.1 = loc <;> simp [hx]
  rw [get?_of_ne_nil _ h, put]
  split
  next hany =>
    obtain ⟨y, hy⟩ := Option.isSome_iff_exists.1 (List.find?_isSome.2 (List.any_eq_true.1 hany))
    have hloc := List.find?_some hy
    rw [List.find?_map, keep, hy, Option.map_some, Option.map_some, if_pos hloc]
  next hany =>
    have hnone : t.entries.find? (fun x => x.1 == loc) = none := by
      rw [List.find?_eq_none]
      intro x hx hloc
      exact hany (List.any_eq_true.2 ⟨x, hx, hloc⟩)
    rw [List.find?_append, hnone, Option.none_or]
    simp

/-- Putting an entry at one location leaves the others as they are. -/
theorem get?_put_of_ne (t : FileTree) {loc other : Location} (h : other ≠ loc) (e : Entry) :
    (t.put loc e).get? other = t.get? other := by
  by_cases hroot : other = []
  · rw [hroot]; rfl
  have keep : ((fun x : Location × Entry => x.1 == other) ∘
      fun x => if x.1 == loc then (loc, e) else x) = fun x => x.1 == other := by
    funext x
    by_cases hx : x.1 = loc <;> simp [hx]
  rw [get?_of_ne_nil _ hroot, get?_of_ne_nil _ hroot, put]
  split
  · rw [List.find?_map, keep]
    cases hfound : t.entries.find? (fun x => x.1 == other) with
    | none => rfl
    | some y =>
      have hloc : y.1 = other := by simpa using List.find?_some hfound
      rw [Option.map_some, if_neg (by simpa [hloc] using h)]
  · rw [List.find?_append]
    simp [Ne.symm h]

/-- The names of the entries of the folder at a location, in the order of the folder. -/
def children (t : FileTree) (loc : Location) : List String :=
  t.entries.filterMap fun x =>
    if x.1.dropLast == loc then x.1.getLast? else none

/-- The absolute path of a location. -/
def absolutePath (t : FileTree) (loc : Location) : String :=
  loc.foldl (fun path name => path ++ "/" ++ name) t.base

/-! ### Following paths -/

/-- Where the names of a path lead to. -/
inductive Walk
  /-- All names have been followed. -/
  | arrived (loc : Location)
  /-- A link in the folder `folder` is met, before the remaining names. -/
  | link (folder : Location) (target : String) (remaining : List String)

/-- Follows names from a location up to the first link. A link that comes last is followed
    only if asked for. -/
def walk (t : FileTree) (followLast : Bool) : Location → List String → Except FileError Walk
  | here, [] => .ok (.arrived here)
  | here, name :: rest =>
    if t.get? here ≠ some .folder then .error .notFolder
    else if name = "." then t.walk followLast here rest
    else if name = ".." then t.walk followLast here.dropLast rest
    else if name.utf8ByteSize > maxNameLength then .error .nameTooLong
    else match t.get? (here ++ [name]) with
      | none => .error .notFound
      | some (.link target) =>
        if rest.isEmpty && !followLast then .ok (.arrived (here ++ [name]))
        else .ok (.link here target rest)
      | some _ => t.walk followLast (here ++ [name]) rest

/-- The names of a path, as seen from the base folder if the path is absolute. Outside the base
    folder there is nothing. -/
def namesFromBase? (t : FileTree) (path : String) : Option (List String) :=
  if Path.isAbsolute path then
    let base := Path.names t.base
    if base.isPrefixOf (Path.names path) then some ((Path.names path).drop base.length) else none
  else some (Path.names path)

/-- The names that a path gives to follow: a slash at its end asks for a folder. -/
def steps? (t : FileTree) (path : String) : Option (List String) :=
  (t.namesFromBase? path).map fun names =>
    if Path.endsWithSlash path then names ++ ["."] else names

/-- Follows names from a location, through at most as many links as given. -/
def follow (t : FileTree) (followLast : Bool) :
    Nat → Location → List String → Except FileError Location
  | links, here, names =>
    match t.walk followLast here names with
    | .error e => .error e
    | .ok (.arrived loc) => .ok loc
    | .ok (.link folder target remaining) =>
      match links with
      | 0 => .error .tooManyLinks
      | links + 1 =>
        match t.steps? target with
        | none => .error .notFound
        | some names =>
          let start := if Path.isAbsolute target then [] else folder
          t.follow followLast links start (names ++ remaining)

/-- Whether a path is acceptable to the operating system at all. -/
def checkPath (path : String) : Except FileError Unit :=
  if path.toList.contains '\x00' then .error .nulInPath
  else if path.isEmpty then .error .notFound
  else if path.utf8ByteSize > maxPathLength then .error .nameTooLong
  else .ok ()

/-- The location that a path leads to. -/
def locate (t : FileTree) (path : String) (followLast : Bool := true) :
    Except FileError Location := do
  checkPath path
  match t.steps? path with
  | some names => t.follow followLast maxLinks [] names
  | none => .error .notFound

/-! ### Reading -/

/-- The text of the file at a location. -/
def textAt (t : FileTree) (loc : Location) : Except FileError String :=
  match t.get? loc with
  | some (.file (.text s)) => .ok s
  | some (.file (.binary _)) => .error .notText
  | some .folder => .error .isFolder
  | some (.link _) => .error .tooManyLinks
  | none => .error .notFound

/-- The text of the file that a path leads to. -/
def readText (t : FileTree) (path : String) : Except FileError String := do
  t.textAt (← t.locate path)

/-- Whether a path leads to some entry. -/
def exists? (t : FileTree) (path : String) : Bool := (t.locate path).isOk

/-- Whether a path leads to a file. -/
def isFile (t : FileTree) (path : String) : Bool :=
  match t.locate path with
  | .ok loc => (t.get? loc).any Entry.isFile
  | .error _ => false

/-- Whether a path leads to a folder. -/
def isFolder (t : FileTree) (path : String) : Bool :=
  match t.locate path with
  | .ok loc => t.get? loc == some .folder
  | .error _ => false

/-- The names in the folder that a path leads to, in the order of the folder. -/
def list? (t : FileTree) (path : String) : Except FileError (List String) := do
  let loc ← t.locate path
  if t.get? loc = some .folder then return t.children loc else .error .notFolder

end FileTree

end ScriptKeeper
