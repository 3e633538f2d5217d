import Mathlib.Tactic.Common
import ScriptKeeper.Files.Write
import ScriptKeeper.Proofs.Action
import ScriptKeeper.Proofs.Files.Target

/-!
# Writing is all or nothing

A file is written by way of a temporary file. Its name is longer than all names in the tree, so
taking it away again leaves the tree as it was (`erase_put_fresh`), whatever it has got before one of
the steps fails.

* `rename_cases`: a rename changes nothing, or moves the file to its target;
* `run_writeFile_fault`: a failure of the system, at whatever step, leaves no trace;
* `writeAt_error`: a file that could not be written has left no trace;
* `Straight.writeAt_ok`: a file that was written is the only change;
* `writePathIn_cases`: the same for the file of a path.
-/

namespace ScriptKeeper.FileTree

/-! ### Putting and erasing -/

theorem put_put (t : FileTree) (loc : Location) (e e' : Entry) :
    (t.put loc e).put loc e' = t.put loc e' := by
  by_cases h : t.entries.any fun x => x.1 == loc
  · have hany : (t.put loc e).entries.any fun x => x.1 == loc := by
      rw [put, if_pos h, List.any_map]
      refine (List.any_congr rfl fun x => ?_).trans h
      by_cases hx : x.1 = loc <;> simp [hx]
    rw [put, if_pos hany, put, if_pos h, put, if_pos h, List.map_map]
    congr 2
    funext x
    by_cases hx : x.1 = loc <;> simp [hx]
  · have hany : (t.put loc e).entries.any fun x => x.1 == loc := by
      rw [put, if_neg h]
      simp
    rw [put, if_pos hany, put, if_neg h, put, if_neg h, List.map_append]
    congr 2
    · refine (List.map_congr_left fun x hx => ?_).trans (List.map_id _)
      rw [if_neg fun hloc => h (List.any_eq_true.2 ⟨x, hx, hloc⟩)]
      rfl
    · simp

/-! ### Fresh names -/

theorem le_foldl_max {ns : List Nat} {n k : Nat} (h : n ∈ ns ∨ n ≤ k) : n ≤ ns.foldl max k := by
  induction ns generalizing k with
  | nil => simpa using h
  | cons m ns ih =>
    rw [List.foldl_cons]
    exact ih (by grind)

theorem freshName_not_mem {t : FileTree} {x : Location × Entry} (hx : x ∈ t.entries) :
    t.freshName ∉ x.1 := by
  intro h
  have hle := le_foldl_max (k := 0) (.inl (List.mem_map_of_mem (f := String.length)
    (List.mem_flatMap.2 ⟨x, hx, h⟩)))
  rw [freshName] at hle
  simp at hle
  omega

/-- Nothing has a fresh name. -/
theorem get?_fresh (t : FileTree) (folder : Location) :
    t.get? (folder ++ [t.freshName]) = none := by
  rw [get?_of_ne_nil t (by simp), Option.map_eq_none_iff, List.find?_eq_none]
  intro x hx hloc
  exact freshName_not_mem hx (by rw [beq_iff_eq.1 hloc]; simp)

/-- A fresh entry that is taken away again has left no trace. -/
theorem erase_put_fresh (t : FileTree) (folder : Location) (e : Entry) :
    (t.put (folder ++ [t.freshName]) e).erase (folder ++ [t.freshName]) = t := by
  have habsent : ¬ t.entries.any fun x => x.1 == folder ++ [t.freshName] := by
    rw [List.any_eq_true]
    rintro ⟨x, hx, hloc⟩
    exact freshName_not_mem hx (by rw [beq_iff_eq.1 hloc]; simp)
  have hkeep : t.entries.filter (fun x => !(folder ++ [t.freshName]).isPrefixOf x.1) =
      t.entries := by
    rw [List.filter_eq_self]
    intro x hx
    rw [Bool.not_eq_true', ← Bool.not_eq_true, List.isPrefixOf_iff_prefix]
    exact fun hp => freshName_not_mem hx (hp.subset (by simp))
  rw [put, if_neg habsent, erase]
  simp only [List.filter_append, hkeep]
  simp

/-! ### The steps of writing -/

/-- The action makes a temporary file in a folder as `made` says, or nothing. -/
def MakesTemporary (t : FileTree) (temporary : FileAction Location) (made : Location → Prop) :
    Prop :=
  (∃ e, temporary.run t = (.error e, t)) ∨ ∃ folder, made folder ∧
    temporary.run t = (.ok (folder ++ [t.freshName]),
      t.put (folder ++ [t.freshName]) (.file (.text "")))

/-- A temporary file with the text is moved to where `place` says, or it is there still. -/
def MovesTemporary (t : FileTree) (text : String) (finish : Location → FileAction Unit)
    (place : Location → Prop) : Prop :=
  ∀ folder,
    (∃ e, (finish (folder ++ [t.freshName])).run
        (t.put (folder ++ [t.freshName]) (.file (.text text))) =
          (.error e, t.put (folder ++ [t.freshName]) (.file (.text text)))) ∨
      ∃ target, place target ∧
        (finish (folder ++ [t.freshName])).run
          (t.put (folder ++ [t.freshName]) (.file (.text text))) =
            (.ok (), t.put target (.file (.text text)))

theorem makesTemporary_createTemporary (t : FileTree) (names : List String) :
    t.MakesTemporary (createTemporary names) fun folder =>
      t.follow true maxLinks [] names = .ok folder ∧ t.get? folder = some .folder := by
  simp only [MakesTemporary, createTemporary, run_bind, run_get, run_lift, ExceptT.bind_throw]
  cases t.follow true maxLinks [] names with
  | error e => exact .inl ⟨e, rfl⟩
  | ok folder =>
    dsimp only
    split
    next => exact .inl ⟨_, rfl⟩
    next hf => exact .inr ⟨folder, ⟨rfl, Decidable.not_not.1 hf⟩, rfl⟩

/-- A rename changes nothing, or moves the entry to its target, which was no folder. -/
theorem rename_cases (t : FileTree) (loc : Location) (names : List String)
    (endsWithSlash replace : Bool) :
    (∃ e, (rename loc names endsWithSlash replace).run t = (.error e, t)) ∨
      ∃ target e, t.Target names target ∧ endsWithSlash = false ∧
        (replace = false → t.get? target = none) ∧ t.get? target ≠ some .folder ∧
        t.get? loc = some e ∧
        (rename loc names endsWithSlash replace).run t = (.ok (), (t.erase loc).put target e) := by
  simp only [rename, run_bind, run_get, run_lift, ExceptT.bind_throw]
  cases hfollow : t.follow true maxLinks [] names.dropLast with
  | error e => exact .inl ⟨e, rfl⟩
  | ok folder =>
    dsimp only
    split
    next => exact .inl ⟨_, rfl⟩
    next hfolder =>
    split
    next => exact .inl ⟨_, rfl⟩
    next => exact .inl ⟨_, rfl⟩
    next => exact .inl ⟨_, rfl⟩
    next name hd hdd hname =>
    split
    next => exact .inl ⟨_, rfl⟩
    next hlength =>
    split
    next => exact .inl ⟨_, rfl⟩
    next hpresent =>
    split
    next => exact .inl ⟨_, rfl⟩
    next hslash =>
    split
    next => exact .inl ⟨_, rfl⟩
    next hno =>
    split
    next => exact .inl ⟨_, rfl⟩
    next e he =>
    obtain ⟨names, rfl⟩ := List.getLast?_eq_some_iff.1 hname
    rw [List.dropLast_concat] at hfollow
    have htarget : t.Target (names ++ [name]) (folder ++ [name]) :=
      .entry hfollow (Decidable.not_not.1 hfolder) (by rintro rfl; exact hd rfl)
        (by rintro rfl; exact hdd rfl) (Nat.not_lt.1 hlength)
    refine .inr ⟨_, e, htarget, by simpa using hslash, fun hr => ?_, hno, he, rfl⟩
    simpa [hr] using hpresent

/-- What an action leaves on a temporary file is taken away if the action fails. -/
theorem run_removingOnFailure (t : FileTree) (loc : Location) (action : FileAction Unit) :
    (removingOnFailure loc action).run t = match action.run t with
      | (.ok _, t') => (.ok (), t')
      | (.error e, t') => (.error e, t'.erase loc) := by
  simp only [removingOnFailure, run_tryCatch, run_bind, run_modify, run_throw]
  rcases action.run t with ⟨_ | _, _⟩ <;> rfl

/-- A file is written to a temporary file, which is taken away if it cannot be renamed. -/
theorem run_writeFile (t : FileTree) (temporary : FileAction Location) (text : String)
    (finish : Location → FileAction Unit) :
    (writeFile temporary text finish none).run t = match temporary.run t with
      | (.ok loc, t') => match (finish loc).run (t'.put loc (.file (.text text))) with
        | (.ok _, t'') => (.ok (), t'')
        | (.error e, t'') => (.error e, t''.erase loc)
      | (.error e, t') => (.error e, t') := by
  simp only [writeFile, writeText, run_bind]
  rcases temporary.run t with ⟨e | loc, t'⟩
  · rfl
  · dsimp only
    rw [run_removingOnFailure, run_bind, run_modify]

/-- Where the system fails, the file is not written, and nothing is left of what has been. -/
theorem run_writeFile_fault {t : FileTree} {temporary : FileAction Location}
    {made : Location → Prop} (h : t.MakesTemporary temporary made) (text : String)
    (finish : Location → FileAction Unit) (fault : WriteFault) :
    ∃ e, (writeFile temporary text finish (some fault)).run t = (.error e, t) := by
  -- Whatever the temporary file has got by then, it is erased with the file.
  have hnothing folder content : ((t.put (folder ++ [t.freshName]) (.file (.text ""))).put
      (folder ++ [t.freshName]) (.file content)).erase (folder ++ [t.freshName]) = t := by
    rw [put_put, erase_put_fresh]
  cases fault with
  | make message => exact ⟨.system message, rfl⟩
  | write _ message | rename message =>
    rcases h with ⟨e, he⟩ | ⟨folder, _, hok⟩
    · exact ⟨e, by simp only [writeFile, run_bind, he]⟩
    · refine ⟨.system message, ?_⟩
      simp only [writeFile, writeText, run_bind, hok, run_removingOnFailure, run_modify, run_throw,
        hnothing]

theorem movesTemporary_rename (t : FileTree) (text : String) (names : List String)
    (endsWithSlash replace : Bool) :
    t.MovesTemporary text (fun loc => rename loc names endsWithSlash replace) fun target =>
      t.Target names target ∧ endsWithSlash = false ∧ (replace = false → t.get? target = none) ∧
        t.get? target ≠ some .folder := by
  intro folder
  have hne : folder ++ [t.freshName] ≠ [] := by simp
  have hext := extends_put (get?_fresh t folder) (.file (.text text))
  rcases rename_cases (t.put (folder ++ [t.freshName]) (.file (.text text)))
    (folder ++ [t.freshName]) names endsWithSlash replace with
    herror | ⟨target, e, htarget, hslash, hnew, hno, hget, hok⟩
  · exact .inl herror
  rw [get?_put_self t hne] at hget
  cases hget
  -- The names have the target that they have without the temporary file.
  refine .inr ⟨target, ⟨(htarget.of_put hne).of_extends (erase_extends hne), hslash, fun hr => ?_,
    fun h => hno (hext.get? h)⟩, by rw [hok, erase_put_fresh]⟩
  cases hold : t.get? target with
  | none => rfl
  | some e =>
    rw [hext.get? hold] at hnew
    cases hnew hr

/-- A file is written as a whole, or not at all: the temporary file is made in some folder, and its
    renaming puts it where `place` says, or fails. It is written only if the system does not fail. -/
theorem writeFile_cases {t : FileTree} {temporary : FileAction Location} {text : String}
    {finish : Location → FileAction Unit} {made place : Location → Prop}
    (htemporary : t.MakesTemporary temporary made) (hfinish : t.MovesTemporary text finish place)
    (fault : Option WriteFault) :
    (∃ e, (writeFile temporary text finish fault).run t = (.error e, t)) ∨
      ∃ folder target, fault = none ∧ made folder ∧ place target ∧
        (writeFile temporary text finish fault).run t =
          (.ok (), t.put target (.file (.text text))) := by
  cases fault with
  | some fault => exact .inl (run_writeFile_fault htemporary text finish fault)
  | none =>
  rw [run_writeFile]
  rcases htemporary with ⟨e, he⟩ | ⟨folder, hmade, htemp⟩
  · exact .inl ⟨e, by rw [he]⟩
  rw [htemp]
  dsimp only
  rw [put_put]
  rcases hfinish folder with ⟨e, he⟩ | ⟨target, hplace, hok⟩
  · refine .inl ⟨e, ?_⟩
    rw [he]
    dsimp only
    rw [erase_put_fresh]
  · exact .inr ⟨folder, target, rfl, hmade, hplace, by rw [hok]⟩

/-! ### Writing at a location -/

/-- A file that could not be written has left no trace, and one that was written is the only
    change: it is the target of the location. -/
theorem writeAt_target_cases (t : FileTree) (loc : Location) (text : String)
    (fault : Option WriteFault) :
    (∃ e, (writeAt loc text fault).run t = (.error e, t)) ∨
      ∃ target, fault = none ∧ t.Target loc target ∧ t.get? target ≠ some .folder ∧
        (writeAt loc text fault).run t = (.ok (), t.put target (.file (.text text))) := by
  rcases writeFile_cases (makesTemporary_createTemporary t loc.dropLast)
    (movesTemporary_rename t text loc false true) fault with
    herror | ⟨_, target, hnone, _, ⟨htarget, _, _, hno⟩, hok⟩
  · exact .inl herror
  · exact .inr ⟨target, hnone, htarget, hno, hok⟩

theorem writeAt_cases (t : FileTree) (loc : Location) (text : String) :
    (∃ e, (writeAt loc text).run t = (.error e, t)) ∨
      ∃ folder name, t.follow true maxLinks [] loc.dropLast = .ok folder ∧
        loc.getLast? = some name ∧ t.get? (folder ++ [name]) ≠ some .folder ∧
        (writeAt loc text).run t =
          (.ok (), t.put (folder ++ [name]) (.file (.text text))) := by
  rcases writeAt_target_cases t loc text none with herror | ⟨_, _, htarget, hno, hok⟩
  · exact .inl herror
  cases htarget with
  | @entry names folder name hfollow =>
    refine .inr ⟨folder, name, ?_, List.getLast?_concat, hno, hok⟩
    rw [List.dropLast_concat, hfollow]

/-- A file that could not be written has left no trace. -/
theorem writeAt_error {t t' : FileTree} {loc : Location} {text : String}
    {fault : Option WriteFault} {e : FileError}
    (h : (writeAt loc text fault).run t = (.error e, t')) : t' = t := by
  rcases writeAt_target_cases t loc text fault with ⟨e', he⟩ | ⟨_, _, _, _, hok⟩
  · rw [he] at h; cases h; rfl
  · rw [hok] at h; cases h

/-- A file is written only if the system does not fail. -/
theorem fault_eq_none_of_writeAt {t t' : FileTree} {loc : Location} {text : String}
    {fault : Option WriteFault} (h : (writeAt loc text fault).run t = (.ok (), t')) :
    fault = none := by
  rcases writeAt_target_cases t loc text fault with ⟨e', he⟩ | ⟨_, hnone, _, _, _⟩
  · rw [he] at h; cases h
  · exact hnone

/-- A straight location is written where it says. -/
theorem Straight.writeAt_ok {t t' : FileTree} {loc : Location} {text : String}
    (hs : t.Straight loc) (h : (writeAt loc text).run t = (.ok (), t')) :
    t' = t.put loc (.file (.text text)) := by
  rcases writeAt_cases t loc text with ⟨e', he⟩ | ⟨folder, name, hfollow, hname, _, hok⟩
  · rw [he] at h; cases h
  · have hne : loc ≠ [] := by rintro rfl; cases hname
    rw [hs.follow_dropLast hne] at hfollow
    cases hfollow
    rw [hok] at h
    cases h
    obtain ⟨folder, rfl⟩ := List.getLast?_eq_some_iff.1 hname
    rw [List.dropLast_concat]

/-! ### Writing at a path -/

/-- The path leads to the folder at a location. The empty path stands for the base folder. -/
def LeadsToFolder (t : FileTree) (path : String) (dir : Location) : Prop :=
  (path = "" ∧ dir = [] ∨ t.locate path = .ok dir) ∧ t.get? dir = some .folder

theorem makesTemporary_createTemporaryIn (t : FileTree) (folder : String) :
    t.MakesTemporary (createTemporaryIn folder) (t.LeadsToFolder folder) := by
  rw [createTemporaryIn]
  split
  next hempty =>
    have hpath : folder = "" := by simpa using hempty
    rcases makesTemporary_createTemporary t [] with herror | ⟨dir, ⟨hfollow, hfolder⟩, hok⟩
    · exact .inl herror
    · cases hfollow
      exact .inr ⟨[], ⟨.inl ⟨hpath, rfl⟩, hfolder⟩, hok⟩
  next =>
    rw [MakesTemporary, run_bind, run_lift]
    cases hc : checkPath folder with
    | error e => exact .inl ⟨e, rfl⟩
    | ok _ =>
      dsimp only
      rw [run_bind, run_get]
      dsimp only
      cases hsteps : t.steps? folder with
      | none => exact .inl ⟨_, rfl⟩
      | some names =>
        rcases makesTemporary_createTemporary t names with herror | ⟨dir, ⟨hfollow, hfolder⟩, hok⟩
        · exact .inl herror
        · refine .inr ⟨dir, ⟨.inr ?_, hfolder⟩, hok⟩
          rw [locate, hc, ok_bind, hsteps]
          exact hfollow

theorem movesTemporary_renameToPath (t : FileTree) (text path : String) (replace : Bool) :
    t.MovesTemporary text (fun loc => renameToPath loc path replace) fun target =>
      t.TargetOf path target ∧ (replace = false → t.get? target = none) ∧
        t.get? target ≠ some .folder := by
  intro folder
  have hnames : (t.put (folder ++ [t.freshName]) (.file (.text text))).namesFromBase? path =
      t.namesFromBase? path := by
    rw [namesFromBase?, namesFromBase?, base_put]
  simp only [renameToPath, run_bind, run_lift, run_get]
  cases hc : checkPath path with
  | error e => exact .inl ⟨e, rfl⟩
  | ok _ =>
  dsimp only
  rw [hnames]
  cases hpath : t.namesFromBase? path with
  | none => exact .inl ⟨_, rfl⟩
  | some names =>
    rcases movesTemporary_rename t text names (Path.endsWithSlash path) replace folder with
      herror | ⟨target, ⟨htarget, hslash, hnew, hno⟩, hok⟩
    · exact .inl herror
    · exact .inr ⟨target, ⟨⟨hc, hslash, names, hpath, htarget⟩, hnew, hno⟩, hok⟩

/-- A file that could not be written has left no trace, and one that was written is the only change:
    it is the target of the path. -/
theorem writePathIn_cases (t : FileTree) (folder path : String) (replace : Bool) (text : String)
    (fault : Option WriteFault) :
    (∃ e, (writePathIn folder path replace text fault).run t = (.error e, t)) ∨
      ∃ dir target, fault = none ∧ t.LeadsToFolder folder dir ∧ (t.TargetOf path target ∧
        (replace = false → t.get? target = none) ∧ t.get? target ≠ some .folder) ∧
        (writePathIn folder path replace text fault).run t =
          (.ok (), t.put target (.file (.text text))) :=
  writeFile_cases (makesTemporary_createTemporaryIn t folder)
    (movesTemporary_renameToPath t text path replace) fault

/-! ### What a written file leaves as it is -/

theorem ne_nil_of_textAt {t : FileTree} {loc : Location} {text : String}
    (h : t.textAt loc = .ok text) : loc ≠ [] := by
  rintro rfl
  cases h

theorem not_folder_of_textAt {t : FileTree} {loc : Location} {text : String}
    (h : t.textAt loc = .ok text) : t.get? loc ≠ some .folder := fun hfolder => by
  rw [textAt, hfolder] at h
  cases h

/-- An entry that is put where no folder is leaves straight locations straight. -/
theorem Straight.put {t : FileTree} {loc other : Location} (h : t.Straight loc)
    (hno : t.get? other ≠ some .folder) (e : Entry) : (t.put other e).Straight loc := by
  intro folder name hp
  obtain ⟨hf, hname⟩ := h folder name hp
  refine ⟨?_, hname⟩
  rw [get?_put_of_ne t (by rintro rfl; exact hno hf), hf]

theorem textAt_put_self (t : FileTree) {loc : Location} (h : loc ≠ []) (text : String) :
    (t.put loc (.file (.text text))).textAt loc = .ok text := by
  rw [textAt, get?_put_self t h]

theorem textAt_put_of_ne (t : FileTree) {loc other : Location} (h : loc ≠ other) (e : Entry) :
    (t.put other e).textAt loc = t.textAt loc := by
  rw [textAt, get?_put_of_ne t h, textAt]

end ScriptKeeper.FileTree
