import ScriptKeeper.Proofs.Files.Write

/-!
# Entries of a folder

The path of an entry of a folder has the names of the folder and then that of the entry
(`namesFromBase?_join`). So if the folder is there, the target of the path is in it, under that name
(`targetOf_join_iff`), and where nothing has the name a file can be created
(`run_writePathIn_new`).
-/

namespace ScriptKeeper

/-- A name that an entry of a folder can have. -/
structure Path.IsEntryName (name : String) : Prop where
  noSlash : '/' ∉ name.toList
  notEmpty : name ≠ ""
  notHere : name ≠ "."
  notAbove : name ≠ ".."

namespace Path

variable {folder name : String}

instance : DecidablePred IsEntryName := fun name =>
  decidable_of_iff ('/' ∉ name.toList ∧ name ≠ "" ∧ name ≠ "." ∧ name ≠ "..")
    ⟨fun ⟨h₁, h₂, h₃, h₄⟩ => ⟨h₁, h₂, h₃, h₄⟩, fun ⟨h₁, h₂, h₃, h₄⟩ => ⟨h₁, h₂, h₃, h₄⟩⟩

theorem IsEntryName.isAbsolute (h : IsEntryName name) : isAbsolute name = false := by
  rw [Path.isAbsolute, beq_eq_false_iff_ne]
  exact fun hhead => h.noSlash (List.mem_of_head? hhead)

theorem IsEntryName.endsWithSlash (h : IsEntryName name) : endsWithSlash name = false := by
  rw [Path.endsWithSlash, beq_eq_false_iff_ne]
  exact fun hlast => h.noSlash (List.mem_of_getLast? hlast)

/-- What stands behind a slash comes last among the names. -/
theorem names_of_slash {path : String} {cs ds : List Char} (h : path.toList = cs ++ '/' :: ds) :
    names path = names (String.ofList cs) ++ names (String.ofList ds) := by
  have hsplit : (cs ++ '/' :: ds).splitOn '/' = cs.splitOn '/' ++ ds.splitOn '/' :=
    List.splitOnP_append_cons cs ds (beq_self_eq_true '/')
  rw [names, names, names, h, String.toList_ofList, String.toList_ofList, hsplit,
    List.filter_append, List.map_append]

theorem IsEntryName.names_eq (h : IsEntryName name) : names name = [name] := by
  have hne : name.toList ≠ [] := fun hnil => h.notEmpty (String.toList_eq_nil_iff.1 hnil)
  rw [names, List.splitOn_eq_singleton h.noSlash,
    List.filter_cons_of_pos (by simpa using hne), List.filter_nil, List.map_singleton,
    String.ofList_toList]

/-- The path of an entry of a folder has a slash before the name, unless the folder is the base
    folder. -/
theorem join_cases (h : IsEntryName name) (folder : String) :
    folder = "" ∧ join folder name = name ∨
      (join folder name).toList.head? = folder.toList.head? ∧
        ∃ cs, names folder = names (String.ofList cs) ∧
          (join folder name).toList = cs ++ '/' :: name.toList := by
  rw [join]
  split
  next hbase =>
    rw [h.isAbsolute, Bool.or_false, String.isEmpty_iff] at hbase
    exact .inl ⟨hbase, rfl⟩
  next hbase =>
    rw [h.isAbsolute, Bool.or_false, String.isEmpty_iff] at hbase
    have hne : folder.toList ≠ [] := fun hnil => hbase (String.toList_eq_nil_iff.1 hnil)
    have hhead (ds : List Char) : (folder.toList ++ ds).head? = folder.toList.head? := by
      obtain ⟨c, cs, hcs⟩ := List.exists_cons_of_ne_nil hne
      rw [hcs]
      rfl
    split
    next hslash =>
      obtain ⟨cs, hcs⟩ := List.getLast?_eq_some_iff.1 (beq_iff_eq.1 hslash)
      refine .inr ⟨by rw [String.toList_append, hhead], cs, ?_, ?_⟩
      · rw [names_of_slash hcs]
        exact List.append_nil _
      · rw [String.toList_append, hcs]
        simp
    next =>
      refine .inr ⟨by rw [String.toList_append, String.toList_append, List.append_assoc, hhead],
        folder.toList, by rw [String.ofList_toList], ?_⟩
      simp

theorem names_join (h : IsEntryName name) (folder : String) :
    names (join folder name) = names folder ++ [name] := by
  rcases join_cases h folder with ⟨rfl, hjoin⟩ | ⟨_, cs, hcs, hjoin⟩
  · rw [hjoin, h.names_eq]
    rfl
  · rw [names_of_slash hjoin, String.ofList_toList, hcs, h.names_eq]

theorem isAbsolute_join (h : IsEntryName name) (folder : String) :
    isAbsolute (join folder name) = isAbsolute folder := by
  rcases join_cases h folder with ⟨rfl, hjoin⟩ | ⟨hhead, _⟩
  · rw [hjoin, h.isAbsolute]
    rfl
  · rw [isAbsolute, hhead, isAbsolute]

theorem endsWithSlash_join (h : IsEntryName name) (folder : String) :
    endsWithSlash (join folder name) = false := by
  rcases join_cases h folder with ⟨rfl, hjoin⟩ | ⟨_, cs, _, hjoin⟩
  · rw [hjoin, h.endsWithSlash]
  · have hlast : (join folder name).toList.getLast? = name.toList.getLast? := by
      rcases List.eq_nil_or_concat name.toList with hnil | ⟨ds, c, hname⟩
      · exact absurd (String.toList_eq_nil_iff.1 hnil) h.notEmpty
      · rw [hjoin, hname, List.concat_eq_append, ← List.cons_append, ← List.append_assoc,
          List.getLast?_concat, List.getLast?_concat]
    rw [endsWithSlash, hlast]
    exact h.endsWithSlash

end Path

namespace FileTree

open ScriptKeeper.Path

variable {t : FileTree} {folder name : String} {dir loc : Location}

/-- From the base folder, the names of the path of an entry are those of the folder and that of the
    entry. -/
theorem namesFromBase?_join (h : IsEntryName name) {names : List String}
    (hnames : t.namesFromBase? folder = some names) :
    t.namesFromBase? (join folder name) = some (names ++ [name]) := by
  rw [namesFromBase?] at hnames ⊢
  rw [isAbsolute_join h, names_join h]
  split at hnames
  next habsolute =>
    rw [if_pos habsolute]
    dsimp only at hnames ⊢
    split at hnames
    next hbase =>
      obtain ⟨more, hmore⟩ := List.isPrefixOf_iff_prefix.1 hbase
      rw [← hmore, List.drop_left] at hnames
      rw [← hmore, List.append_assoc, if_pos (by simp), List.drop_left, Option.some.inj hnames]
    next => cases hnames
  next hrelative =>
    cases hnames
    rw [if_neg hrelative]

/-- A dot stays where it is. -/
theorem eq_of_follow_dot {links : Nat} {here : Location}
    (h : t.follow true links here ["."] = .ok loc) : here = loc := by
  by_cases hfolder : t.get? here = some .folder
  · have hwalk : t.walk true here ["."] = .ok (.arrived here) := by
      rw [walk, if_neg (not_not.2 hfolder), if_pos rfl, walk]
    cases links <;> (rw [follow, hwalk] at h; exact Except.ok.inj h)
  · have hwalk : t.walk true here ["."] = .error .notFolder := by rw [walk, if_pos hfolder]
    cases links <;> (rw [follow, hwalk] at h; cases h)

/-- The names of a path that leads to a folder lead there. -/
theorem LeadsToFolder.exists_names (h : t.LeadsToFolder folder dir) :
    ∃ names, t.namesFromBase? folder = some names ∧ t.follow true maxLinks [] names = .ok dir := by
  obtain ⟨⟨rfl, rfl⟩ | hlocate, _⟩ := h
  · exact ⟨[], rfl, rfl⟩
  obtain ⟨_, _, hlocate⟩ := bind_eq_ok_iff.1 hlocate
  rw [steps?] at hlocate
  cases hnames : t.namesFromBase? folder with
  | none => rw [hnames] at hlocate; cases hlocate
  | some names =>
    rw [hnames, Option.map_some] at hlocate
    dsimp only at hlocate
    refine ⟨names, rfl, ?_⟩
    split at hlocate
    next =>
      -- The slash at the end asks for a folder, and stays there.
      obtain ⟨dir', left, hdir, hstay⟩ := exists_of_follow_append hlocate
      rw [← eq_of_follow_dot hstay]
      exact hdir
    next => exact hlocate

/-- The path of an entry has its target in the folder, unless the path or the name is too long. -/
theorem targetOf_join_iff (h : IsEntryName name) (hdir : t.LeadsToFolder folder dir) :
    t.TargetOf (join folder name) loc ↔ checkPath (join folder name) = .ok () ∧
      name.utf8ByteSize ≤ maxNameLength ∧ loc = dir ++ [name] := by
  obtain ⟨names, hnames, hfollow⟩ := hdir.exists_names
  have hjoin := namesFromBase?_join h hnames
  constructor
  · rintro ⟨hchecked, _, names', hnames', htarget⟩
    obtain rfl : names ++ [name] = names' := Option.some.inj (hjoin.symm.trans hnames')
    generalize hall : names ++ [name] = all at htarget
    rcases htarget with ⟨hfollow', _, _, _, hlength⟩
    obtain ⟨rfl, hname⟩ := List.append_inj' hall rfl
    rw [List.singleton_inj] at hname
    rw [hfollow] at hfollow'
    rw [← hname] at hlength ⊢
    exact ⟨hchecked, hlength, by rw [Except.ok.inj hfollow']⟩
  · rintro ⟨hchecked, hlength, rfl⟩
    exact ⟨hchecked, endsWithSlash_join h folder, names ++ [name], hjoin,
      .entry hfollow hdir.2 h.notHere h.notAbove hlength⟩

/-! ### Creating an entry -/

theorem run_createTemporary_of_follow {names : List String}
    (hfollow : t.follow true maxLinks [] names = .ok dir) (hfolder : t.get? dir = some .folder) :
    (createTemporary names).run t = (.ok (dir ++ [t.freshName]),
      t.put (dir ++ [t.freshName]) (.file (.text ""))) := by
  simp only [createTemporary, run_bind, run_get, run_lift, ExceptT.bind_throw, hfollow]
  rw [if_neg (not_not.2 hfolder)]
  rfl

theorem run_createTemporaryIn_of_leads (hdir : t.LeadsToFolder folder dir) :
    (createTemporaryIn folder).run t = (.ok (dir ++ [t.freshName]),
      t.put (dir ++ [t.freshName]) (.file (.text ""))) := by
  obtain ⟨⟨rfl, rfl⟩ | hlocate, hfolder⟩ := hdir
  · exact run_createTemporary_of_follow rfl hfolder
  obtain ⟨_, hchecked, hlocate⟩ := bind_eq_ok_iff.1 hlocate
  have hempty : folder.isEmpty = false := by
    refine Bool.eq_false_iff.2 fun hempty => ?_
    rw [String.isEmpty_iff.1 hempty] at hchecked
    exact absurd hchecked nofun
  rw [createTemporaryIn, if_neg (by simp [hempty]), run_bind, run_lift, hchecked]
  dsimp only
  rw [run_bind, run_get]
  dsimp only
  split at hlocate
  next names hsteps =>
    rw [hsteps]
    exact run_createTemporary_of_follow hlocate hfolder
  next => cases hlocate

/-- A file is renamed to a target where nothing is. -/
theorem run_rename_new {names : List String} {source : Location} {e : Entry}
    (htarget : t.Target names loc) (hnew : t.get? loc = none) (he : t.get? source = some e)
    (replace : Bool) : (rename source names false replace).run t =
      (.ok (), (t.erase source).put loc e) := by
  rcases htarget with ⟨hfollow, hfolder, hd, hdd, hlength⟩
  simp only [rename, run_bind, run_get, run_lift, ExceptT.bind_throw, List.dropLast_concat,
    List.getLast?_concat, hfollow, hfolder]
  rw [if_neg (by simp), if_neg (Nat.not_lt.2 hlength), hnew, if_neg (by simp), if_neg (by simp),
    if_neg (by simp), he]
  rfl

/-- Where nothing is, a file is written, unless it has the name of the temporary file. -/
theorem run_writePathIn_new {path : String} (hdir : t.LeadsToFolder folder dir)
    (htarget : t.TargetOf path loc) (hnew : t.get? loc = none)
    (hname : loc ≠ dir ++ [t.freshName]) (replace : Bool) (text : String) :
    (writePathIn folder path replace text).run t = (.ok (), t.put loc (.file (.text text))) := by
  have hne : dir ++ [t.freshName] ≠ [] := by simp
  have hext : t.Extends (t.put (dir ++ [t.freshName]) (.file (.text text))) :=
    extends_put (get?_fresh t dir) _
  obtain ⟨names, hnames, hplace⟩ := htarget.names
  have hrename : (renameToPath (dir ++ [t.freshName]) path replace).run
      (t.put (dir ++ [t.freshName]) (.file (.text text))) =
        (.ok (), t.put loc (.file (.text text))) := by
    have hnames' : (t.put (dir ++ [t.freshName]) (.file (.text text))).namesFromBase? path =
        some names := by
      rw [namesFromBase?, base_put]
      exact hnames
    have hrun := run_rename_new (hplace.of_extends hext)
      (by rw [get?_put_of_ne t hname, hnew]) (get?_put_self t hne _) replace
    simp only [renameToPath, run_bind, run_lift, run_get, htarget.checked, hnames',
      htarget.noSlash]
    rw [hrun, erase_put_fresh]
  rw [writePathIn, run_writeFile, run_createTemporaryIn_of_leads hdir]
  dsimp only
  rw [put_put, hrename]

end FileTree

end ScriptKeeper
