import ScriptKeeper.Proofs.Files.Follow

/-!
# Targets

A file is written at the *target* of a path: the place of its last name in the folder to which the
other names lead. The last name itself is not followed, so a link there is replaced, and what it
leads to stays as it is.

* `Target`, `TargetOf`: the targets of names and of paths;
* `follow_of_put`: a file in place of an entry stops whatever went through that entry, and nothing
  else.
-/

namespace ScriptKeeper.FileTree

/-! ### Targets -/

/-- What names lead to if the last of them is not followed: the place of that name in the folder to
    which the others lead, whether there is an entry or not. -/
inductive Target (t : FileTree) : List String → Location → Prop
  | entry {names : List String} {folder : Location} {name : String} :
      t.follow true maxLinks [] names = .ok folder → t.get? folder = some .folder →
      name ≠ "." → name ≠ ".." → name.utf8ByteSize ≤ maxNameLength →
      Target t (names ++ [name]) (folder ++ [name])

/-- What a path leads to if its last name is not followed. A path that ends with a slash asks for a
    folder, so it has no target. -/
structure TargetOf (t : FileTree) (path : String) (loc : Location) : Prop where
  checked : checkPath path = .ok ()
  noSlash : Path.endsWithSlash path = false
  names : ∃ names, t.namesFromBase? path = some names ∧ t.Target names loc

theorem Target.ne_nil {t : FileTree} {names : List String} {loc : Location}
    (h : t.Target names loc) : loc ≠ [] := by
  cases h
  simp

theorem Target.of_extends {t t' : FileTree} (ht : t.Extends t') {names : List String}
    {loc : Location} (h : t.Target names loc) : t'.Target names loc := by
  cases h with
  | entry hfollow hfolder hd hdd hlength =>
    exact .entry (follow_of_extends ht hfollow) (ht.get? hfolder) hd hdd hlength

/-- Names have one target. -/
theorem Target.unique {t : FileTree} {names : List String} {loc loc' : Location}
    (h : t.Target names loc) (h' : t.Target names loc') : loc = loc' := by
  cases h with
  | entry hfollow =>
    generalize hn : _ ++ [_] = names at h'
    cases h' with
    | entry hfollow' =>
      obtain ⟨rfl, hname⟩ := List.append_inj' hn rfl
      cases hname
      rw [hfollow] at hfollow'
      cases hfollow'
      rfl

/-! ### A file in place of an entry -/

section

variable {t : FileTree} {loc : Location} {content : Content}

theorem get?_erase_outside {other : Location} (h : ¬ loc <+: other) :
    (t.erase loc).get? other = t.get? other := by
  by_cases hroot : other = []
  · rw [hroot]; rfl
  rw [get?_of_ne_nil _ hroot, get?_of_ne_nil _ hroot, erase, List.find?_filter]
  congr 2
  funext x
  by_cases hx : x.1 = other
  · simpa [hx, ← List.isPrefixOf_iff_prefix] using h
  · simp [hx]

theorem get?_erase_below {other : Location} (h : loc <+: other) (hne : loc ≠ []) :
    (t.erase loc).get? other = none := by
  have hroot : other ≠ [] := by
    rintro rfl
    exact hne (List.prefix_nil.1 h)
  rw [get?_of_ne_nil _ hroot, erase, List.find?_filter, Option.map_eq_none_iff,
    List.find?_eq_none]
  intro x _
  by_cases hx : x.1 = other
  · simpa [hx] using h
  · simp [hx]

/-- Whatever is put in the place of an entry, the tree has all that it has without the entry. -/
theorem erase_extends_put (hne : loc ≠ []) (e : Entry) : (t.erase loc).Extends (t.put loc e) where
  base := base_put t loc e
  get? {other e'} h := by
    have hprefix : ¬ loc <+: other := fun hprefix => by
      rw [get?_erase_below hprefix hne] at h
      cases h
    rw [get?_erase_outside hprefix] at h
    rw [get?_put_of_ne t (by rintro rfl; exact hprefix (List.prefix_refl _)), h]

theorem erase_extends (hne : loc ≠ []) : (t.erase loc).Extends t where
  base := rfl
  get? {other e'} h := by
    have hprefix : ¬ loc <+: other := fun hprefix => by
      rw [get?_erase_below hprefix hne] at h
      cases h
    rwa [get?_erase_outside hprefix] at h

/-- No walk goes through a file: it ends there, or goes where it goes without the file. -/
theorem walk_of_put (hne : loc ≠ []) {here : Location} {names : List String} {w : Walk}
    (hhere : ¬ loc <+: here)
    (hw : (t.put loc (.file content)).walk true here names = .ok w) :
    w = .arrived loc ∨ (t.erase loc).walk true here names = .ok w ∧ ¬ loc <+: w.place := by
  have hget {other : Location} (h : ¬ loc <+: other) :
      (t.put loc (.file content)).get? other = (t.erase loc).get? other := by
    rw [get?_put_of_ne t (by rintro rfl; exact h (List.prefix_refl _)),
      get?_erase_outside h]
  have hfile : (t.put loc (.file content)).get? loc = some (.file content) :=
    get?_put_self t hne _
  induction names generalizing here with
  | nil =>
    rw [walk] at hw
    cases hw
    exact .inr ⟨rfl, hhere⟩
  | cons name rest ih =>
    rw [walk] at hw ⊢
    rw [← hget hhere]
    split at hw
    · cases hw
    next hfolder =>
    rw [if_neg hfolder]
    split at hw
    next hd => rw [if_pos hd]; exact ih hhere hw
    next hd =>
    rw [if_neg hd]
    split at hw
    next hdd =>
      rw [if_pos hdd]
      exact ih (fun h => hhere (h.trans (List.dropLast_prefix here))) hw
    next hdd =>
    rw [if_neg hdd]
    split at hw
    · cases hw
    next hlength =>
    rw [if_neg hlength]
    by_cases hnext : here ++ [name] = loc
    · rw [hnext, hfile] at hw
      cases rest with
      | nil => rw [walk] at hw; cases hw; exact .inl rfl
      | cons => simp [walk, hfile] at hw
    · have hprefix : ¬ loc <+: here ++ [name] := fun h => by
        rcases List.prefix_concat_iff.1 h with h | h
        · exact hnext h.symm
        · exact hhere h
      rw [← hget hprefix]
      split at hw
      · cases hw
      · rw [Bool.not_true, Bool.and_false, if_neg Bool.false_ne_true] at hw ⊢
        cases hw
        exact .inr ⟨rfl, hhere⟩
      · exact ih hprefix hw

theorem follow_of_put (hne : loc ≠ []) {links : Nat} {here : Location} {names : List String}
    {dir : Location} (hhere : ¬ loc <+: here)
    (h : (t.put loc (.file content)).follow true links here names = .ok dir) :
    dir = loc ∨ (t.erase loc).follow true links here names = .ok dir ∧ ¬ loc <+: dir := by
  induction links generalizing here names with
  | zero =>
    rw [follow] at h ⊢
    cases hw : (t.put loc (.file content)).walk true here names with
    | error e => rw [hw] at h; cases h
    | ok w =>
      rw [hw] at h
      rcases walk_of_put hne hhere hw with rfl | ⟨hw, hplace⟩
      · cases h; exact .inl rfl
      rw [hw]
      cases w with
      | arrived => cases h; exact .inr ⟨rfl, hplace⟩
      | link => cases h
  | succ links ih =>
    rw [follow] at h ⊢
    cases hw : (t.put loc (.file content)).walk true here names with
    | error e => rw [hw] at h; cases h
    | ok w =>
      rw [hw] at h
      rcases walk_of_put hne hhere hw with rfl | ⟨hw, hplace⟩
      · cases h; exact .inl rfl
      rw [hw]
      cases w with
      | arrived => cases h; exact .inr ⟨rfl, hplace⟩
      | link folder target remaining =>
        dsimp only at h ⊢
        rw [steps?_of_base (erase_extends_put hne _).base] at h
        split at h
        · cases h
        · refine ih ?_ h
          split
          · rwa [List.prefix_nil]
          · exact hplace

/-- Names that lead to a folder past a file lead there without the file. -/
theorem Target.of_put (hne : loc ≠ []) {names : List String} {target : Location}
    (h : (t.put loc (.file content)).Target names target) : (t.erase loc).Target names target := by
  cases h with
  | @entry names folder name hfollow hfolder hd hdd hlength =>
    have hplace : folder ≠ loc := by
      rintro rfl
      rw [get?_put_self t hne] at hfolder
      cases hfolder
    obtain ⟨hfollow', hprefix⟩ :=
      (follow_of_put hne (by rwa [List.prefix_nil]) hfollow).resolve_left hplace
    rw [get?_put_of_ne t hplace, ← get?_erase_outside hprefix] at hfolder
    exact .entry hfollow' hfolder hd hdd hlength

/-- The path leads to its target without going through the entry that is there. -/
def AvoidsTarget (t : FileTree) (path : String) (loc : Location) : Prop :=
  (t.erase loc).TargetOf path loc

/-- A path that has a target by way of other entries only has the same one when a file is there. -/
theorem AvoidsTarget.put {path : String} (h : t.AvoidsTarget path loc) (content : Content) :
    (t.put loc (.file content)).TargetOf path loc := by
  obtain ⟨names, hnames, htarget⟩ := h.names
  refine ⟨h.checked, h.noSlash, names, ?_, htarget.of_extends (erase_extends_put htarget.ne_nil _)⟩
  rw [namesFromBase?, base_put]
  exact hnames

/-- Where nothing was, a path cannot go through. -/
theorem TargetOf.put {path : String} (h : t.TargetOf path loc) (hnew : t.get? loc = none)
    (content : Content) : (t.put loc (.file content)).TargetOf path loc := by
  obtain ⟨names, hnames, htarget⟩ := h.names
  refine ⟨h.checked, h.noSlash, names, ?_, htarget.of_extends (extends_put hnew _)⟩
  rw [namesFromBase?, base_put]
  exact hnames

/-- A path with a target is followed by its names. -/
theorem TargetOf.locate_eq {path : String} {names : List String} (h : t.TargetOf path loc)
    {t' : FileTree} (hbase : t'.base = t.base) (hnames : t.namesFromBase? path = some names) :
    t'.locate path = t'.follow true maxLinks [] names := by
  have hsteps : t'.steps? path = some names := by
    rw [steps?_of_base hbase, steps?, hnames, h.noSlash]
    rfl
  rw [locate, h.checked, hsteps]
  rfl

/-- A path leads to the file at its target. -/
theorem TargetOf.locate {path : String} (h : t.TargetOf path loc)
    (hfile : t.get? loc = some (.file content)) : t.locate path = .ok loc := by
  obtain ⟨names, hnames, htarget⟩ := h.names
  rw [h.locate_eq rfl hnames]
  cases htarget with
  | entry hfollow hfolder hd hdd hlength =>
    refine follow_append hfollow ?_
    rw [walk, if_neg (by simp [hfolder]), if_neg hd, if_neg hdd, if_neg (Nat.not_lt.2 hlength),
      hfile]
    rfl

/-- If a path leads anywhere after its target has become a file, then it does not go through the
    target: a file is no folder. -/
theorem avoidsTarget_of_locate {path : String} {other : Location} (h : t.TargetOf path loc)
    (hother : (t.put loc (.file content)).locate path = .ok other) : t.AvoidsTarget path loc := by
  obtain ⟨names, hnames, htarget⟩ := h.names
  have hne := htarget.ne_nil
  rw [h.locate_eq (base_put t loc _) hnames] at hother
  refine ⟨h.checked, h.noSlash, names, hnames, ?_⟩
  cases htarget with
  | @entry names folder name hfollow hfolder hd hdd hlength =>
    obtain ⟨dir, left, hdir, hlast⟩ := exists_of_follow_append hother
    -- The last name is looked up in a folder, which the file is not.
    have hget : (t.put (folder ++ [name]) (.file content)).get? dir = some .folder := by
      refine Decidable.byContradiction fun hget => ?_
      have hwalk : (t.put (folder ++ [name]) (.file content)).walk true dir [name] =
          .error .notFolder := by rw [walk, if_pos hget]
      cases left <;> (rw [follow, hwalk] at hlast; cases hlast)
    have htarget' : (t.put (folder ++ [name]) (.file content)).Target (names ++ [name])
        (dir ++ [name]) := .entry hdir hget hd hdd hlength
    have hold := htarget'.of_put hne
    have hsame := (hold.of_extends (erase_extends hne)).unique
      (.entry hfollow hfolder hd hdd hlength)
    rwa [hsame] at hold

/-- When a file is put at the target of a path, the path leads to it if and only if it does not go
    through what was there. -/
theorem locate_put_iff {path : String} (h : t.TargetOf path loc) (content : Content) :
    (t.put loc (.file content)).locate path = .ok loc ↔ t.AvoidsTarget path loc := by
  obtain ⟨_, _, htarget⟩ := h.names
  exact ⟨avoidsTarget_of_locate h, fun havoids =>
    (havoids.put content).locate (get?_put_self t htarget.ne_nil _)⟩

end

end ScriptKeeper.FileTree
