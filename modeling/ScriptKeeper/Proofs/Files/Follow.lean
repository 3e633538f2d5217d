import ScriptKeeper.Files.Canonical

/-!
# Following names

Where names lead does not change when a tree gets more entries (`follow_of_extends`), and what
they lead to is reached without them: the location itself goes through folders only
(`straight_of_follow`), so following its own names ends where it says (`Straight.follow_dropLast`).
A link that comes last is the only thing at which names may end without being followed to their end
(`locate_unfollowed`).
-/

namespace ScriptKeeper.FileTree

/-! ### Trees with more entries -/

/-- `t'` has all entries of `t`. -/
structure Extends (t t' : FileTree) : Prop where
  base : t'.base = t.base
  get? : ∀ {loc e}, t.get? loc = some e → t'.get? loc = some e

theorem base_put (t : FileTree) (loc : Location) (e : Entry) : (t.put loc e).base = t.base := by
  rw [put]
  split <;> rfl

/-- Putting an entry where there is none keeps all others. -/
theorem extends_put {t : FileTree} {loc : Location} (h : t.get? loc = none) (e : Entry) :
    t.Extends (t.put loc e) where
  base := base_put t loc e
  get? {other e'} h' := by
    rw [get?_put_of_ne t (by rintro rfl; rw [h] at h'; cases h'), h']

theorem steps?_of_base {t t' : FileTree} (h : t'.base = t.base) (path : String) :
    t'.steps? path = t.steps? path := by
  rw [steps?, steps?, namesFromBase?, namesFromBase?, h]

theorem walk_of_extends {t t' : FileTree} (ht : t.Extends t') {followLast : Bool}
    {here : Location} {names : List String} {w : Walk}
    (hw : t.walk followLast here names = .ok w) : t'.walk followLast here names = .ok w := by
  induction names generalizing here with
  | nil => simpa [walk] using hw
  | cons name rest ih =>
    rw [walk] at hw ⊢
    by_cases hhere : t.get? here = some .folder
    · rw [if_neg (by simp [hhere])] at hw
      rw [if_neg (by simp [ht.get? hhere])]
      split at hw
      · next hname => rw [if_pos hname]; exact ih hw
      · next hname =>
        rw [if_neg hname]
        split at hw
        · next hname => rw [if_pos hname]; exact ih hw
        · next hname =>
          rw [if_neg hname]
          split at hw
          · cases hw
          · next hname =>
            rw [if_neg hname]
            split at hw
            · cases hw
            · next hget => rw [ht.get? hget]; exact hw
            · next hnot hget =>
              rw [ht.get? hget]
              split
              · next h => cases h
              · next h => exact absurd (Option.some_inj.1 h) (hnot _)
              · exact ih hw
    · rw [if_pos hhere] at hw
      cases hw

/-- Names lead where they led before the tree got more entries. -/
theorem follow_of_extends {t t' : FileTree} (ht : t.Extends t') {followLast : Bool} {links : Nat}
    {here : Location} {names : List String} {loc : Location}
    (h : t.follow followLast links here names = .ok loc) :
    t'.follow followLast links here names = .ok loc := by
  induction links generalizing here names with
  | zero =>
    rw [follow] at h ⊢
    cases hw : t.walk followLast here names with
    | error e => rw [hw] at h; cases h
    | ok w => rw [walk_of_extends ht hw]; rwa [hw] at h
  | succ links ih =>
    rw [follow] at h ⊢
    cases hw : t.walk followLast here names with
    | error e => rw [hw] at h; cases h
    | ok w =>
      rw [walk_of_extends ht hw]
      rw [hw] at h
      cases w with
      | arrived => exact h
      | link folder target remaining =>
        dsimp only at h ⊢
        rw [steps?_of_base ht.base]
        split at h
        · cases h
        · exact ih h

/-! ### Locations -/

/-- The location goes through folders only, by names that stand for entries. -/
def Straight (t : FileTree) (loc : Location) : Prop :=
  ∀ folder name, folder ++ [name] <+: loc → t.get? folder = some .folder ∧
    name ≠ "." ∧ name ≠ ".." ∧ name.utf8ByteSize ≤ maxNameLength

theorem straight_nil (t : FileTree) : t.Straight [] := fun _ _ h => by
  simp at h

theorem Straight.mono {t : FileTree} {loc loc' : Location} (h : t.Straight loc)
    (hp : loc' <+: loc) : t.Straight loc' := fun _ _ hf => h _ _ (hf.trans hp)

theorem Straight.concat {t : FileTree} {loc : Location} {name : String} (h : t.Straight loc)
    (hf : t.get? loc = some .folder) (hd : name ≠ ".") (hdd : name ≠ "..")
    (hl : name.utf8ByteSize ≤ maxNameLength) : t.Straight (loc ++ [name]) := by
  intro folder other hp
  rcases List.prefix_concat_iff.1 hp with heq | hp
  · obtain ⟨rfl, hname⟩ := List.append_inj' heq rfl
    cases hname
    exact ⟨hf, hd, hdd, hl⟩
  · exact h _ _ hp

/-- Where a walk ends: in a link's folder, if it comes to a link. -/
def Walk.place : Walk → Location
  | .arrived loc => loc
  | .link folder _ _ => folder

theorem straight_of_walk {t : FileTree} {followLast : Bool} {here : Location}
    {names : List String} {w : Walk} (hh : t.Straight here)
    (hw : t.walk followLast here names = .ok w) : t.Straight w.place := by
  induction names generalizing here with
  | nil => rw [walk] at hw; cases hw; exact hh
  | cons name rest ih =>
    rw [walk] at hw
    split at hw
    · cases hw
    next hf =>
      split at hw
      · exact ih hh hw
      next hd =>
        split at hw
        · exact ih (hh.mono (List.dropLast_prefix here)) hw
        next hdd =>
          split at hw
          · cases hw
          next hl =>
            have hnext : t.Straight (here ++ [name]) :=
              hh.concat (Decidable.not_not.1 hf) hd hdd (Nat.not_lt.1 hl)
            split at hw
            · cases hw
            · split at hw <;> cases hw
              · exact hnext
              · exact hh
            · exact ih hnext hw

/-- Where names lead is reached without them. -/
theorem straight_of_follow {t : FileTree} {followLast : Bool} {links : Nat} {here : Location}
    {names : List String} {loc : Location} (hh : t.Straight here)
    (h : t.follow followLast links here names = .ok loc) : t.Straight loc := by
  induction links generalizing here names with
  | zero =>
    rw [follow] at h
    cases hw : t.walk followLast here names with
    | error e => rw [hw] at h; cases h
    | ok w =>
      have := straight_of_walk hh hw
      rw [hw] at h
      cases w with
      | arrived => cases h; exact this
      | link => cases h
  | succ links ih =>
    rw [follow] at h
    cases hw : t.walk followLast here names with
    | error e => rw [hw] at h; cases h
    | ok w =>
      have := straight_of_walk hh hw
      rw [hw] at h
      cases w with
      | arrived => cases h; exact this
      | link folder target remaining =>
        -- The target starts at the base folder or in the folder of the link, both reached already.
        simp only at h
        split at h
        · cases h
        · refine ih ?_ h
          split
          · exact straight_nil t
          · exact this

/-- A canonical path has a straight location below the base folder. -/
theorem straight_of_canonical {t : FileTree} {path : String} {p : CanonicalPath}
    (h : t.canonical path = .ok p) : p.base = t.base ∧ t.Straight p.location := by
  rw [canonical] at h
  cases hl : t.locate path with
  | error e => rw [hl] at h; cases h
  | ok loc =>
    rw [hl] at h
    cases h
    refine ⟨rfl, ?_⟩
    rw [locate] at hl
    cases hc : checkPath path with
    | error e => rw [hc] at hl; cases hl
    | ok _ =>
      simp only [hc, bind, Except.bind] at hl
      split at hl
      · exact straight_of_follow (straight_nil t) hl
      · cases hl

theorem isEmpty_of_canonical {t : FileTree} {path : String} {p : CanonicalPath}
    (h : t.canonical path = .ok p) : path.isEmpty = false := by
  cases hempty : path.isEmpty with
  | false => rfl
  | true =>
    rw [canonical, locate, checkPath, hempty, if_pos rfl] at h
    split at h <;> cases h

/-- The names of a straight location lead through its folders. -/
theorem Straight.walk {t : FileTree} {loc : Location} (h : t.Straight loc) (followLast : Bool)
    {here names : Location} {name : String} (hl : here ++ names ++ [name] <+: loc) :
    t.walk followLast here names = .ok (.arrived (here ++ names)) := by
  induction names generalizing here with
  | nil => simp [FileTree.walk]
  | cons n rest ih =>
    have hnext : here ++ [n] ++ rest ++ [name] <+: loc := by simpa using hl
    obtain ⟨hf, hd, hdd, hlen⟩ := h here n
      ((List.prefix_append _ (rest ++ [name])).trans (by simpa using hnext))
    have hfolder : t.get? (here ++ [n]) = some .folder := by
      cases rest with
      | nil => exact (h _ _ (by simpa using hnext)).1
      | cons m rest => exact (h (here ++ [n]) m
          ((List.prefix_append _ (rest ++ [name])).trans (by simpa using hnext))).1
    rw [FileTree.walk, if_neg (by simp [hf]), if_neg hd, if_neg hdd, if_neg (Nat.not_lt.2 hlen),
      hfolder]
    simpa using ih hnext

/-- Following the folders of a straight location ends in the last of them. -/
theorem Straight.follow_dropLast {t : FileTree} {loc : Location} (h : t.Straight loc)
    (hne : loc ≠ []) (followLast : Bool) (links : Nat) :
    t.follow followLast links [] loc.dropLast = .ok loc.dropLast := by
  have hloc : [] ++ loc.dropLast ++ [loc.getLast hne] <+: loc :=
    ⟨[], by rw [List.append_nil, List.nil_append, List.dropLast_concat_getLast]⟩
  have hw : t.walk followLast [] loc.dropLast = .ok (.arrived loc.dropLast) :=
    h.walk followLast hloc
  cases links <;> rw [follow, hw]

/-! ### Names in a row -/

/-- The names that come after others are followed from where those lead. -/
theorem walk_append (t : FileTree) (here : Location) (names more : List String) :
    t.walk true here (names ++ more) = match t.walk true here names with
      | .error e => .error e
      | .ok (.arrived dir) => t.walk true dir more
      | .ok (.link folder target remaining) => .ok (.link folder target (remaining ++ more)) := by
  induction names generalizing here with
  | nil => rfl
  | cons name rest ih =>
    rw [List.cons_append, walk, walk]
    split
    · rfl
    split
    · exact ih here
    split
    · exact ih here.dropLast
    split
    · rfl
    split
    · rfl
    · simp
    · exact ih (here ++ [name])

theorem follow_append {t : FileTree} {links : Nat} {here dir loc : Location}
    {names more : List String} (h : t.follow true links here names = .ok dir)
    (hmore : t.walk true dir more = .ok (.arrived loc)) :
    t.follow true links here (names ++ more) = .ok loc := by
  induction links generalizing here names with
  | zero =>
    rw [follow] at h ⊢
    rw [walk_append]
    cases hw : t.walk true here names with
    | error e => rw [hw] at h; cases h
    | ok w =>
      rw [hw] at h
      cases w with
      | arrived => cases h; dsimp only; rw [hmore]
      | link => cases h
  | succ links ih =>
    rw [follow] at h ⊢
    rw [walk_append]
    cases hw : t.walk true here names with
    | error e => rw [hw] at h; cases h
    | ok w =>
      rw [hw] at h
      cases w with
      | arrived => cases h; dsimp only; rw [hmore]
      | link folder target remaining =>
        dsimp only at h ⊢
        split at h
        · cases h
        · rw [← List.append_assoc]
          exact ih h

/-- Names that can be followed can be followed up to any of them. -/
theorem exists_of_follow_append {t : FileTree} {links : Nat} {here loc : Location}
    {names more : List String} (h : t.follow true links here (names ++ more) = .ok loc) :
    ∃ dir left, t.follow true links here names = .ok dir ∧
      t.follow true left dir more = .ok loc := by
  induction links generalizing here names with
  | zero =>
    rw [follow, walk_append] at h
    rw [follow]
    cases hw : t.walk true here names with
    | error e => rw [hw] at h; cases h
    | ok w =>
      rw [hw] at h
      cases w with
      | arrived dir => exact ⟨dir, 0, rfl, by rw [follow]; exact h⟩
      | link => cases h
  | succ links ih =>
    rw [follow, walk_append] at h
    rw [follow]
    cases hw : t.walk true here names with
    | error e => rw [hw] at h; cases h
    | ok w =>
      rw [hw] at h
      cases w with
      | arrived dir => exact ⟨dir, links + 1, rfl, by rw [follow]; exact h⟩
      | link folder target remaining =>
        dsimp only at h ⊢
        split at h
        · cases h
        · rw [← List.append_assoc] at h
          exact ih h

/-! ### Trees with the same entries -/

section

variable {t t' : FileTree}

theorem walk_congr (h : ∀ loc, t'.get? loc = t.get? loc) (followLast : Bool) (here : Location)
    (names : List String) : t'.walk followLast here names = t.walk followLast here names := by
  induction names generalizing here with
  | nil => rw [walk, walk]
  | cons name rest ih => simp only [walk, h, ih]

theorem follow_congr (hbase : t'.base = t.base) (h : ∀ loc, t'.get? loc = t.get? loc)
    (followLast : Bool) (links : Nat) (here : Location) (names : List String) :
    t'.follow followLast links here names = t.follow followLast links here names := by
  induction links generalizing here names with
  | zero => rw [follow, follow, walk_congr h]
  | succ links ih =>
    rw [follow, follow, walk_congr h]
    simp only [steps?_of_base hbase, ih]

/-- Where a path leads depends on what is at each location only. -/
theorem locate_congr (hbase : t'.base = t.base) (h : ∀ loc, t'.get? loc = t.get? loc)
    (path : String) (followLast : Bool) :
    t'.locate path followLast = t.locate path followLast := by
  simp only [locate, steps?_of_base hbase, follow_congr hbase h]

end

/-! ### Links that come last -/

section

variable {t : FileTree}

theorem walk_unfollowed (t : FileTree) (here : Location) (names : List String) :
    t.walk false here names = t.walk true here names ∨
      ∃ loc target, t.walk false here names = .ok (.arrived loc) ∧
        t.get? loc = some (.link target) := by
  induction names generalizing here with
  | nil => exact .inl rfl
  | cons name rest ih =>
    rw [walk, walk]
    split
    · exact .inl rfl
    split
    · exact ih here
    split
    · exact ih here.dropLast
    split
    · exact .inl rfl
    cases hget : t.get? (here ++ [name]) with
    | none => exact .inl rfl
    | some e =>
      cases e with
      | file content => exact ih (here ++ [name])
      | folder => exact ih (here ++ [name])
      | link target =>
        cases rest with
        | nil => exact .inr ⟨_, target, rfl, hget⟩
        | cons next rest => exact .inl rfl

theorem follow_unfollowed (t : FileTree) (links : Nat) (here : Location) (names : List String) :
    t.follow false links here names = t.follow true links here names ∨
      ∃ loc target, t.follow false links here names = .ok loc ∧
        t.get? loc = some (.link target) := by
  induction links generalizing here names with
  | zero =>
    rw [follow, follow]
    rcases walk_unfollowed t here names with hw | ⟨loc, target, hw, hlink⟩
    · exact .inl (by rw [hw])
    · exact .inr ⟨loc, target, by rw [hw], hlink⟩
  | succ links ih =>
    rw [follow, follow]
    rcases walk_unfollowed t here names with hw | ⟨loc, target, hw, hlink⟩
    · rw [hw]
      cases t.walk true here names with
      | error e => exact .inl rfl
      | ok w =>
        cases w with
        | arrived loc => exact .inl rfl
        | link folder target remaining =>
          dsimp only
          cases t.steps? target with
          | none => exact .inl rfl
          | some more => exact ih _ _
    · exact .inr ⟨loc, target, by rw [hw], hlink⟩

/-- A path leads to the same place whether a link that comes last is followed or not, unless there
    is such a link. -/
theorem locate_unfollowed (t : FileTree) (path : String) :
    t.locate path false = t.locate path ∨
      ∃ loc target, t.locate path false = .ok loc ∧ t.get? loc = some (.link target) := by
  rw [locate, locate]
  cases checkPath path with
  | error e => exact .inl rfl
  | ok _ =>
    cases t.steps? path with
    | none => exact .inl rfl
    | some names => exact follow_unfollowed t maxLinks [] names

end

end ScriptKeeper.FileTree
