import Mathlib.Data.List.Nodup
import Mathlib.Data.List.Perm.Subperm
import Mathlib.Data.List.Sort
import Mathlib.Data.List.TakeWhile
import Mathlib.Data.String.Basic
import ScriptKeeper.Proofs.Files.Join
import ScriptKeeper.Scan.Listing

/-!
# Listing scripts

The scripts below a folder are those that can be reached from it by going from folder to folder
(`ScriptBelow`). They are listed folder by folder, so the names that lead to them come in
lexicographic order, and as no location is listed twice in a tree, no script is either. A script is
at most as deep in a folder as there are entries, since every folder on the way to it is one of them.

* `FileTree.Proper`: what every file system sees to;
* `isScriptExtension_iff`: the names of scripts;
* `mem_scriptsBelow_iff`, `pairwise_scriptsBelow`: what is listed, and in which order;
* `listScripts_exact`: the paths, for every folder that can be listed.
-/

namespace ScriptKeeper

/-! ### Trees -/

namespace FileTree

/-- A tree as a file system keeps it: nothing is there twice, and every name is one that an entry of
    a folder can have. -/
structure Proper (t : FileTree) : Prop where
  nodup : (t.entries.map Prod.fst).Nodup
  named : ∀ x ∈ t.entries, ∀ name ∈ x.1, Path.IsEntryName name

variable {t t' : FileTree} {folder loc : Location} {name : String} {e : Entry}

theorem mem_of_get? (hne : loc ≠ []) (h : t.get? loc = some e) : (loc, e) ∈ t.entries := by
  rw [get?_of_ne_nil t hne] at h
  obtain ⟨x, hx, rfl⟩ := Option.map_eq_some_iff.1 h
  have hloc : x.1 = loc := by simpa using List.find?_some hx
  rw [← hloc]
  exact List.mem_of_find?_eq_some hx

/-- What is listed at a location is there. -/
theorem Proper.get?_eq_some_iff (h : t.Proper) (hne : loc ≠ []) :
    t.get? loc = some e ↔ (loc, e) ∈ t.entries := by
  refine ⟨mem_of_get? hne, fun hmem => ?_⟩
  have hsome : (t.entries.find? fun x => x.1 == loc).isSome :=
    List.find?_isSome.2 ⟨_, hmem, by simp⟩
  obtain ⟨x, hx⟩ := Option.isSome_iff_exists.1 hsome
  have hloc : x.1 = loc := by simpa using List.find?_some hx
  have hsame := List.inj_on_of_nodup_map h.nodup (List.mem_of_find?_eq_some hx) hmem hloc
  rw [get?_of_ne_nil t hne, hx, hsame]
  rfl

theorem Proper.perm (h : t.Proper) (hperm : t'.entries.Perm t.entries) : t'.Proper where
  nodup := (hperm.map _).nodup_iff.2 h.nodup
  named x hx := h.named x (hperm.subset hx)

/-- What is at a location does not depend on the order in which entries are listed. -/
theorem Proper.get?_perm (h : t.Proper) (hperm : t'.entries.Perm t.entries) (loc : Location) :
    t'.get? loc = t.get? loc := by
  by_cases hne : loc = []
  · rw [hne]
    rfl
  refine Option.ext fun e => ?_
  rw [(h.perm hperm).get?_eq_some_iff hne, h.get?_eq_some_iff hne, hperm.mem_iff]

theorem mem_children_of_get? (h : t.get? (folder ++ [name]) = some e) : name ∈ t.children folder := by
  have hmem := mem_of_get? (by simp) h
  exact List.mem_filterMap.2 ⟨_, hmem, by simp⟩

theorem Proper.nodup_children (h : t.Proper) (folder : Location) : (t.children folder).Nodup := by
  have hlocations : t.children folder = (t.entries.map Prod.fst).filterMap fun loc =>
      if loc.dropLast == folder then loc.getLast? else none := by
    rw [children, List.filterMap_map]
    rfl
  rw [hlocations]
  refine List.Nodup.filterMap (fun loc loc' name hloc hloc' => ?_) h.nodup
  -- A location is its folder and its last name.
  have hparts {loc : Location} (hname : name ∈
      if loc.dropLast == folder then loc.getLast? else none) : loc = folder ++ [name] := by
    split at hname
    next hfolder =>
      rw [← beq_iff_eq.1 hfolder]
      obtain ⟨l, rfl⟩ := List.getLast?_eq_some_iff.1 hname
      simp
    next => cases hname
  rw [hparts hloc, hparts hloc']

end FileTree

namespace Scan

/-! ### Names of scripts -/

/-- A name with something before the last dot, and "cs" in any case behind it. -/
def IsScriptName (name : String) : Prop :=
  ∃ stem c s, stem ≠ [] ∧ name.toList = stem ++ ['.', c, s] ∧
    (c = 'c' ∨ c = 'C') ∧ (s = 's' ∨ s = 'S')

/-- The last dot divides a name if no other dot comes after it. -/
theorem cutAtLastDot_eq_some_iff {name before after : String} :
    Path.cutAtLastDot name = some (before, after) ↔
      name.toList = before.toList ++ '.' :: after.toList ∧ '.' ∉ after.toList := by
  rw [Path.cutAtLastDot]
  constructor
  · intro h
    have hparts := List.takeWhile_append_dropWhile (p := (· != '.')) (l := name.toList.reverse)
    have hafter : ∀ c ∈ name.toList.reverse.takeWhile (· != '.'), c ≠ '.' := fun c hc => by
      simpa using List.mem_takeWhile_imp hc
    have hdot := List.head?_dropWhile_not (· != '.') name.toList.reverse
    cases hdrop : name.toList.reverse.dropWhile (· != '.') with
    | nil => rw [hdrop] at h; cases h
    | cons c rest =>
      rw [hdrop] at h hparts hdot
      obtain rfl : c = '.' := by simpa using hdot
      cases h
      have hname := congrArg List.reverse hparts
      rw [List.reverse_reverse, List.reverse_append, List.reverse_cons, List.append_assoc] at hname
      refine ⟨by simpa using hname.symm, ?_⟩
      simpa using fun hin => hafter _ hin rfl
  · rintro ⟨hname, hafter⟩
    have hbackwards : name.toList.reverse =
        after.toList.reverse ++ '.' :: before.toList.reverse := by
      rw [hname, List.reverse_append, List.reverse_cons, List.append_assoc, List.singleton_append]
    have hall : ∀ c ∈ after.toList.reverse, (c != '.') = true := fun c hc => by
      rw [bne_iff_ne]
      rintro rfl
      exact hafter (List.mem_reverse.1 hc)
    rw [hbackwards, List.takeWhile_append_of_pos hall, List.dropWhile_append_of_pos hall]
    simp

theorem toNat_toLower (c : Char) : c.toLower.toNat =
    if 65 ≤ c.toNat ∧ c.toNat ≤ 90 then c.toNat + 32 else c.toNat := by
  unfold Char.toLower
  split
  next h =>
    have hupper : 65 ≤ c.toNat ∧ c.toNat ≤ 90 := h
    have hsum : (c.val + ('a'.val - 'A'.val)).toNat = (c.toNat + 32) % 2 ^ 32 :=
      UInt32.toNat_add _ _
    rw [if_pos hupper]
    refine hsum.trans ?_
    omega
  next h => exact (if_neg fun hupper => h hupper).symm

/-- A small letter is the lower case of itself and of the capital letter, and of nothing else. -/
theorem toLower_eq_iff {c d : Char} (hd : 97 ≤ d.toNat ∧ d.toNat ≤ 122) :
    c.toLower = d ↔ c = d ∨ c.toNat + 32 = d.toNat := by
  rw [← Char.toNat_inj, ← Char.toNat_inj, toNat_toLower]
  split <;> omega

theorem equalsIgnoringCase_iff {extension : String} :
    Text.equalsIgnoringCase scriptExtension extension = true ↔
      ∃ c s, extension.toList = [c, s] ∧ (c = 'c' ∨ c = 'C') ∧ (s = 's' ∨ s = 'S') := by
  have hc {c : Char} : c.toLower = 'c' ↔ c = 'c' ∨ c = 'C' := by
    rw [toLower_eq_iff (by decide), ← Char.toNat_inj (d := 'C')]
    simp
  have hs {c : Char} : c.toLower = 's' ↔ c = 's' ∨ c = 'S' := by
    rw [toLower_eq_iff (by decide), ← Char.toNat_inj (d := 'S')]
    simp
  have hlower : scriptExtension.toList.map Char.toLower = ['c', 's'] := rfl
  rw [Text.equalsIgnoringCase, beq_iff_eq, hlower]
  constructor
  · intro h
    obtain ⟨c, rest, hlist, hcl, hrest⟩ := List.map_eq_cons_iff.1 h.symm
    obtain ⟨s, rest, rfl, hsl, hnil⟩ := List.map_eq_cons_iff.1 hrest
    rw [List.map_eq_nil_iff.1 hnil] at hlist
    exact ⟨c, s, hlist, hc.1 hcl, hs.1 hsl⟩
  · rintro ⟨c, s, hlist, hcl, hsl⟩
    rw [hlist, List.map_cons, List.map_singleton, hc.2 hcl, hs.2 hsl]

/-- A name has the extension of scripts if it is that of a script. -/
theorem isScriptExtension_iff {name : String} :
    isScriptExtension (Path.nameExtension? name) = true ↔ IsScriptName name := by
  rw [isScriptExtension, Option.any_eq_true, Path.nameExtension?]
  constructor
  · rintro ⟨extension, hextension, hcs⟩
    split at hextension
    next before after hcut =>
      split at hextension
      next => cases hextension
      next hne =>
        cases hextension
        obtain ⟨c, s, hlist, hc, hs⟩ := equalsIgnoringCase_iff.1 hcs
        obtain ⟨hname, _⟩ := cutAtLastDot_eq_some_iff.1 hcut
        rw [hlist] at hname
        exact ⟨before.toList, c, s, fun h => hne (by simpa using h), hname, hc, hs⟩
    next => cases hextension
  · rintro ⟨stem, c, s, hne, hname, hc, hs⟩
    have hcut : Path.cutAtLastDot name = some (String.ofList stem, String.ofList [c, s]) := by
      refine cutAtLastDot_eq_some_iff.2 ⟨by simpa using hname, ?_⟩
      rcases hc with rfl | rfl <;> rcases hs with rfl | rfl <;> simp
    rw [hcut]
    dsimp only
    rw [if_neg (by simpa using hne)]
    exact ⟨_, rfl, equalsIgnoringCase_iff.2 ⟨c, s, by simp, hc, hs⟩⟩

/-! ### Scripts below a folder -/

/-- Names that lead from a folder to a script, through folders only. -/
inductive ScriptBelow (t : FileTree) : Location → List String → Prop
  | here {folder : Location} {name : String} {content : Content} :
      t.get? (folder ++ [name]) = some (.file content) → IsScriptName name →
      ScriptBelow t folder [name]
  | inside {folder : Location} {name : String} {names : List String} :
      t.get? (folder ++ [name]) = some .folder → ScriptBelow t (folder ++ [name]) names →
      ScriptBelow t folder (name :: names)

variable {t t' : FileTree} {folder loc : Location} {names : List String} {depth : Nat}

theorem ScriptBelow.ne_nil (h : ScriptBelow t folder names) : names ≠ [] := by
  cases h <;> exact List.cons_ne_nil _ _

/-- Which scripts there are depends on what is at each location only. -/
theorem ScriptBelow.congr (hget : ∀ loc, t'.get? loc = t.get? loc)
    (h : ScriptBelow t folder names) : ScriptBelow t' folder names := by
  induction h with
  | here hfile hname => exact .here ((hget _).trans hfile) hname
  | inside hfolder _ ih => exact .inside ((hget _).trans hfolder) ih

theorem mem_sortedChildren {name : String} :
    name ∈ sortedChildren t folder ↔ name ∈ t.children folder :=
  (List.mergeSort_perm _ _).mem_iff

/-- The scripts directly in a folder. -/
theorem mem_scriptsBelow_zero_iff : names ∈ scriptsBelow t 0 folder ↔
    ∃ name content, names = [name] ∧ t.get? (folder ++ [name]) = some (.file content) ∧
      IsScriptName name := by
  rw [scriptsBelow, List.mem_flatMap]
  constructor
  · rintro ⟨name, _, hmem⟩
    split at hmem
    next content hget =>
      split at hmem
      next hname =>
        exact ⟨name, content, List.mem_singleton.1 hmem, hget, isScriptExtension_iff.1 hname⟩
      next => cases hmem
    next => cases hmem
  · rintro ⟨name, content, rfl, hget, hname⟩
    refine ⟨name, mem_sortedChildren.2 (FileTree.mem_children_of_get? hget), ?_⟩
    rw [hget]
    dsimp only
    rw [if_pos (isScriptExtension_iff.2 hname)]
    exact List.mem_singleton_self _

/-- The scripts in a folder are those directly in it and those below the folders in it. -/
theorem mem_scriptsBelow_succ_iff : names ∈ scriptsBelow t (depth + 1) folder ↔
    names ∈ scriptsBelow t 0 folder ∨ ∃ name rest, names = name :: rest ∧
      t.get? (folder ++ [name]) = some .folder ∧
      rest ∈ scriptsBelow t depth (folder ++ [name]) := by
  rw [scriptsBelow, scriptsBelow, List.mem_flatMap, List.mem_flatMap]
  constructor
  · rintro ⟨name, hname, hmem⟩
    cases hget : t.get? (folder ++ [name]) with
    | none => rw [hget] at hmem; cases hmem
    | some e =>
      rw [hget] at hmem
      cases e with
      | file content => exact .inl ⟨name, hname, by rw [hget]; exact hmem⟩
      | folder =>
        obtain ⟨rest, hrest, rfl⟩ := List.mem_map.1 hmem
        exact .inr ⟨name, rest, rfl, hget, hrest⟩
      | link target => cases hmem
  · rintro (⟨name, hname, hmem⟩ | ⟨name, rest, rfl, hget, hrest⟩)
    · refine ⟨name, hname, ?_⟩
      cases hget : t.get? (folder ++ [name]) with
      | none => rw [hget] at hmem; cases hmem
      | some e =>
        rw [hget] at hmem
        cases e with
        | file content => exact hmem
        | folder | link => cases hmem
    · refine ⟨name, mem_sortedChildren.2 (FileTree.mem_children_of_get? hget), ?_⟩
      rw [hget]
      exact List.mem_map_of_mem hrest

/-- Up to the given depth, all scripts below a folder are listed, and nothing else. -/
theorem mem_scriptsBelow_iff :
    names ∈ scriptsBelow t depth folder ↔ ScriptBelow t folder names ∧ names.length ≤ depth + 1 := by
  induction depth generalizing folder names with
  | zero =>
    rw [mem_scriptsBelow_zero_iff]
    constructor
    · rintro ⟨name, content, rfl, hget, hname⟩
      exact ⟨.here hget hname, Nat.le_refl _⟩
    · rintro ⟨h, hlength⟩
      cases h with
      | here hget hname => exact ⟨_, _, rfl, hget, hname⟩
      | inside _ h =>
        have := List.length_pos_of_ne_nil h.ne_nil
        rw [List.length_cons] at hlength
        omega
  | succ depth ih =>
    rw [mem_scriptsBelow_succ_iff, mem_scriptsBelow_zero_iff]
    constructor
    · rintro (⟨name, content, rfl, hget, hname⟩ | ⟨name, rest, rfl, hget, hrest⟩)
      · exact ⟨.here hget hname, by simp⟩
      · obtain ⟨h, hlength⟩ := ih.1 hrest
        exact ⟨.inside hget h, Nat.succ_le_succ hlength⟩
    · rintro ⟨h, hlength⟩
      cases h with
      | here hget hname => exact .inl ⟨_, _, rfl, hget, hname⟩
      | inside hget h =>
        exact .inr ⟨_, _, rfl, hget, ih.2 ⟨h, Nat.le_of_succ_le_succ hlength⟩⟩

/-- The folders on the way to a script, and the script itself, are different entries of the tree. -/
theorem ScriptBelow.exists_trail (h : ScriptBelow t folder names) :
    ∃ trail : List Location, trail.Nodup ∧ trail.length = names.length ∧
      trail ⊆ t.entries.map Prod.fst ∧ ∀ loc ∈ trail, folder.length < loc.length := by
  induction h with
  | @here folder name content hget _ =>
    refine ⟨[folder ++ [name]], List.nodup_singleton _, rfl, ?_, by simp⟩
    have hmem := FileTree.mem_of_get? (by simp) hget
    exact List.cons_subset.2 ⟨List.mem_map_of_mem hmem, List.nil_subset _⟩
  | @inside folder name names hget _ ih =>
    obtain ⟨trail, hnodup, hlength, hsubset, hdeeper⟩ := ih
    have hmem := FileTree.mem_of_get? (by simp) hget
    refine ⟨(folder ++ [name]) :: trail, List.nodup_cons.2 ⟨fun hin => ?_, hnodup⟩,
      congrArg Nat.succ hlength, List.cons_subset.2 ⟨List.mem_map_of_mem hmem, hsubset⟩, ?_⟩
    · exact Nat.lt_irrefl _ (hdeeper _ hin)
    · intro loc hloc
      rcases List.mem_cons.1 hloc with rfl | hloc
      · simp
      · exact Nat.lt_of_succ_lt (by simpa using hdeeper loc hloc)

theorem ScriptBelow.length_le (h : ScriptBelow t folder names) :
    names.length ≤ t.entries.length := by
  obtain ⟨trail, hnodup, hlength, hsubset, _⟩ := h.exists_trail
  rw [← hlength, ← List.length_map Prod.fst]
  exact (hnodup.subperm hsubset).length_le

/-- As many folders as there are entries can be entered, so every script is reached. -/
theorem mem_scriptsBelow_all_iff :
    names ∈ scriptsBelow t t.entries.length folder ↔ ScriptBelow t folder names :=
  mem_scriptsBelow_iff.trans ⟨And.left, fun h => ⟨h, Nat.le_succ_of_le h.length_le⟩⟩

/-! ### The order of the list -/

theorem pairwise_sortedChildren (h : t.Proper) (folder : Location) :
    (sortedChildren t folder).Pairwise (· < ·) := by
  have hnodup : (sortedChildren t folder).Nodup :=
    (List.mergeSort_perm _ _).nodup_iff.2 (h.nodup_children folder)
  have hsorted : (sortedChildren t folder).Pairwise fun a b => decide (a ≤ b) = true :=
    List.pairwise_mergeSort (fun _ _ _ => by simpa using String.le_trans)
      (fun a b => by simpa using String.le_total a b) _
  refine (hsorted.and hnodup).imp fun {a b} hab => ?_
  exact lt_of_le_of_ne (of_decide_eq_true hab.1) hab.2

/-- Lists that all begin with a name of their own come in order if the names do. -/
theorem pairwise_flatMap_of_cons {l : List String} {f : String → List (List String)}
    (hl : l.Pairwise (· < ·)) (hf : ∀ name, (f name).Pairwise (· < ·))
    (hcons : ∀ name, ∀ names ∈ f name, ∃ rest, names = name :: rest) :
    (l.flatMap f).Pairwise (· < ·) := by
  refine List.pairwise_flatMap.2 ⟨fun name _ => hf name, hl.imp fun {a b} hab x hx y hy => ?_⟩
  obtain ⟨rest, rfl⟩ := hcons a x hx
  obtain ⟨rest', rfl⟩ := hcons b y hy
  exact List.cons_lt_cons_iff.2 (.inl hab)

/-- Scripts come in the lexicographic order of the names that lead to them. -/
theorem pairwise_scriptsBelow (h : t.Proper) (depth : Nat) (folder : Location) :
    (scriptsBelow t depth folder).Pairwise (· < ·) := by
  induction depth generalizing folder with
  | zero =>
    rw [scriptsBelow]
    refine pairwise_flatMap_of_cons (pairwise_sortedChildren h folder) (fun name => ?_)
      fun name names hnames => ?_
    · split
      · split
        · exact List.pairwise_singleton _ _
        · exact .nil
      · exact .nil
    · split at hnames
      · split at hnames
        · exact ⟨[], List.mem_singleton.1 hnames⟩
        · cases hnames
      · cases hnames
  | succ depth ih =>
    rw [scriptsBelow]
    refine pairwise_flatMap_of_cons (pairwise_sortedChildren h folder) (fun name => ?_)
      fun name names hnames => ?_
    · split
      · split
        · exact List.pairwise_singleton _ _
        · exact .nil
      · exact List.pairwise_map.2 ((ih (folder ++ [name])).imp fun hlt =>
          List.cons_lt_cons_iff.2 (.inr ⟨rfl, hlt⟩))
      · exact .nil
    · split at hnames
      · split at hnames
        · exact ⟨[], List.mem_singleton.1 hnames⟩
        · cases hnames
      · obtain ⟨rest, _, rfl⟩ := List.mem_map.1 hnames
        exact ⟨rest, rfl⟩
      · cases hnames

/-- The scripts directly in a folder are among those below it, in the same order. -/
theorem scriptsBelow_zero_sublist (h : t.Proper) (folder : Location) :
    (scriptsBelow t 0 folder).Sublist (scriptsBelow t t.entries.length folder) := by
  have hsubset : scriptsBelow t 0 folder ⊆ scriptsBelow t t.entries.length folder :=
    fun _ hin => mem_scriptsBelow_all_iff.2 (mem_scriptsBelow_iff.1 hin).1
  have hpairwise := pairwise_scriptsBelow h 0 folder
  exact List.sublist_of_subperm_of_pairwise (hpairwise.nodup.subperm hsubset) hpairwise
    (pairwise_scriptsBelow h _ folder)

/-! ### Paths -/

theorem ScriptBelow.isEntryName (ht : t.Proper) (h : ScriptBelow t folder names) :
    ∀ name ∈ names, Path.IsEntryName name := by
  induction h with
  | here hget _ =>
    rw [List.forall_mem_singleton]
    exact ht.named _ (FileTree.mem_of_get? (by simp) hget) _ (by simp)
  | inside hget _ ih =>
    exact List.forall_mem_cons.2 ⟨ht.named _ (FileTree.mem_of_get? (by simp) hget) _ (by simp), ih⟩

/-- The names of a path below a folder are those of the folder and those that lead from there. -/
theorem names_foldl_join (folder : String) (h : ∀ name ∈ names, Path.IsEntryName name) :
    Path.names (names.foldl Path.join folder) = Path.names folder ++ names := by
  induction names generalizing folder with
  | nil => exact (List.append_nil _).symm
  | cons name names ih =>
    obtain ⟨hname, hnames⟩ := List.forall_mem_cons.1 h
    rw [List.foldl_cons, ih _ hnames, Path.names_join hname, List.append_assoc,
      List.singleton_append]

theorem names_of_mem_scriptsBelow (ht : t.Proper) (folder : String)
    (h : names ∈ scriptsBelow t depth loc) :
    Path.names (names.foldl Path.join folder) = Path.names folder ++ names :=
  names_foldl_join folder ((mem_scriptsBelow_iff.1 h).1.isEntryName ht)

/-- The paths of scripts are in the order of the names that lead to them from the folder. -/
theorem pairwise_paths (ht : t.Proper) (folder : String) (depth : Nat) (loc : Location) :
    ((scriptsBelow t depth loc).map fun names => names.foldl Path.join folder).Pairwise
      fun p q => Path.names p < Path.names q := by
  refine List.pairwise_map.2 ((pairwise_scriptsBelow ht depth loc).imp_of_mem fun hp hq hlt => ?_)
  rw [names_of_mem_scriptsBelow ht folder hp, names_of_mem_scriptsBelow ht folder hq]
  exact List.append_left_lt hlt

/-- The paths of the scripts directly in a folder are those of scripts below it that add one name to
    the path of the folder. -/
theorem mem_direct_paths_iff (ht : t.Proper) {folder path : String} :
    path ∈ (scriptsBelow t 0 loc).map (fun names => names.foldl Path.join folder) ↔
      path ∈ (scriptsBelow t t.entries.length loc).map
        (fun names => names.foldl Path.join folder) ∧
      ∃ name, Path.IsEntryName name ∧ path = Path.join folder name := by
  rw [List.mem_map, List.mem_map]
  constructor
  · rintro ⟨names, hdirect, rfl⟩
    obtain ⟨name, _, rfl, _⟩ := mem_scriptsBelow_zero_iff.1 hdirect
    have hbelow := (mem_scriptsBelow_iff.1 hdirect).1
    exact ⟨⟨[name], mem_scriptsBelow_all_iff.2 hbelow, rfl⟩, name,
      by simpa using hbelow.isEntryName ht, rfl⟩
  · rintro ⟨⟨names, hin, rfl⟩, name, hname, hpath⟩
    -- The path has one name more than the folder, so a single name leads to it.
    have hsame := congrArg Path.names hpath
    rw [names_of_mem_scriptsBelow ht folder hin, Path.names_join hname] at hsame
    obtain rfl := List.append_cancel_left hsame
    exact ⟨[name], mem_scriptsBelow_iff.2 ⟨mem_scriptsBelow_all_iff.1 hin, Nat.le_refl _⟩, rfl⟩

/-- Only a path that leads nowhere cannot be listed. -/
theorem listScripts_eq_error_iff {folder : String} {recursive : Bool} {cause : FileError} :
    listScripts t folder recursive = .error cause ↔ t.locate folder = .error cause := by
  rw [listScripts]
  rcases t.locate_unfollowed folder with hsame | ⟨link, target, hlink, hget⟩
  · rw [hsame]
    cases hloc : t.locate folder with
    | error e => rfl
    | ok loc =>
      dsimp only [bind, Except.bind]
      split <;> simp [pure, Except.pure]
  · rw [hlink]
    dsimp only [bind, Except.bind]
    rw [hget]
    cases t.locate folder with
    | error e => rfl
    | ok loc => simp [pure, Except.pure]

/-- A folder is listed from the location to which its path leads. -/
theorem listScripts_eq {folder : String} (hloc : t.locate folder = .ok loc)
    (hfolder : t.get? loc = some .folder) (recursive : Bool) :
    listScripts t folder recursive =
      .ok ((scriptsBelow t (if recursive then t.entries.length else 0) loc).map
        fun names => names.foldl Path.join folder) := by
  rw [listScripts]
  rcases t.locate_unfollowed folder with hsame | ⟨link, target, hlink, hget⟩
  · rw [hsame, hloc]
    dsimp only [bind, Except.bind]
    rw [hfolder]
    rfl
  · rw [hlink]
    dsimp only [bind, Except.bind]
    rw [hget, hloc]
    dsimp only
    rw [if_pos hfolder]
    rfl

/-- The order in which a file system yields the entries of its folders does not show. -/
theorem listScripts_perm (ht : t.Proper) (hbase : t'.base = t.base)
    (hperm : t'.entries.Perm t.entries) (folder : String) (recursive : Bool) :
    listScripts t' folder recursive = listScripts t folder recursive := by
  have hget := ht.get?_perm hperm
  have hbelow (depth : Nat) (loc : Location) :
      scriptsBelow t' depth loc = scriptsBelow t depth loc := by
    -- Both lists are in order, and have the same members.
    have hpairwise := pairwise_scriptsBelow ht depth loc
    have hpairwise' := pairwise_scriptsBelow (ht.perm hperm) depth loc
    refine List.Perm.eq_of_pairwise (fun _ _ _ _ h h' => (lt_asymm h h').elim) hpairwise' hpairwise
      ((List.perm_ext_iff_of_nodup hpairwise'.nodup hpairwise.nodup).2 fun names => ?_)
    have hiff : ScriptBelow t' loc names ↔ ScriptBelow t loc names :=
      ⟨.congr fun loc => (hget loc).symm, .congr hget⟩
    rw [mem_scriptsBelow_iff, mem_scriptsBelow_iff, hiff]
  have hlocate := FileTree.locate_congr hbase hget
  simp only [listScripts, hlocate, hget, hbelow, hperm.length_eq]

/-- The paths of all scripts below a folder, of which some are directly in it. -/
structure ListsScripts (t : FileTree) (folder : String) (loc : Location)
    (scripts direct : List String) : Prop where
  complete : ∀ path, path ∈ scripts ↔
    ∃ names, ScriptBelow t loc names ∧ path = names.foldl Path.join folder
  once : scripts.Nodup
  /-- Paths are compared name by name. -/
  ordered : scripts.Pairwise fun p q => Path.names p < Path.names q
  sublist : direct.Sublist scripts
  immediate : ∀ path, path ∈ direct ↔
    path ∈ scripts ∧ ∃ name, Path.IsEntryName name ∧ path = Path.join folder name

/-- A folder that can be listed gives the paths of all scripts below it, each once and in their
    order, or of those directly in it. The file system may yield its entries in any order. -/
theorem listScripts_exact (ht : t.Proper) {folder : String} (hloc : t.locate folder = .ok loc)
    (hfolder : t.get? loc = some .folder) :
    ∃ scripts direct, listScripts t folder true = .ok scripts ∧
      listScripts t folder false = .ok direct ∧ ListsScripts t folder loc scripts direct ∧
      ∀ t' : FileTree, t'.base = t.base → t'.entries.Perm t.entries → ∀ recursive,
        listScripts t' folder recursive = listScripts t folder recursive := by
  have hordered := pairwise_paths ht folder t.entries.length loc
  refine ⟨_, _, listScripts_eq hloc hfolder true, listScripts_eq hloc hfolder false,
    ⟨fun path => ?_, hordered.imp fun hlt heq => ?_, hordered,
      (scriptsBelow_zero_sublist ht loc).map _, fun path => mem_direct_paths_iff ht⟩,
    fun t' hbase hperm recursive => listScripts_perm ht hbase hperm folder recursive⟩
  · rw [if_pos rfl, List.mem_map]
    simp only [mem_scriptsBelow_all_iff, eq_comm]
  · rw [heq] at hlt
    exact lt_irrefl _ hlt

/-- A tree with a script in a folder, of which the extension is in capital letters, a script that
    comes behind it and a link back to the beginning. -/
def twoScripts : FileTree where
  entries := [(["B.cs"], .file (.text "")), (["l"], .link "."), (["A"], .folder),
    (["A", "x.CS"], .file (.text "")), (["A", "y.txt"], .file (.text "")), (["d.cs"], .folder)]

/-- The path of the link lists what is below the folder to which it leads. -/
theorem listScripts_exact_link :
    twoScripts.Proper ∧ twoScripts.locate "l" = .ok [] ∧ twoScripts.get? [] = some .folder ∧
      ∃ scripts, listScripts twoScripts "l" true = .ok scripts ∧
        "l/A/x.CS" ∈ scripts ∧ "l/B.cs" ∈ scripts ∧
        listScripts { twoScripts with entries := twoScripts.entries.reverse } "l" true =
          .ok scripts := by
  have hproper : twoScripts.Proper := ⟨by decide, by decide⟩
  have hloc : twoScripts.locate "l" = .ok [] := rfl
  obtain ⟨scripts, _, hscripts, _, hlists, hperm⟩ := listScripts_exact hproper hloc rfl
  have hinside : ScriptBelow twoScripts [] ["A", "x.CS"] :=
    .inside rfl (.here rfl ⟨['x'], 'C', 'S', by decide, by decide, .inr rfl, .inr rfl⟩)
  have houtside : ScriptBelow twoScripts [] ["B.cs"] :=
    .here rfl ⟨['B'], 'c', 's', by decide, by decide, .inl rfl, .inl rfl⟩
  exact ⟨hproper, rfl, rfl, scripts, hscripts, (hlists.complete _).2 ⟨_, hinside, by decide⟩,
    (hlists.complete _).2 ⟨_, houtside, by decide⟩,
    (hperm { twoScripts with entries := twoScripts.entries.reverse } rfl (List.reverse_perm _)
      true).trans hscripts⟩

end Scan

end ScriptKeeper
