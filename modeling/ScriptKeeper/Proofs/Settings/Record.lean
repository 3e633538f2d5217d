import Mathlib.Data.List.Forall2
import Mathlib.Data.List.Nodup
import Mathlib.Data.List.Perm.Basic
import Mathlib.Tactic.Common
import ScriptKeeper.Settings.Document

/-!
# Records that are written in part

The members of an object may come in any order, with others between them whose names stand for
nothing (`Json.Among`), and a member of a record may be missing if it would say what holds without
it (`Json.Abridges`). What is found for the fields of such a record is enough to read it.

* `Json.Abridges.fields`: what is found for the fields;
* `ofJson?_of_abridges`, for each kind of record: the record that is read;
* `Json.AbridgesAll.list?`: the same for lists of records.
-/

namespace ScriptKeeper

/-! ### Lists -/

theorem mapM_eq_some {α β : Type} {f : α → Option β} {g : α → β} {l : List α}
    (h : ∀ x ∈ l, f x = some (g x)) : l.mapM f = some (l.map g) := by
  induction l with
  | nil => rfl
  | cons x l ih =>
    rw [List.mapM_cons, h x List.mem_cons_self, ih fun y hy => h y (List.mem_cons_of_mem _ hy)]
    rfl

/-- A list of things is read back if each of them is. -/
theorem Json.list?_array {α : Type} {read : Json → Option α} {print : α → Json} {l : List α}
    (h : ∀ x ∈ l, read (print x) = some x) : Json.list? read (.array (l.map print)) = some l := by
  have hread : ∀ x ∈ l, (read ∘ print) x = some (id x) := h
  rw [Json.list?, List.mapM_map, mapM_eq_some hread, List.map_id]

/-- Under a name that comes once there is one member. -/
theorem filter_fst_eq {members : List (String × Json)} {m : String × Json}
    (hnodup : (members.map Prod.fst).Nodup) (hm : m ∈ members) :
    members.filter (fun x => x.1 == m.1) = [m] := by
  induction members with
  | nil => cases hm
  | cons x members ih =>
    rw [List.map_cons, List.nodup_cons] at hnodup
    rcases List.mem_cons.1 hm with rfl | hm
    · rw [List.filter_cons_of_pos (by simp), List.filter_eq_nil_iff.2]
      intro y hy hkey
      exact hnodup.1 (by rw [← beq_iff_eq.1 hkey]; exact List.mem_map_of_mem hy)
    · have hne : x.1 ≠ m.1 := fun heq => hnodup.1 (heq ▸ List.mem_map_of_mem hm)
      rw [List.filter_cons_of_neg (by simpa using hne), ih hnodup.2 hm]

open RecordField Json

/-! ### Indices and numbers -/

theorem natural?_natural {bound n : Nat} (h : n ≤ bound) :
    natural? bound (.natural n) = some n := by
  rw [natural?, if_pos h]

theorem nullable_ofIndex {index : Option Nat} (h : ∀ i ∈ index, i ≤ maxIndex) :
    nullable (natural? maxIndex) (.given (ofIndex index)) = some index := by
  cases index with
  | none => rfl
  | some i =>
    have hi := natural?_natural (h i rfl)
    rw [ofIndex, nullable, hi]
    · rfl
    · exact nofun

/-! ### Members in any order -/

/-- Of each thing in a list something is made for which a relation holds. -/
theorem exists_mapM_eq_some {α β : Type} {f : α → Option β} {R : α → β → Prop} {l : List α}
    (h : ∀ a ∈ l, ∃ b, f a = some b ∧ R a b) : ∃ bs, l.mapM f = some bs ∧ List.Forall₂ R l bs := by
  induction l with
  | nil => exact ⟨[], rfl, .nil⟩
  | cons a l ih =>
    obtain ⟨b, hb, hab⟩ := h a List.mem_cons_self
    obtain ⟨bs, hbs, hall⟩ := ih fun a' ha' => h a' (List.mem_cons_of_mem a ha')
    exact ⟨b :: bs, by rw [List.mapM_cons, hb, hbs]; rfl, .cons hab hall⟩

variable {names : List String} {known members all : List (String × Json)} {name : String}
  {m : String × Json} {j v : Json} {field : RecordField}

/-- The members are the known ones in any order, and between them others with unknown names. -/
def Json.Among (names : List String) (known members : List (String × Json)) : Prop :=
  ∃ others, (∀ m ∈ others, m.1 ∉ names) ∧ members.Perm (known ++ others)

theorem Json.Among.refl (names : List String) (known : List (String × Json)) :
    Among names known known := by
  refine ⟨[], fun _ h => absurd h List.not_mem_nil, ?_⟩
  rw [List.append_nil]

/-- Under a known name there are only known members. -/
theorem Json.Among.filter (h : Among names known members) (hname : name ∈ names) :
    (members.filter fun m => m.1 == name).Perm (known.filter fun m => m.1 == name) := by
  obtain ⟨others, hothers, hperm⟩ := h
  have hnone : others.filter (fun m => m.1 == name) = [] := by
    rw [List.filter_eq_nil_iff]
    intro m hm hsame
    exact hothers m hm (by rwa [beq_iff_eq.1 hsame])
  have hfilter := hperm.filter fun m => m.1 == name
  rwa [List.filter_append, hnone, List.append_nil] at hfilter

theorem ofMembers_of_mem (h : Among names known members) (hnodup : (known.map Prod.fst).Nodup)
    (hm : m ∈ known) (hname : m.1 ∈ names) : ofMembers members m.1 = some (.given m.2) := by
  have hfilter := h.filter hname
  rw [filter_fst_eq hnodup hm, List.perm_singleton] at hfilter
  rw [ofMembers, hfilter]

theorem ofMembers_of_not_mem (h : Among names known members) (hname : name ∈ names)
    (hnot : name ∉ known.map Prod.fst) : ofMembers members name = some .absent := by
  have hnone : known.filter (fun m => m.1 == name) = [] := by
    rw [List.filter_eq_nil_iff]
    intro m hm hsame
    exact hnot (by rw [← beq_iff_eq.1 hsame]; exact List.mem_map_of_mem hm)
  have hfilter := h.filter hname
  rw [hnone, List.perm_nil] at hfilter
  rw [ofMembers, hfilter]

/-! ### Records -/

/-- The members that a record may do without, with the values that hold then. -/
def Json.omittable : List (String × Json) := [
  ("id", .natural 0), ("include_subdirectories", .bool false), ("rules", .array []),
  ("regex_index", .null), ("search_regex_index", .null), ("match_regex_index", .null)]

/-- An object stands for another of which it has all members that cannot be omitted. -/
def Json.Abridges (full j : Json) : Prop :=
  ∃ all kept members, full = .object all ∧ j = .object members ∧ kept.Sublist all ∧
    (∀ m ∈ all, m ∈ kept ∨ m ∈ omittable) ∧ Among (all.map Prod.fst) kept members

theorem Json.Abridges.refl (all : List (String × Json)) : Abridges (.object all) (.object all) :=
  ⟨all, all, all, rfl, rfl, .refl all, fun _ h => .inl h, .refl _ _⟩

/-- What a record has for one of its members. -/
def Stands (m : String × Json) (field : RecordField) : Prop :=
  field = .given m.2 ∨ field = .absent ∧ m ∈ omittable

theorem Json.Abridges.fields (hj : Abridges (.object all) j) (hnodup : names.Nodup)
    (hnames : all.map Prod.fst = names) :
    ∃ fields, all? names j = some fields ∧ List.Forall₂ Stands all fields := by
  obtain ⟨_, kept, members, hall, rfl, hkept, homitted, hamong⟩ := hj
  cases hall
  subst hnames
  have hkeptNodup : (kept.map Prod.fst).Nodup := hnodup.sublist (hkept.map _)
  rw [all?, List.mapM_map]
  refine exists_mapM_eq_some fun m hm => ?_
  have hname : m.1 ∈ all.map Prod.fst := List.mem_map_of_mem hm
  rcases Classical.em (m ∈ kept) with hmem | hmem
  · exact ⟨_, ofMembers_of_mem hamong hkeptNodup hmem hname, .inl rfl⟩
  · -- No other member of the record has the name.
    have hnot : m.1 ∉ kept.map Prod.fst := by
      intro hin
      obtain ⟨m', hm', hsame⟩ := List.mem_map.1 hin
      rw [List.inj_on_of_nodup_map hnodup (hkept.subset hm') hm hsame] at hm'
      exact hmem hm'
    exact ⟨_, ofMembers_of_not_mem hamong hname hnot,
      .inr ⟨rfl, (homitted m hm).resolve_left hmem⟩⟩

namespace Stands

variable {α : Type} {read : Json → Option α}

theorem required (h : Stands (name, v) field) (hname : name ∉ omittable.map Prod.fst) :
    required read field = read v := by
  rcases h with rfl | ⟨_, homittable⟩
  · rfl
  · exact absurd (List.mem_map_of_mem homittable) hname

theorem defaulting {x value : α} (h : Stands (name, v) field) (hread : read v = some x)
    (hvalue : (name, v) ∈ omittable → x = value) : defaulting value read field = some x := by
  rcases h with rfl | ⟨rfl, homittable⟩
  · exact hread
  · rw [hvalue homittable]
    rfl

theorem nullable {index : Option Nat} (h : Stands (name, ofIndex index) field)
    (hindex : ∀ i ∈ index, i ≤ maxIndex) (hname : name ≠ "id") :
    nullable (natural? maxIndex) field = some index := by
  rcases h with rfl | ⟨rfl, homittable⟩
  · exact nullable_ofIndex hindex
  · cases index with
    | none => rfl
    | some i => exact absurd homittable (by simp [omittable, ofIndex, hname])

theorem id {id : RuleId} (h : Stands ("id", .natural id) field) (hid : id ≤ maxRuleId) :
    RecordField.defaulting 0 RuleId.ofJson? field = some id :=
  h.defaulting (natural?_natural hid) (by simp [omittable])

end Stands

theorem ScriptFolder.ofJson?_of_abridges {f : ScriptFolder} (h : ∀ id ∈ f.rules, id ≤ maxRuleId)
    (hj : Abridges f.toJson j) : ofJson? j = some f := by
  have hnames : ["name", "path", "include_subdirectories", "rules"].Nodup := by decide
  obtain ⟨fields, hfields, hstands⟩ := hj.fields hnames rfl
  obtain _ | ⟨hname, _ | ⟨hpath, _ | ⟨hdescend, _ | ⟨hrules, _ | _⟩⟩⟩⟩ := hstands
  have hflag : defaulting false flag? _ = some f.includeSubdirectories :=
    hdescend.defaulting rfl (by simp [omittable])
  have hlist : list? RuleId.ofJson? (.array (f.rules.map .natural)) = some f.rules :=
    list?_array fun id hid => natural?_natural (h id hid)
  have hids : defaulting [] (list? RuleId.ofJson?) _ = some f.rules :=
    hrules.defaulting hlist (by simp [omittable])
  rw [ofJson?, hfields]
  simp [hname.required (by decide), hpath.required (by decide), hflag, hids, text?]

theorem Placeholder.ofJson?_of_abridges {p : Placeholder} (hj : Abridges p.toJson j) :
    ofJson? j = some p := by
  have hnames : ["name", "value"].Nodup := by decide
  obtain ⟨fields, hfields, hstands⟩ := hj.fields hnames rfl
  obtain _ | ⟨hname, _ | ⟨hvalue, _ | _⟩⟩ := hstands
  rw [ofJson?, hfields]
  simp [hname.required (by decide), hvalue.required (by decide), text?]

theorem NamedPattern.ofJson?_of_abridges {p : NamedPattern} (hj : Abridges p.toJson j) :
    ofJson? j = some p := by
  have hnames : ["name", "regex"].Nodup := by decide
  obtain ⟨fields, hfields, hstands⟩ := hj.fields hnames rfl
  obtain _ | ⟨hname, _ | ⟨hregex, _ | _⟩⟩ := hstands
  rw [ofJson?, hfields]
  simp [hname.required (by decide), hregex.required (by decide), text?]

theorem UnwantedCode.ofJson?_of_abridges {r : UnwantedCode} (hid : r.id ≤ maxRuleId)
    (hindex : ∀ i ∈ r.regexIndex, i ≤ maxIndex) (hj : Abridges r.toJson j) :
    ofJson? j = some r := by
  have hnames : ["id", "name", "regex_index", "description"].Nodup := by decide
  obtain ⟨fields, hfields, hstands⟩ := hj.fields hnames rfl
  obtain _ | ⟨hnumber, _ | ⟨hname, _ | ⟨hregex, _ | ⟨hdescription, _ | _⟩⟩⟩⟩ := hstands
  rw [ofJson?, hfields]
  simp [hnumber.id hid, hname.required (by decide), hregex.nullable hindex (by decide),
    hdescription.required (by decide), text?]

theorem CodeGuideline.ofJson?_of_abridges {r : CodeGuideline} (hid : r.id ≤ maxRuleId)
    (hsearch : ∀ i ∈ r.searchRegexIndex, i ≤ maxIndex)
    (hmatch : ∀ i ∈ r.matchRegexIndex, i ≤ maxIndex) (hj : Abridges r.toJson j) :
    ofJson? j = some r := by
  have hnames : ["id", "name", "search_regex_index", "group_name", "match_regex_index",
    "description"].Nodup := by decide
  obtain ⟨fields, hfields, hstands⟩ := hj.fields hnames rfl
  obtain _ | ⟨hnumber, _ | ⟨hname, _ | ⟨hsearched, _ | ⟨hgroup, _ | ⟨hmatched, _ |
    ⟨hdescription, _ | _⟩⟩⟩⟩⟩⟩ := hstands
  rw [ofJson?, hfields]
  simp [hnumber.id hid, hname.required (by decide), hsearched.nullable hsearch (by decide),
    hgroup.required (by decide), hmatched.nullable hmatch (by decide),
    hdescription.required (by decide), text?]

theorem CodeDocumentation.ofJson?_of_abridges {r : CodeDocumentation} (hid : r.id ≤ maxRuleId)
    (hindex : ∀ i ∈ r.regexIndex, i ≤ maxIndex) (hj : Abridges r.toJson j) :
    ofJson? j = some r := by
  have hnames : ["id", "name", "regex_index", "description"].Nodup := by decide
  obtain ⟨fields, hfields, hstands⟩ := hj.fields hnames rfl
  obtain _ | ⟨hnumber, _ | ⟨hname, _ | ⟨hregex, _ | ⟨hdescription, _ | _⟩⟩⟩⟩ := hstands
  rw [ofJson?, hfields]
  simp [hnumber.id hid, hname.required (by decide), hregex.nullable hindex (by decide),
    hdescription.required (by decide), text?]

/-! ### Lists of records -/

/-- An array stands for the records of a list if its items stand for them one by one. -/
def Json.AbridgesAll {α : Type} (print : α → Json) (l : List α) (v : Json) : Prop :=
  ∃ items, v = .array items ∧ List.Forall₂ (fun x item => Abridges (print x) item) l items

theorem Json.AbridgesAll.map {α : Type} {print : α → Json}
    (h : ∀ x, Abridges (print x) (print x)) (l : List α) :
    AbridgesAll print l (.array (l.map print)) := by
  refine ⟨_, rfl, ?_⟩
  rw [List.forall₂_map_right_iff, List.forall₂_same]
  exact fun x _ => h x

theorem Json.AbridgesAll.list? {α : Type} {print : α → Json} {read : Json → Option α} {l : List α}
    (h : AbridgesAll print l v)
    (hread : ∀ x ∈ l, ∀ {j : Json}, Abridges (print x) j → read j = some x) :
    list? read v = some l := by
  obtain ⟨items, rfl, hitems⟩ := h
  rw [Json.list?]
  induction hitems with
  | nil => rfl
  | @cons x item l items hitem _ ih =>
    have hrest := ih fun y hy => hread y (List.mem_cons_of_mem x hy)
    rw [List.mapM_cons, hread x List.mem_cons_self hitem, hrest]
    rfl

end ScriptKeeper
