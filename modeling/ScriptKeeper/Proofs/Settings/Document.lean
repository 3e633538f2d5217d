import ScriptKeeper.Proofs.Json.RoundTrip
import ScriptKeeper.Proofs.Settings.Partial

/-!
# Settings as documents

In the document of settings nothing is missing, so it is read as the same settings, whatever their
texts are and however long their lists, as long as their numbers are in range (`ofJson?_toJson`).
All parts of it denote something, so its text is read as the document (`parse?_print`). Numbering
the rules then keeps everything else (`indices_assignIds`), and changes nothing where all rules have
numbers already (`assignIds_eq_self`).

* `Storable`: the numbers that fit in a document, which numbering keeps in range.
-/

namespace ScriptKeeper

open RecordField Json

theorem plain_ofIndex (index : Option Nat) : (ofIndex index).Plain := by
  cases index with
  | none => exact .null
  | some i => exact .natural i

theorem plain_array {α : Type} {print : α → Json} (h : ∀ x, (print x).Plain) (l : List α) :
    (Json.array (l.map print)).Plain := by
  refine .array fun j hj => ?_
  obtain ⟨x, _, rfl⟩ := List.mem_map.1 hj
  exact h x

/-! ### Records -/

theorem ScriptFolder.plain_toJson (f : ScriptFolder) : f.toJson.Plain := by
  refine .object ?_
  simp only [List.forall_mem_cons]
  exact ⟨.string _, .string _, .bool _, plain_array .natural _, nofun⟩

theorem Placeholder.plain_toJson (p : Placeholder) : p.toJson.Plain := by
  refine .object ?_
  simp only [List.forall_mem_cons]
  exact ⟨.string _, .string _, nofun⟩

theorem NamedPattern.plain_toJson (p : NamedPattern) : p.toJson.Plain := by
  refine .object ?_
  simp only [List.forall_mem_cons]
  exact ⟨.string _, .string _, nofun⟩

theorem UnwantedCode.plain_toJson (r : UnwantedCode) : r.toJson.Plain := by
  refine .object ?_
  simp only [List.forall_mem_cons]
  exact ⟨.natural _, .string _, plain_ofIndex _, .string _, nofun⟩

theorem CodeGuideline.plain_toJson (r : CodeGuideline) : r.toJson.Plain := by
  refine .object ?_
  simp only [List.forall_mem_cons]
  exact ⟨.natural _, .string _, plain_ofIndex _, .string _, plain_ofIndex _, .string _, nofun⟩

theorem CodeDocumentation.plain_toJson (r : CodeDocumentation) : r.toJson.Plain := by
  refine .object ?_
  simp only [List.forall_mem_cons]
  exact ⟨.natural _, .string _, plain_ofIndex _, .string _, nofun⟩

namespace Settings

variable {s : Settings}

/-- All numbers fit in a document, also those that are given to the rules without one. -/
structure Storable (s : Settings) : Prop where
  folders : ∀ f ∈ s.scriptFolders, ∀ id ∈ f.rules, id ≤ maxRuleId
  ids : s.NumbersFit
  indices : ∀ i ∈ s.indices, i ≤ maxIndex

theorem Storable.id_le (h : s.Storable) {id : RuleId} (hid : id ∈ s.ids) : id ≤ maxRuleId :=
  (le_maxId hid).trans ((Nat.le_add_right _ _).trans h.ids)

theorem Storable.inRange (h : s.Storable) : s.InRange := ⟨h.folders, fun _ => h.id_le, h.indices⟩

theorem ofJson?_toJson (h : s.Storable) : ofJson? s.toJson = some s := by
  rw [ofJson?_of_writtenOn h.inRange s.writtenOn_toJson, on_fieldNames]

theorem plain_toJson (s : Settings) : s.toJson.Plain := by
  refine .object ?_
  simp only [List.forall_mem_cons]
  exact ⟨.string _, plain_array ScriptFolder.plain_toJson _, plain_array Placeholder.plain_toJson _,
    plain_array NamedPattern.plain_toJson _, .string _, plain_array UnwantedCode.plain_toJson _,
    plain_array CodeGuideline.plain_toJson _, plain_array CodeDocumentation.plain_toJson _, nofun⟩

/-- The text of settings is read as the settings. -/
theorem parse?_print (h : s.Storable) : parse? s.print = some s := by
  have hread : Json.read? s.print = some s.toJson :=
    read?_pretty s.plain_toJson (by decide) (stops_cons (.inr rfl) [])
  rw [parse?, hread, Option.bind_some, ofJson?_toJson h]

/-! ### Numbering -/

theorem numberFrom_eq_self {α : Type} {id : α → RuleId} (withId : RuleId → α → α) (last : RuleId)
    {l : List α} (h : 0 ∉ l.map id) : numberFrom id withId last l = (l, last) := by
  induction l with
  | nil => rfl
  | cons r l ih =>
    rw [List.map_cons, List.mem_cons, not_or] at h
    rw [numberFrom, if_neg (Ne.symm h.1), ih h.2]

/-- Where every rule has a number, numbering changes nothing. -/
theorem assignIds_eq_self (h : 0 ∉ s.ids) : s.assignIds = s := by
  rw [ids_eq, List.mem_append, List.mem_append, not_or, not_or] at h
  obtain ⟨⟨hu, hg⟩, hd⟩ := h
  rw [assignIds, numberFrom_eq_self _ _ hu]
  dsimp only
  rw [numberFrom_eq_self _ _ hg]
  dsimp only
  rw [numberFrom_eq_self _ _ hd]

/-- What does not depend on the numbers stays as it is. -/
theorem filterMap_numberFrom {α β : Type} (id : α → RuleId) (withId : RuleId → α → α)
    {f : α → Option β} (hf : ∀ n r, f (withId n r) = f r) (last : RuleId) (l : List α) :
    (numberFrom id withId last l).1.filterMap f = l.filterMap f := by
  induction l generalizing last with
  | nil => rfl
  | cons r l ih =>
    rw [numberFrom]
    split
    · rw [List.filterMap_cons, List.filterMap_cons, hf, ih]
    · rw [List.filterMap_cons, List.filterMap_cons, ih]

theorem indices_assignIds (s : Settings) : s.assignIds.indices = s.indices := by
  simp only [indices, assignIds]
  rw [filterMap_numberFrom, filterMap_numberFrom, filterMap_numberFrom, filterMap_numberFrom] <;>
    exact fun _ _ => rfl

theorem foldl_max_le {ns : List Nat} {n k : Nat} (hn : n ≤ k) (h : ∀ m ∈ ns, m ≤ k) :
    ns.foldl max n ≤ k := by
  induction ns generalizing n with
  | nil => exact hn
  | cons m ns ih =>
    rw [List.foldl_cons]
    exact ih (Nat.max_le.2 ⟨hn, h m List.mem_cons_self⟩)
      fun m' hm' => h m' (List.mem_cons_of_mem _ hm')

/-- After numbering, every rule has a number, and no number is greater than what had to fit. -/
theorem ids_assignIds_bounds (hfit : s.NumbersFit) {id : RuleId} (h : id ∈ s.assignIds.ids) :
    id ≠ 0 ∧ id ≤ s.maxId + s.ids.count 0 := by
  rw [ids_assignIds hfit] at h
  rcases mem_fillIn h with ⟨hmem, hne⟩ | ⟨hlt, hle⟩
  · exact ⟨hne, Nat.le_add_right_of_le (le_maxId hmem)⟩
  · exact ⟨Nat.ne_zero_of_lt hlt, hle⟩

/-- Numbering keeps the numbers in range. -/
theorem Storable.assignIds (h : s.Storable) : s.assignIds.Storable where
  folders := h.folders
  ids := by
    have hzero : s.assignIds.ids.count 0 = 0 :=
      List.count_eq_zero.2 fun hmem => (ids_assignIds_bounds h.ids hmem).1 rfl
    rw [NumbersFit, hzero]
    exact foldl_max_le (Nat.zero_le _) fun id hid =>
      (ids_assignIds_bounds h.ids hid).2.trans h.ids
  indices := by
    rw [indices_assignIds]
    exact h.indices

end Settings

end ScriptKeeper
