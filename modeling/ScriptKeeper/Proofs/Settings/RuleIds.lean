import Mathlib.Data.List.Nodup
import Mathlib.Data.List.Perm.Basic
import Mathlib.Tactic.Common
import ScriptKeeper.Proofs.Files.Write
import ScriptKeeper.Settings.File

/-!
# The numbers of loaded rules

When settings are loaded, the rules without a number get those after the greatest, in order
(`ids_assignIds`), as long as there are as many (`NumbersFit`). So these collide with nothing, and
the numbers of all rules are distinct if those that were there before are (`nodup_fillIn_iff`). The
ones that were there come from two places: the document, and the stock lists that stand for the lists
that it does not give (`RuleLists`). The stock rules are numbered already, so a document that gives
only some of the lists has to keep clear of their numbers.

* `ids_of_load`: the numbers after loading are distinct exactly if those written in the document
  and those of the stock lists are; a rule is then found by its number;
* `ids_of_load_clash`: a document with one number in it is enough for a clash.
-/

namespace ScriptKeeper

namespace Rule

/-- The rule with another number. -/
def withId (id : RuleId) : Rule → Rule
  | unwantedCode r => unwantedCode { r with id }
  | documentation r => documentation { r with id }
  | guideline r => guideline { r with id }

theorem id_withId (id : RuleId) (r : Rule) : (r.withId id).id = id := by
  rcases r with _ | _ | _ <;> rfl

end Rule

namespace Settings

open RecordField Json

/-- The numbers of all rules. -/
def ids (s : Settings) : List RuleId := s.rules.map Rule.id

theorem ids_eq (s : Settings) : s.ids = s.unwantedCode.map UnwantedCode.id ++
    s.codeGuidelines.map CodeGuideline.id ++ s.codeDocumentation.map CodeDocumentation.id := by
  simp [ids, rules, Rule.id, Function.comp_def]

/-! ### Filling in numbers -/

/-- The numbers with the zeros replaced in turn by the numbers after `last`. -/
def fillIn : Nat → List Nat → List Nat
  | _, [] => []
  | last, id :: rest =>
    if id = 0 then (last + 1) :: fillIn (last + 1) rest else id :: fillIn last rest

/-- There are numbers after the greatest for all rules without one. -/
def NumbersFit (s : Settings) : Prop := s.maxId + s.ids.count 0 ≤ maxRuleId

instance (s : Settings) : Decidable s.NumbersFit := inferInstanceAs (Decidable (_ ≤ _))

/-- Where numbers are left, the next one is greater by one. -/
theorem next_of_fit {α : Type} {id : α → RuleId} {last : RuleId} {r : α} {l : List α}
    (hr : id r = 0) (h : last + ((r :: l).map id).count 0 ≤ maxRuleId) :
    last.next = last + 1 ∧ last + 1 + (l.map id).count 0 ≤ maxRuleId := by
  rw [List.map_cons, hr, List.count_cons_self, ← Nat.add_assoc, Nat.add_right_comm] at h
  exact ⟨if_pos (Nat.le_of_add_right_le h), h⟩

/-- What numbering does to the numbers of the rules. -/
theorem numberFrom_ids {α : Type} (id : α → RuleId) (withId : RuleId → α → α)
    (hid : ∀ n r, id (withId n r) = n) {last : RuleId} {l : List α}
    (hfit : last + (l.map id).count 0 ≤ maxRuleId) :
    (numberFrom id withId last l).1.map id = fillIn last (l.map id) := by
  induction l generalizing last with
  | nil => rfl
  | cons r l ih =>
    rw [numberFrom, List.map_cons, fillIn]
    split
    next h =>
      obtain ⟨hnext, hfit⟩ := next_of_fit h hfit
      rw [List.map_cons, hid, hnext, ih hfit]
    next h =>
      rw [List.map_cons, List.count_cons_of_ne h] at hfit
      rw [List.map_cons, ih hfit]

/-- What is numbered last goes on from the numbers of what is before it. -/
theorem numberFrom_append {α : Type} {id : α → RuleId} {withId : RuleId → α → α} (last : RuleId)
    (l l' : List α) :
    numberFrom id withId last (l ++ l') =
      ((numberFrom id withId last l).1 ++
          (numberFrom id withId (numberFrom id withId last l).2 l').1,
        (numberFrom id withId (numberFrom id withId last l).2 l').2) := by
  induction l generalizing last with
  | nil => rfl
  | cons r l ih =>
    rw [List.cons_append, numberFrom, numberFrom, ih, ih]
    split <;> rfl

/-- Rules of one kind are numbered alike on their own and among all rules. -/
theorem numberFrom_map {α : Type} (id : α → RuleId) (withId : RuleId → α → α) {kind : α → Rule}
    (hid : ∀ r, (kind r).id = id r) (hwith : ∀ n r, (kind r).withId n = kind (withId n r))
    (last : RuleId) (l : List α) : numberFrom Rule.id Rule.withId last (l.map kind) =
      ((numberFrom id withId last l).1.map kind, (numberFrom id withId last l).2) := by
  induction l generalizing last with
  | nil => rfl
  | cons r l ih =>
    rw [List.map_cons, numberFrom, numberFrom, ih, ih, hid, hwith]
    split <;> rfl

/-- Numbering the lists in turn is numbering all rules in a row. -/
theorem rules_assignIds (s : Settings) :
    s.assignIds.rules = (numberFrom Rule.id Rule.withId s.maxId s.rules).1 := by
  have hunwanted := numberFrom_map UnwantedCode.id (fun id r => { r with id })
    (fun r => (rfl : (Rule.unwantedCode r).id = r.id)) fun _ _ => rfl
  have hguidelines := numberFrom_map CodeGuideline.id (fun id r => { r with id })
    (fun r => (rfl : (Rule.guideline r).id = r.id)) fun _ _ => rfl
  have hdocumentation := numberFrom_map CodeDocumentation.id (fun id r => { r with id })
    (fun r => (rfl : (Rule.documentation r).id = r.id)) fun _ _ => rfl
  rw [rules, rules, numberFrom_append, numberFrom_append, hunwanted, hguidelines, hdocumentation]
  rfl

theorem ids_assignIds {s : Settings} (h : s.NumbersFit) :
    s.assignIds.ids = fillIn s.maxId s.ids := by
  rw [ids, rules_assignIds, numberFrom_ids Rule.id Rule.withId Rule.id_withId h, ids]

/-- The numbers afterwards are those that were there, and as many after `last` as were missing. -/
theorem fillIn_perm (last : Nat) (l : List Nat) :
    (fillIn last l).Perm (l.filter (· ≠ 0) ++ List.range' (last + 1) (l.count 0)) := by
  induction l generalizing last with
  | nil => exact .refl _
  | cons id l ih =>
    rw [fillIn]
    split
    next hid =>
      rw [hid, List.filter_cons_of_neg (by simp), List.count_cons_self, List.range'_succ]
      exact ((ih (last + 1)).cons _).trans List.perm_middle.symm
    next hid =>
      rw [List.filter_cons_of_pos (by simpa using hid), List.count_cons_of_ne hid]
      exact (ih last).cons _

theorem mem_fillIn {last id : Nat} {l : List Nat} (h : id ∈ fillIn last l) :
    id ∈ l ∧ id ≠ 0 ∨ last < id ∧ id ≤ last + l.count 0 := by
  have hmem := (fillIn_perm last l).mem_iff.1 h
  rw [List.mem_append, List.mem_filter, List.mem_range'_1] at hmem
  rcases hmem with ⟨hl, hne⟩ | hrange
  · exact .inl ⟨hl, by simpa using hne⟩
  · exact .inr (by omega)

/-- Numbers after all others collide with nothing. -/
theorem nodup_fillIn_iff {last : Nat} {l : List Nat} (h : ∀ id ∈ l, id ≤ last) :
    (fillIn last l).Nodup ↔ (l.filter (· ≠ 0)).Nodup := by
  rw [(fillIn_perm last l).nodup_iff, List.nodup_append]
  refine ⟨fun hl => hl.1, fun hl => ⟨hl, List.nodup_range', fun id hid id' hid' => ?_⟩⟩
  have hle := h id (List.mem_of_mem_filter hid)
  have hlt := (List.mem_range'_1.1 hid').1
  omega

theorem le_maxId {s : Settings} {id : RuleId} (h : id ∈ s.ids) : id ≤ s.maxId :=
  FileTree.le_foldl_max (.inl h)

/-! ### Rules by their numbers -/

/-- A rule is the first with its number if no other has it. -/
theorem find?_id {s : Settings} (hs : s.ids.Nodup) {r : Rule} (hr : r ∈ s.rules) :
    s.rules.find? (fun rule => rule.id == r.id) = some r := by
  cases hf : s.rules.find? (fun rule => rule.id == r.id) with
  | none => exact absurd (beq_self_eq_true r.id) (List.find?_eq_none.1 hf r hr)
  | some r' =>
    have hid : r'.id = r.id := by simpa using List.find?_some hf
    rw [List.inj_on_of_nodup_map hs (List.mem_of_find?_eq_some hf) hr hid]

/-- A rule is found by its number if no other has it. -/
theorem rule?_id {s : Settings} (hs : s.ids.Nodup) {r : Rule} (hr : r ∈ s.rules)
    (hvalid : s.accepts r = true) : s.rule? r.id = some r := by
  rw [rule?, find?_id hs hr, Option.filter_some, if_pos hvalid]

/-! ### Numbers in documents -/

end Settings

open RecordField Json

/-- The lists of rules that a document gives. One that is missing is `none`. -/
structure RuleLists where
  unwantedCode : Option (List UnwantedCode)
  codeGuidelines : Option (List CodeGuideline)
  codeDocumentation : Option (List CodeDocumentation)

namespace RuleLists

/-- A list that a document may give. -/
def optional {α : Type} (read : Json → Option α) : RecordField → Option (Option (List α)) :=
  defaulting none fun j => (list? read j).map some

/-- The lists of rules in a document of settings. -/
def ofJson? (j : Json) : Option RuleLists := do
  match ← all? Settings.fieldNames j with
  | [_, _, _, _, _, unwanted, guidelines, documented] =>
    return {
      unwantedCode := ← optional UnwantedCode.ofJson? unwanted
      codeGuidelines := ← optional CodeGuideline.ofJson? guidelines
      codeDocumentation := ← optional CodeDocumentation.ofJson? documented }
  | _ => none

/-- The numbers that the document gives to its rules; zero is none. -/
def writtenIds (lists : RuleLists) : List RuleId :=
  ((lists.unwantedCode.getD []).map UnwantedCode.id ++
    (lists.codeGuidelines.getD []).map CodeGuideline.id ++
    (lists.codeDocumentation.getD []).map CodeDocumentation.id).filter (· ≠ 0)

/-- The numbers of the stock rules that stand for the lists that are missing. -/
def stockIds (lists : RuleLists) : List RuleId :=
  (if lists.unwantedCode.isSome then [] else [1]) ++
    (if lists.codeGuidelines.isSome then [] else [2, 3]) ++
    (if lists.codeDocumentation.isSome then [] else [4])

end RuleLists

namespace Settings

theorem optional_of_defaulting {α : Type} {read : Json → Option α} {field : RecordField}
    {stock l : List α} (h : defaulting stock (list? read) field = some l) :
    ∃ given, RuleLists.optional read field = some given ∧ l = given.getD stock := by
  cases field with
  | given j =>
    have hread : list? read j = some l := h
    exact ⟨some l, by rw [RuleLists.optional, defaulting, hread, Option.map_some], rfl⟩
  | absent | cutOff => cases h; exact ⟨none, rfl, rfl⟩

/-- Settings are read from a document field by field. -/
theorem fields_of_ofJson? {j : Json} {s : Settings} (h : ofJson? j = some s) :
    ∃ templates folders placeholders regexes documentation unwanted guidelines documented,
      all? fieldNames j = some [templates, folders, placeholders, regexes, documentation, unwanted,
        guidelines, documented] ∧
      defaulting stock.templateFolder text? templates = some s.templateFolder ∧
      defaulting stock.scriptFolders (list? ScriptFolder.ofJson?) folders =
        some s.scriptFolders ∧
      defaulting stock.placeholders (list? Placeholder.ofJson?) placeholders =
        some s.placeholders ∧
      defaulting stock.regexes (list? NamedPattern.ofJson?) regexes = some s.regexes ∧
      defaulting stock.documentationRegex text? documentation = some s.documentationRegex ∧
      defaulting stock.unwantedCode (list? UnwantedCode.ofJson?) unwanted = some s.unwantedCode ∧
      defaulting stock.codeGuidelines (list? CodeGuideline.ofJson?) guidelines =
        some s.codeGuidelines ∧
      defaulting stock.codeDocumentation (list? CodeDocumentation.ofJson?) documented =
        some s.codeDocumentation := by
  obtain ⟨fields, hfields, h⟩ := Option.bind_eq_some_iff.1 h
  split at h
  next =>
    obtain ⟨_, htemplates, h⟩ := Option.bind_eq_some_iff.1 h
    obtain ⟨_, hfolders, h⟩ := Option.bind_eq_some_iff.1 h
    obtain ⟨_, hplaceholders, h⟩ := Option.bind_eq_some_iff.1 h
    obtain ⟨_, hregexes, h⟩ := Option.bind_eq_some_iff.1 h
    obtain ⟨_, hdocumentation, h⟩ := Option.bind_eq_some_iff.1 h
    obtain ⟨_, hunwanted, h⟩ := Option.bind_eq_some_iff.1 h
    obtain ⟨_, hguidelines, h⟩ := Option.bind_eq_some_iff.1 h
    obtain ⟨_, hdocumented, h⟩ := Option.bind_eq_some_iff.1 h
    cases h
    exact ⟨_, _, _, _, _, _, _, _, hfields, htemplates, hfolders, hplaceholders, hregexes,
      hdocumentation, hunwanted, hguidelines, hdocumented⟩
  next => cases h

/-- The rules of a document are those of its lists, and the stock rules for lists that are
    missing. -/
theorem ruleLists_of_ofJson? {j : Json} {s : Settings} (h : ofJson? j = some s) :
    ∃ lists, RuleLists.ofJson? j = some lists ∧
      s.unwantedCode = lists.unwantedCode.getD stock.unwantedCode ∧
      s.codeGuidelines = lists.codeGuidelines.getD stock.codeGuidelines ∧
      s.codeDocumentation = lists.codeDocumentation.getD stock.codeDocumentation := by
  obtain ⟨_, _, _, _, _, _, _, _, hfields, _, _, _, _, _, hunwanted, hguidelines, hdocumented⟩ :=
    fields_of_ofJson? h
  obtain ⟨u, hu, hunwanted⟩ := optional_of_defaulting hunwanted
  obtain ⟨g, hg, hguidelines⟩ := optional_of_defaulting hguidelines
  obtain ⟨d, hd, hdocumented⟩ := optional_of_defaulting hdocumented
  refine ⟨⟨u, g, d⟩, ?_, hunwanted, hguidelines, hdocumented⟩
  rw [RuleLists.ofJson?, hfields, Option.bind_eq_bind, Option.bind_some]
  dsimp only
  rw [hu, hg, hd]
  rfl

/-- Of the numbers in the settings of a document, those that are set are written in the document or
    belong to stock rules. -/
theorem perm_of_ofJson? {lists : RuleLists} {s : Settings}
    (hu : s.unwantedCode = lists.unwantedCode.getD stock.unwantedCode)
    (hg : s.codeGuidelines = lists.codeGuidelines.getD stock.codeGuidelines)
    (hd : s.codeDocumentation = lists.codeDocumentation.getD stock.codeDocumentation) :
    (s.ids.filter (· ≠ 0)).Perm (lists.writtenIds ++ lists.stockIds) := by
  have stockUnwanted : (stock.unwantedCode.map UnwantedCode.id).filter (· ≠ 0) = [1] := rfl
  have stockGuidelines : (stock.codeGuidelines.map CodeGuideline.id).filter (· ≠ 0) = [2, 3] := rfl
  have stockDocumentation :
      (stock.codeDocumentation.map CodeDocumentation.id).filter (· ≠ 0) = [4] := rfl
  rw [ids_eq, hu, hg, hd, RuleLists.writtenIds, RuleLists.stockIds, List.perm_iff_count]
  intro id
  simp only [List.filter_append, List.count_append]
  cases lists.unwantedCode <;> cases lists.codeGuidelines <;> cases lists.codeDocumentation <;>
    simp only [Option.getD_none, Option.getD_some, stockUnwanted, stockGuidelines,
      stockDocumentation, Option.isSome_none, Option.isSome_some, Bool.false_eq_true, if_true,
      if_false, List.map_nil, List.filter_nil, List.count_nil] <;> omega

/-! ### Loading -/

/-- A file that holds settings is loaded, and every rule has a number then, if there are enough of
    them. The numbers are distinct exactly if those that the document writes are, and none of them is
    that of a stock rule which stands for a list that is missing. Then every rule that can be checked
    is found by its number. -/
theorem ids_of_load {files : FileTree} {path text : String} {j : Json} {s : Settings}
    (htext : files.readText path = .ok text) (hj : Json.read? text = some j)
    (hs : ofJson? j = some s) (hfit : s.NumbersFit) :
    ∃ lists loaded, RuleLists.ofJson? j = some lists ∧ load files path = .ok loaded ∧
      (∀ id ∈ loaded.ids, id ≠ 0 ∧ id ≤ s.maxId + s.ids.count 0) ∧
      (loaded.ids.Nodup ↔ (lists.writtenIds ++ lists.stockIds).Nodup) ∧
      (loaded.ids.Nodup → ∀ r ∈ loaded.rules, loaded.accepts r = true →
        loaded.rule? r.id = some r) := by
  obtain ⟨lists, hlists, hu, hg, hd⟩ := ruleLists_of_ofJson? hs
  refine ⟨lists, s.assignIds, hlists, ?_, fun id hid => ?_, ?_, fun hnodup r => rule?_id hnodup⟩
  · rw [load, htext]
    dsimp only
    rw [parse?, hj, Option.bind_some, hs]
  · rw [ids_assignIds hfit] at hid
    rcases mem_fillIn hid with ⟨hmem, hne⟩ | ⟨hlt, hle⟩
    · exact ⟨hne, Nat.le_add_right_of_le (le_maxId hmem)⟩
    · exact ⟨Nat.ne_zero_of_lt hlt, hle⟩
  · rw [ids_assignIds hfit, nodup_fillIn_iff fun id => le_maxId,
      (perm_of_ofJson? hu hg hd).nodup_iff]

/-- The files of which the only one is `s`, with the given text. -/
def settingsFile (text : String) : FileTree where
  base := "/home"
  entries := [(["s"], .file (.text text))]

/-- A document with one rule, which has no number. -/
def unnumbered : String :=
  "\x7b\"unwanted_code\":[\x7b\"name\":\"\",\"regex_index\":0,\"description\":\"\"\x7d]\x7d"

theorem ids_of_load_unnumbered : ∃ loaded, load (settingsFile unnumbered) "s" = .ok loaded ∧
    loaded.ids.Nodup ∧
    ∀ r ∈ loaded.rules, loaded.accepts r = true → loaded.rule? r.id = some r := by
  have htext : (settingsFile unnumbered).readText "s" = .ok unnumbered := rfl
  have hj : Json.read? unnumbered = some (.object [("unwanted_code", .array [.object [
    ("name", .string ""), ("regex_index", .natural 0), ("description", .string "")]])]) := rfl
  obtain ⟨lists, loaded, hlists, hload, _, hnodup, hfound⟩ :=
    ids_of_load htext hj rfl (by decide)
  cases hlists
  have hdistinct := hnodup.2 (by decide)
  exact ⟨loaded, hload, hdistinct, hfound hdistinct⟩

/-- One rule with the number of a stock rule: the numbers in the document are distinct, those of the
    loaded rules are not, and the stock rule cannot be found. -/
theorem ids_of_load_clash :
    let text :=
      "\x7b\"unwanted_code\":[\x7b\"id\":4,\"name\":\"\",\"regex_index\":0,\"description\":\"\"\x7d]\x7d"
    let loaded : Settings := { stock with unwantedCode := [⟨4, "", some 0, ""⟩] }
    ∃ j lists, (settingsFile text).readText "s" = .ok text ∧ Json.read? text = some j ∧
      RuleLists.ofJson? j = some lists ∧ lists.writtenIds.Nodup ∧
      load (settingsFile text) "s" = .ok loaded ∧ ¬ loaded.ids.Nodup ∧
      ∃ r ∈ loaded.rules, loaded.accepts r = true ∧ loaded.rule? r.id ≠ some r := by
  refine ⟨.object [("unwanted_code", .array [.object [("id", .natural 4), ("name", .string ""),
      ("regex_index", .natural 0), ("description", .string "")]])],
    ⟨some [⟨4, "", some 0, ""⟩], none, none⟩, rfl, rfl, rfl, by decide, rfl, by decide,
    .documentation ⟨4, "Documentation on class", some 2, "Classes must be documented"⟩, ?_,
    by decide, by decide⟩
  exact List.mem_of_getLast? rfl

end Settings

end ScriptKeeper
