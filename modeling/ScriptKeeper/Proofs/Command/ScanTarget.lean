import ScriptKeeper.Command.Run
import ScriptKeeper.Proofs.Settings.RuleIds

/-!
# The rules of a folder that is not configured

A folder that is named in a scan, and that the settings do not have, is to be checked by all rules
that can be checked. It is given their numbers, and each number stands for the first rule that has
it. So the rules are those that were meant exactly if each of them is the first with its number
(`filterMap_rule?_eq_iff`), as it is when the numbers are distinct.
-/

namespace ScriptKeeper

open Scan

namespace Settings

/-- Nothing is lost or changed exactly if every member is kept as it is. -/
theorem filterMap_eq_self_iff {α : Type} {f : α → Option α} {l : List α} :
    l.filterMap f = l ↔ ∀ x ∈ l, f x = some x := by
  induction l with
  | nil => simp
  | cons x l ih =>
    rw [List.forall_mem_cons]
    cases hx : f x with
    | none =>
      rw [List.filterMap_cons_none hx]
      refine ⟨fun h => ?_, fun h => by cases h.1⟩
      have hle := List.length_filterMap_le f l
      rw [h, List.length_cons] at hle
      omega
    | some y => rw [List.filterMap_cons_some hx, List.cons.injEq, ih, Option.some.injEq]

variable {s : Settings}

theorem accepts_of_mem_validRules {r : Rule} (hr : r ∈ s.validRules) : s.accepts r = true :=
  (List.mem_filter.1 hr).2

/-- A rule that can be checked is found by its number exactly if it is the first with it. -/
theorem rule?_eq_some_iff {r : Rule} (hr : r ∈ s.validRules) :
    s.rule? r.id = some r ↔ s.rules.find? (fun rule => rule.id == r.id) = some r := by
  rw [rule?, Option.filter_eq_some_iff]
  exact ⟨fun h => h.1, fun h => ⟨h, accepts_of_mem_validRules hr⟩⟩

/-- The rules that the numbers of the valid rules stand for are these exactly if each of them is the
    first with its number. -/
theorem filterMap_rule?_eq_iff :
    (s.validRules.map Rule.id).filterMap s.rule? = s.validRules ↔
      ∀ r ∈ s.validRules, s.rules.find? (fun rule => rule.id == r.id) = some r := by
  rw [List.filterMap_map, filterMap_eq_self_iff]
  exact forall₂_congr fun r hr => rule?_eq_some_iff hr

/-- With distinct numbers, every rule is found by its number. -/
theorem filterMap_rule?_of_nodup (h : s.ids.Nodup) :
    (s.validRules.map Rule.id).filterMap s.rule? = s.validRules := by
  rw [List.filterMap_map, filterMap_eq_self_iff]
  exact fun r hr => rule?_id h (List.mem_of_mem_filter hr) (accepts_of_mem_validRules hr)

/-- Loaded settings are those of a document, whose numbers and those of the stock lists in it decide
    whether the numbers of the rules are distinct. -/
theorem exists_lists_of_load {files : FileTree} {path : String} (h : load files path = .ok s) :
    ∃ text j document lists, files.readText path = .ok text ∧ Json.read? text = some j ∧
      ofJson? j = some document ∧ RuleLists.ofJson? j = some lists ∧
      (document.NumbersFit → (s.ids.Nodup ↔ (lists.writtenIds ++ lists.stockIds).Nodup)) := by
  rw [load] at h
  split at h
  next => cases h
  next text htext =>
    split at h
    next s₀ hparse =>
      cases h
      obtain ⟨j, hj, hs⟩ := Option.bind_eq_some_iff.1 hparse
      obtain ⟨lists, hlists, hu, hg, hd⟩ := ruleLists_of_ofJson? hs
      refine ⟨text, j, s₀, lists, htext, hj, hs, hlists, fun hfit => ?_⟩
      rw [ids_assignIds hfit, nodup_fillIn_iff fun id => le_maxId,
        (perm_of_ofJson? hu hg hd).nodup_iff]
    next => cases h

end Settings

namespace Command

/-- The rules that a scan checks in a folder which the settings do not have are the valid rules,
    each once and in their order, exactly if every valid rule is the first with its number. They are
    if the numbers in the document are distinct, together with those of the stock lists that it
    leaves to be filled in, and there are enough numbers for the rules that have none. -/
theorem folderRules_scanTarget {files : FileTree} {path folder : String} {s : Settings}
    {scanner : Scanner} (hload : Settings.load files path = .ok s)
    (hscanner : Scanner.ofSettings s = .ok scanner) (hfolder : s.scriptFolder? folder = none) :
    (scanner.folderRules (scanTarget s folder) = s.validRules ↔
      ∀ r ∈ s.validRules, s.rules.find? (fun rule => rule.id == r.id) = some r) ∧
    ∃ text j document lists, files.readText path = .ok text ∧ Json.read? text = some j ∧
      Settings.ofJson? j = some document ∧ RuleLists.ofJson? j = some lists ∧
      (document.NumbersFit → (lists.writtenIds ++ lists.stockIds).Nodup →
        scanner.folderRules (scanTarget s folder) = s.validRules) := by
  have hsettings : scanner.settings = s := by
    rw [Scanner.ofSettings] at hscanner
    split at hscanner
    next => cases hscanner; rfl
    next => cases hscanner
  have hrules : scanner.folderRules (scanTarget s folder) =
      (s.validRules.map Rule.id).filterMap s.rule? := by
    rw [Scanner.folderRules, hsettings, scanTarget, hfolder, Option.getD_none]
  obtain ⟨text, j, document, lists, htext, hj, hdocument, hlists, hnodup⟩ :=
    Settings.exists_lists_of_load hload
  rw [hrules]
  exact ⟨Settings.filterMap_rule?_eq_iff, text, j, document, lists, htext, hj, hdocument, hlists,
    fun hfit h => Settings.filterMap_rule?_of_nodup ((hnodup hfit).2 h)⟩

/-- A document with one rule without a number, which gets the next after those of the stock
    rules. -/
theorem folderRules_scanTarget_unnumbered : ∃ s, ∃ scanner : Scanner,
    Settings.load (Settings.settingsFile Settings.unnumbered) "s" = .ok s ∧
      scanner.folderRules (scanTarget s "d") = s.validRules := by
  have hload : ∃ s scanner, Settings.load (Settings.settingsFile Settings.unnumbered) "s" = .ok s ∧
      Scanner.ofSettings s = .ok scanner ∧ s.scriptFolder? "d" = none := ⟨_, _, rfl, rfl, rfl⟩
  obtain ⟨s, scanner, hload, hscanner, hfolder⟩ := hload
  obtain ⟨_, text, j, document, lists, htext, hj, hdocument, hlists, hrules⟩ :=
    folderRules_scanTarget hload hscanner hfolder
  obtain rfl : Settings.unnumbered = text := Except.ok.inj htext
  have hread : Json.read? Settings.unnumbered = some (.object [("unwanted_code", .array [.object [
    ("name", .string ""), ("regex_index", .natural 0), ("description", .string "")]])]) := rfl
  obtain rfl := Option.some.inj (hread.symm.trans hj)
  cases hdocument
  cases hlists
  exact ⟨s, scanner, hload, hrules (by decide) (by decide)⟩

/-- A document with one rule, which has the number of a stock rule. -/
def clashing : String :=
  "\x7b\"unwanted_code\":[\x7b\"id\":4,\"name\":\"\",\"regex_index\":0,\"description\":\"\"\x7d]\x7d"

/-- The rule is checked twice then, and the stock rule never, though it could be checked. -/
theorem folderRules_scanTarget_clash : ∃ s, ∃ scanner : Scanner,
    Settings.load (Settings.settingsFile clashing) "s" = .ok s ∧
      Scanner.ofSettings s = .ok scanner ∧ s.scriptFolder? "d" = none ∧
      (scanner.folderRules (scanTarget s "d")).map Rule.name =
        ["", "Method Name", "Private field name", ""] ∧
      s.validRules.map Rule.name =
        ["", "Method Name", "Private field name", "Documentation on class"] ∧
      scanner.folderRules (scanTarget s "d") ≠ s.validRules := by
  have hload : ∃ s scanner, Settings.load (Settings.settingsFile clashing) "s" = .ok s ∧
      Scanner.ofSettings s = .ok scanner ∧ s.scriptFolder? "d" = none ∧
      (scanner.folderRules (scanTarget s "d")).map Rule.name =
        ["", "Method Name", "Private field name", ""] ∧
      s.validRules.map Rule.name =
        ["", "Method Name", "Private field name", "Documentation on class"] :=
    ⟨_, _, rfl, rfl, rfl, rfl, rfl⟩
  obtain ⟨s, scanner, hs, hscanner, hfolder, hchecked, hvalid⟩ := hload
  refine ⟨s, scanner, hs, hscanner, hfolder, hchecked, hvalid, fun heq => ?_⟩
  rw [heq, hvalid] at hchecked
  exact absurd hchecked (by decide)

end Command

end ScriptKeeper
