import ScriptKeeper.Proofs.Settings.Document

/-!
# What numbering does to the rules

The rules are numbered list by list, with one number that runs through all of them. That is the same
as numbering all rules in a row, so what is to be known of numbering can be said of one list, and
proved by going through it from the front.

* `Rule.Renumbered`: a rule that has a number keeps it, and all else stays the same;
* `given_numberFrom`: the numbers that are given are those after the last one, in order;
* `prefix_assignIds`: rules that are added behind others leave those as they are;
* `assignIds_exact`: all of it for settings.
-/

namespace ScriptKeeper

/-- A rule as it is after numbering: only its number may have changed, and only if it had none. -/
def Rule.Renumbered (before after : Rule) : Prop :=
  after = if before.id = 0 then before.withId after.id else before

namespace Settings

variable {s : Settings}

/-! ### The numbers that are given -/

theorem renumbered_numberFrom (last : RuleId) (l : List Rule) :
    List.Forall₂ Rule.Renumbered l (numberFrom Rule.id Rule.withId last l).1 := by
  induction l generalizing last with
  | nil => exact .nil
  | cons r l ih =>
    rw [numberFrom]
    split
    next h =>
      refine .cons ?_ (ih last.next)
      rw [Rule.Renumbered, if_pos h, Rule.id_withId]
    next h => exact .cons (by rw [Rule.Renumbered, if_neg h]) (ih last)

/-- The numbers that are given are those after the last one, in order. -/
theorem given_numberFrom {last : RuleId} {l : List Rule}
    (hfit : last + (l.map Rule.id).count 0 ≤ maxRuleId) :
    ((l.zip (numberFrom Rule.id Rule.withId last l).1).filter fun x => x.1.id = 0).map
        (fun x => x.2.id) =
      List.range' (last + 1) ((l.map Rule.id).count 0) := by
  induction l generalizing last with
  | nil => rfl
  | cons r l ih =>
    rw [numberFrom, List.map_cons]
    split
    next h =>
      obtain ⟨hnext, hfit⟩ := next_of_fit h hfit
      rw [hnext, List.zip_cons_cons, List.filter_cons_of_pos (by simpa using h), List.map_cons,
        ih hfit, Rule.id_withId, h, List.count_cons_self, List.range'_succ]
    next h =>
      rw [List.map_cons, List.count_cons_of_ne h] at hfit
      rw [List.zip_cons_cons, List.filter_cons_of_neg (by simpa using h), ih hfit,
        List.count_cons_of_ne h]

/-- Each number after the greatest, up to as many as were missing, belongs to one rule. -/
theorem count_ids_assignIds (hfit : s.NumbersFit) {id : RuleId} (hlt : s.maxId < id)
    (hle : id ≤ s.maxId + s.ids.count 0) : s.assignIds.ids.count id = 1 := by
  have hold : id ∉ s.ids.filter (· ≠ 0) := fun hmem =>
    Nat.not_lt.2 (le_maxId (List.mem_of_mem_filter hmem)) hlt
  have hnew : id ∈ List.range' (s.maxId + 1) (s.ids.count 0) := by
    rw [List.mem_range'_1, Nat.add_right_comm]
    exact ⟨hlt, Nat.lt_succ_of_le hle⟩
  rw [ids_assignIds hfit, (fillIn_perm s.maxId s.ids).count_eq, List.count_append,
    List.count_eq_zero.2 hold, List.count_eq_one_of_mem List.nodup_range' hnew]

/-- If no two rules have the same number, the number of a rule finds it, or nothing if it cannot be
    checked. -/
theorem rule?_of_nodup (hs : s.ids.Nodup) {r : Rule} (hr : r ∈ s.rules) :
    s.rule? r.id = if s.accepts r then some r else none := by
  rw [rule?, find?_id hs hr, Option.filter_some]

/-! ### Rules that are added -/

/-- The settings with more rules of every kind, behind those that there are. -/
def addRules (s : Settings) (unwanted : List UnwantedCode) (guidelines : List CodeGuideline)
    (documentation : List CodeDocumentation) : Settings :=
  { s with
    unwantedCode := s.unwantedCode ++ unwanted
    codeGuidelines := s.codeGuidelines ++ guidelines
    codeDocumentation := s.codeDocumentation ++ documentation }

theorem prefix_numberFrom {α : Type} {id : α → RuleId} {withId : RuleId → α → α} {l : List α}
    (h : 0 ∉ l.map id) (last : RuleId) (more : List α) :
    l <+: (numberFrom id withId last (l ++ more)).1 := by
  rw [numberFrom_append, numberFrom_eq_self withId last h]
  exact List.prefix_append _ _

/-- Where all rules have numbers, those behind them are numbered without touching them. -/
theorem prefix_assignIds (h : 0 ∉ s.ids) (unwanted : List UnwantedCode)
    (guidelines : List CodeGuideline) (documentation : List CodeDocumentation) :
    let t := (s.addRules unwanted guidelines documentation).assignIds
    s.unwantedCode <+: t.unwantedCode ∧ s.codeGuidelines <+: t.codeGuidelines ∧
      s.codeDocumentation <+: t.codeDocumentation := by
  rw [ids_eq, List.mem_append, List.mem_append, not_or, not_or] at h
  obtain ⟨⟨hu, hg⟩, hd⟩ := h
  exact ⟨prefix_numberFrom hu _ _, prefix_numberFrom hg _ _, prefix_numberFrom hd _ _⟩

/-! ### Numbering settings -/

/-- Numbering changes nothing but the numbers of rules that have none. If there are enough numbers,
    these get the ones after the greatest, in the order of `rules`, and each of these numbers belongs
    to one rule. The numbers are distinct if those that were there were, and then they find the rules
    that can be checked. What is numbered stays so, also when rules are added and numbered. -/
theorem assignIds_exact (hfit : s.NumbersFit) :
    s.maxId = s.ids.max?.getD 0 ∧
    { s.assignIds with
      unwantedCode := s.unwantedCode
      codeGuidelines := s.codeGuidelines
      codeDocumentation := s.codeDocumentation } = s ∧
    List.Forall₂ Rule.Renumbered s.rules s.assignIds.rules ∧
    ((s.rules.zip s.assignIds.rules).filter fun x => x.1.id = 0).map (fun x => x.2.id) =
      List.range' (s.maxId + 1) (s.ids.count 0) ∧
    (∀ id ∈ s.assignIds.ids, id ≠ 0 ∧ id ≤ s.maxId + s.ids.count 0) ∧
    (∀ id, s.maxId < id → id ≤ s.maxId + s.ids.count 0 → s.assignIds.ids.count id = 1) ∧
    (s.assignIds.ids.Nodup ↔ (s.ids.filter (· ≠ 0)).Nodup) ∧
    (s.assignIds.ids.Nodup → ∀ r ∈ s.assignIds.rules,
      s.assignIds.rule? r.id = if s.assignIds.accepts r then some r else none) ∧
    s.assignIds.assignIds = s.assignIds ∧
    ∀ unwanted guidelines documentation,
      let t := (s.assignIds.addRules unwanted guidelines documentation).assignIds
      s.assignIds.unwantedCode <+: t.unwantedCode ∧
        s.assignIds.codeGuidelines <+: t.codeGuidelines ∧
        s.assignIds.codeDocumentation <+: t.codeDocumentation := by
  have hbounds : ∀ id ∈ s.assignIds.ids, id ≠ 0 ∧ id ≤ s.maxId + s.ids.count 0 :=
    fun id => ids_assignIds_bounds hfit
  have hzero : 0 ∉ s.assignIds.ids := fun hmem => (hbounds 0 hmem).1 rfl
  refine ⟨List.foldl_max, rfl, ?_, ?_, hbounds,
    fun id => count_ids_assignIds hfit, ?_,
    fun hnodup r hr => rule?_of_nodup hnodup hr, assignIds_eq_self hzero, prefix_assignIds hzero⟩
  · rw [rules_assignIds]
    exact renumbered_numberFrom s.maxId s.rules
  · rw [rules_assignIds]
    exact given_numberFrom hfit
  · rw [ids_assignIds hfit, nodup_fillIn_iff fun id => le_maxId]

/-- A rule of each kind without a number, next to one that has the greatest. -/
theorem assignIds_exact_mixed :
    let s : Settings := { stock with
      unwantedCode := [⟨0, "a", none, ""⟩, ⟨7, "b", none, ""⟩]
      codeGuidelines := [⟨0, "c", none, "", none, ""⟩]
      codeDocumentation := [⟨0, "d", none, ""⟩] }
    s.NumbersFit ∧ s.assignIds.ids = [8, 7, 9, 10] ∧ s.assignIds.ids.Nodup ∧
      s.assignIds.assignIds = s.assignIds := by
  intro s
  have hfit : s.NumbersFit := by decide
  obtain ⟨_, _, _, _, _, _, hnodup, _, hagain, _⟩ := assignIds_exact hfit
  exact ⟨hfit, rfl, hnodup.2 (by decide), hagain⟩

end Settings

end ScriptKeeper
