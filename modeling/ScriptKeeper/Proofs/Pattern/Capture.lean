import ScriptKeeper.Proofs.Pattern.Groups

/-!
# What a group captures that every match passes

A program passes a group if it can neither go round its code nor come back to it: what stands before
the code goes on there or at its first instruction, what stands behind it stays behind it, and the
program accepts only there (`Passes`). Then each match has a text for the group, and it is one that
the body of the group spells (`exists_group_of_mem_findAll`).

The bodies here are those of names: a character of one set, and then any number of another
(`Spells`). How far a thread has come in the program tells how much of the name it has read
(`Progress`).
-/

namespace ScriptKeeper.Pattern

open Text
open Unicode (CharSet)

/-! ### Programs that pass a group -/

/-- Where an instruction goes on. -/
def Instr.targets : Instr → List Nat
  | consume _ next => [next]
  | check _ next => [next]
  | save _ next => [next]
  | jump next => [next]
  | fork preferred other => [preferred, other]
  | accept => []

/-- Whether an instruction marks a place in the slot. -/
def Instr.marks (slot : Nat) : Instr → Bool
  | save slot' _ => slot' == slot
  | _ => false

/-- The characters are one of the set `first` and then any number of the set `rest`. -/
def Spells (first rest : CharSet) (cs : List Char) : Prop :=
  ∃ c tail, cs = c :: tail ∧ first.contains c = true ∧ ∀ d ∈ tail, rest.contains d = true

/-- The code of the group of the given number that captures what `first` and `rest` spell, from the
    address `entry` on. -/
def nameCode (first rest : CharSet) (index entry : Nat) : List Instr := [
  .save (2 * index) (entry + 1),
  .consume first (entry + 2),
  .fork (entry + 3) (entry + 4), .consume rest (entry + 2),
  .save (2 * index + 1) (entry + 5)]

/-- The program has the code of the group at `entry`, and there is no way round it and none back. -/
def Passes (first rest : CharSet) (index entry : Nat) (program : Program) : Prop :=
  (program.toList.drop entry).take 5 = nameCode first rest index entry ∧
    (∀ instr ∈ program.toList.take entry,
      instr ≠ .accept ∧ ∀ next ∈ instr.targets, next ≤ entry) ∧
    ∀ instr ∈ program.toList.drop (entry + 5), instr.marks (2 * index) = false ∧
      instr.marks (2 * index + 1) = false ∧ ∀ next ∈ instr.targets, entry + 5 ≤ next

instance (first rest : CharSet) (index entry : Nat) (program : Program) :
    Decidable (Passes first rest index entry program) :=
  inferInstanceAs (Decidable (_ ∧ _ ∧ _))

section

variable {first rest : CharSet} {index entry : Nat} {program : Program} {cs : List Char}
  {t t' : Thread} {instr : Instr}

namespace Passes

theorem code (h : Passes first rest index entry program) {k : Nat} (hk : k < 5) :
    program[entry + k]? = (nameCode first rest index entry)[k]? := by
  rw [← h.1, List.getElem?_take_of_lt hk, List.getElem?_drop, Array.getElem?_toList]

theorem before (h : Passes first rest index entry program) (hpc : t.pc < entry)
    (hinstr : program[t.pc]? = some instr) :
    instr ≠ .accept ∧ ∀ next ∈ instr.targets, next ≤ entry := by
  refine h.2.1 instr (List.mem_of_getElem? (i := t.pc) ?_)
  rw [List.getElem?_take_of_lt hpc, Array.getElem?_toList, hinstr]

theorem behind (h : Passes first rest index entry program) (hpc : entry + 5 ≤ t.pc)
    (hinstr : program[t.pc]? = some instr) : instr.marks (2 * index) = false ∧
      instr.marks (2 * index + 1) = false ∧ ∀ next ∈ instr.targets, entry + 5 ≤ next := by
  refine h.2.2 instr (List.mem_of_getElem? (i := t.pc - (entry + 5)) ?_)
  rw [List.getElem?_drop, Nat.add_sub_cancel' hpc, Array.getElem?_toList, hinstr]

end Passes

/-! ### Threads on their way through the group -/

theorem Thread.pc_mem_targets {text : Array Char} (h : t' ∈ t.step text instr) :
    t'.pc ∈ instr.targets := by
  cases instr with
  | consume set next =>
    rw [Thread.step] at h
    split at h
    · split at h
      · cases List.mem_singleton.1 h
        exact List.mem_singleton_self next
      · cases h
    · cases h
  | check look next =>
    rw [Thread.step] at h
    split at h
    · cases List.mem_singleton.1 h
      exact List.mem_singleton_self next
    · cases h
  | save | jump =>
    cases List.mem_singleton.1 h
    exact List.mem_singleton_self _
  | fork preferred other =>
    rcases List.mem_cons.1 h with rfl | h
    · exact List.mem_cons_self
    · cases List.mem_singleton.1 h
      exact List.mem_cons_of_mem _ (List.mem_singleton_self other)
  | accept => cases h

/-- An instruction that does not mark a slot leaves its latest mark as it is. -/
theorem Thread.lastMark_of_step {text : Array Char} {slot : Nat} (hi : instr.marks slot = false)
    (h : t' ∈ t.step text instr) : lastMark t'.marks slot = lastMark t.marks slot := by
  cases instr with
  | save slot' next =>
    cases List.mem_singleton.1 h
    exact lastMark_cons_of_ne (by simpa [Instr.marks] using hi)
  | consume set next =>
    rw [Thread.step] at h
    split at h
    · split at h
      · cases List.mem_singleton.1 h
        rfl
      · cases h
    · cases h
  | check look next =>
    rw [Thread.step] at h
    split at h
    · cases List.mem_singleton.1 h
      rfl
    · cases h
  | jump next =>
    cases List.mem_singleton.1 h
    rfl
  | fork preferred other =>
    rcases List.mem_cons.1 h with rfl | h
    · rfl
    · cases List.mem_singleton.1 h
      rfl
  | accept => cases h

/-- How far a thread has come: it has still to enter the group, has to read the first character of
    the name, is reading on, or has left the group with a name captured. -/
inductive Progress (first rest : CharSet) (index entry : Nat) (cs : List Char) (t : Thread) : Prop
  | outside (hpc : t.pc ≤ entry)
  | entered (hpc : t.pc = entry + 1) (hstart : lastMark t.marks (2 * index) = some t.pos)
  | reading (hpc : entry + 2 ≤ t.pc ∧ t.pc ≤ entry + 4) (start : Nat)
      (hstart : lastMark t.marks (2 * index) = some start)
      (hread : Spells first rest ((cs.take t.pos).drop start))
  | left (hpc : entry + 5 ≤ t.pc) (start stop : Nat)
      (hstart : lastMark t.marks (2 * index) = some start)
      (hstop : lastMark t.marks (2 * index + 1) = some stop)
      (hread : Spells first rest ((cs.take stop).drop start))

theorem Spells.concat {c : Char} (h : Spells first rest cs) (hc : rest.contains c = true) :
    Spells first rest (cs ++ [c]) := by
  obtain ⟨d, tail, rfl, hd, htail⟩ := h
  refine ⟨d, tail ++ [c], rfl, hd, fun e he => ?_⟩
  rcases List.mem_append.1 he with he | he
  · exact htail e he
  · rwa [List.mem_singleton.1 he]

theorem Spells.start_lt {start pos : Nat} (h : Spells first rest ((cs.take pos).drop start)) :
    start < pos := by
  obtain ⟨c, tail, heq, _⟩ := h
  have hlength := congrArg List.length heq
  rw [List.length_drop, List.length_take, List.length_cons] at hlength
  omega

/-- Every move of a thread keeps what is known from how far it has come. -/
theorem Progress.move (hp : Passes first rest index entry program)
    (h : Progress first rest index entry cs t) (hm : Moves program cs.toArray t t') :
    Progress first rest index entry cs t' := by
  obtain ⟨instr, hinstr, hstep⟩ := hm
  have htarget := Thread.pc_mem_targets hstep
  cases h with
  | outside hpc =>
    rcases Nat.eq_or_lt_of_le hpc with hpc | hpc
    · -- The group is entered where the thread stands.
      rw [hpc, ← Nat.add_zero entry, hp.code (by decide)] at hinstr
      cases hinstr
      cases List.mem_singleton.1 hstep
      exact .entered rfl lastMark_cons_self
    · exact .outside ((hp.before hpc hinstr).2 _ htarget)
  | entered hpc hstart =>
    rw [hpc, hp.code (by decide)] at hinstr
    cases hinstr
    obtain ⟨c, hc, hfirst, rfl⟩ := mem_step_consume_iff.1 hstep
    refine .reading ⟨Nat.le_refl _, by simp⟩ t.pos hstart ⟨c, [], ?_, hfirst, nofun⟩
    have hlength : (cs.take t.pos).length ≤ t.pos := List.length_take_le _ _
    rw [drop_take_succ hc (Nat.le_refl _), List.drop_eq_nil_of_le hlength, List.nil_append]
  | reading hpc start hstart hread =>
    obtain hpc | hpc | hpc : t.pc = entry + 2 ∨ t.pc = entry + 3 ∨ t.pc = entry + 4 := by omega
    · rw [hpc, hp.code (by decide)] at hinstr
      cases hinstr
      rcases List.mem_cons.1 hstep with rfl | hstep
      · exact .reading ⟨Nat.le_succ _, Nat.le_succ _⟩ start hstart hread
      · cases List.mem_singleton.1 hstep
        exact .reading ⟨by simp, Nat.le_refl _⟩ start hstart hread
    · rw [hpc, hp.code (by decide)] at hinstr
      cases hinstr
      obtain ⟨c, hc, hrest, rfl⟩ := mem_step_consume_iff.1 hstep
      refine .reading ⟨Nat.le_refl _, by simp⟩ start hstart ?_
      rw [drop_take_succ hc (Nat.le_of_lt hread.start_lt)]
      exact hread.concat hrest
    · rw [hpc, hp.code (by decide)] at hinstr
      cases hinstr
      cases List.mem_singleton.1 hstep
      exact .left (Nat.le_refl _) start t.pos ((lastMark_cons_of_ne (by omega)).trans hstart)
        lastMark_cons_self hread
  | left hpc start stop hstart hstop hread =>
    obtain ⟨hbegin, hend, htargets⟩ := hp.behind hpc hinstr
    exact .left (htargets _ htarget) start stop
      ((Thread.lastMark_of_step hbegin hstep).trans hstart)
      ((Thread.lastMark_of_step hend hstep).trans hstop) hread

theorem Progress.leads (hp : Passes first rest index entry program)
    (h : Progress first rest index entry cs t) (hl : Leads program cs.toArray t t') :
    Progress first rest index entry cs t' := by
  induction hl with
  | refl => exact h
  | tail _ hm ih => exact ih.move hp hm

/-- A program accepts only behind a group that it passes. -/
theorem Passes.le_of_accepts (h : Passes first rest index entry program) (ha : Accepts program t) :
    entry + 5 ≤ t.pc := by
  by_contra hlt
  rcases Nat.lt_or_ge t.pc entry with hpc | hpc
  · exact (h.before hpc ha).1 rfl
  · obtain ⟨k, hk⟩ := Nat.exists_eq_add_of_le hpc
    have hk5 : k < 5 := by omega
    rw [Accepts, hk, h.code hk5] at ha
    rcases k with _ | _ | _ | _ | _ | k
    · cases ha
    · cases ha
    · cases ha
    · cases ha
    · cases ha
    · omega

/-! ### The group of a match -/

/-- Every match has a text for a group that the program passes, and it is spelled as the group asks
    for. -/
theorem exists_group_of_mem_findAll {p : Pattern} (h : Passes first rest index entry p.program)
    (hpos : 0 < index) (hindex : index < p.groupNames.length) {document : String} {m : Match}
    (hm : m ∈ p.findAll document) :
    ∃ r, m.groups[index]? = some (some r) ∧ Spells first rest (covered document r).toList := by
  obtain ⟨found, hfound, rfl⟩ := List.mem_map.1 hm
  obtain ⟨t, hleads, haccepts, _, hmarks⟩ : found.Reached p.program document.toList.toArray :=
    reached_of_mem_matchesFrom hfound
  have hprogress : Progress first rest index entry document.toList t :=
    Progress.leads h (.outside (Nat.zero_le _)) hleads
  have hbehind := h.le_of_accepts haccepts
  cases hprogress with
  | outside hpc => omega
  | entered hpc => omega
  | reading hpc => omega
  | left hpc start stop hstart hstop hread =>
    rw [hmarks] at hstart hstop
    refine ⟨byteRange document.toList start stop, ?_, ?_⟩
    · have hgroup : (lastMark found.marks (2 * index)).bind (fun start =>
          (lastMark found.marks (2 * index + 1)).bind fun stop =>
            some (byteRange document.toList start stop)) =
          some (byteRange document.toList start stop) := by rw [hstart, hstop]; rfl
      rw [matchOf, List.getElem?_map, List.getElem?_range hindex, Option.map_some,
        if_neg (Nat.ne_of_gt hpos)]
      exact congrArg some hgroup
    · rw [covered_byteRange document (Nat.le_of_lt hread.start_lt), String.toList_ofList]
      exact hread

end

end ScriptKeeper.Pattern
