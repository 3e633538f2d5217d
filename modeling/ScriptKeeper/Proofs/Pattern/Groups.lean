import Mathlib.Tactic.Ring
import ScriptKeeper.Proofs.Pattern.Order
import ScriptKeeper.Proofs.Pattern.Search

/-!
# What groups capture

A group that takes part in a match captures a stretch of the text (`fits_of_mem_groups`): its latest
end is not before its latest beginning, although a group that is repeated sets its marks anew each
time.

The reason is in the code. At every instruction of an expression it is settled which groups are open
there (`Expr.openAt`), however a thread has come to it, as the code of a group is entered by its
first mark and left by its last (`agree_code`). So a thread that stands at an instruction has a
beginning for each group that is open there, and for each that is not, no end before the beginning
(`WellMarked`). Where the program accepts, no group is open.
-/

namespace ScriptKeeper.Pattern

open Text

/-! ### Open groups -/

namespace Expr

/-- The groups that are open at an instruction of the code of an expression, the innermost first.
    Instructions are counted from the first one of the expression. -/
def openAt : Expr → Nat → List Nat
  | empty, _ => []
  | one _, _ => []
  | look _, _ => []
  | seq a b, k => if k < a.size then a.openAt k else b.openAt (k - a.size)
  | alt a b, k =>
    if k = 0 then []
    else if k - 1 < a.size then a.openAt (k - 1) else b.openAt (k - 1 - a.size)
  | group index _ body, k =>
    if k = 0 then []
    else if k - 1 < body.size then body.openAt (k - 1) ++ [index] else [index]
  | iterate body least none _, k =>
    if least = 0 then if 0 < k ∧ k - 1 < body.size then body.openAt (k - 1) else []
    else if k < least * body.size then body.openAt (k % body.size) else []
  | iterate body least (some most) _, k =>
    let j := k - least * body.size
    if k < least * body.size then body.openAt (k % body.size)
    else if j < (most - least) * (body.size + 1) ∧ 0 < j % (body.size + 1) then
      body.openAt (j % (body.size + 1) - 1)
    else []

theorem size_pos (e : Expr) : 0 < e.size := by
  induction e with
  | empty | one | look => exact Nat.one_pos
  | seq a b iha _ => exact Nat.lt_of_lt_of_le iha (Nat.le_add_right _ _)
  | alt | group => exact Nat.succ_pos _
  | iterate body least most =>
    cases most with
    | none =>
      rw [size]
      repeat' split
      all_goals exact Nat.succ_pos _
    | some most => exact Nat.succ_pos _

/-- The code of an expression is entered with no group of it open. -/
theorem openAt_zero (e : Expr) : e.openAt 0 = [] := by
  induction e with
  | empty | one | look => rfl
  | seq a b iha _ => rw [openAt, if_pos a.size_pos, iha]
  | alt | group => rfl
  | iterate body least most _ ih =>
    cases most with
    | none =>
      rw [openAt, Nat.zero_mod, ih]
      simp
    | some most =>
      rw [openAt, Nat.zero_mod, ih]
      simp

end Expr

/-! ### Code that agrees on the open groups -/

/-- The groups that are open at an instruction, `here`, and those that are open where it goes on. -/
def Instr.Agrees (scope : Nat → List Nat) (here : List Nat) : Instr → Prop
  | consume _ next => scope next = here
  | check _ next => scope next = here
  | save slot next =>
    (∀ index, slot = 2 * index → scope next = index :: here) ∧
      ∀ index, slot = 2 * index + 1 → here = index :: scope next
  | jump next => scope next = here
  | fork preferred other => scope preferred = here ∧ scope other = here
  | accept => here = []

/-- All instructions of the code that begins at an address agree on the open groups. -/
def Agree (scope : Nat → List Nat) : (base : Nat) → List Instr → Prop
  | _, [] => True
  | base, instr :: code => instr.Agrees scope (scope base) ∧ Agree scope (base + 1) code

section

variable {scope : Nat → List Nat} {base next : Nat} {outer : List Nat}

theorem agree_append {code code' : List Instr} : Agree scope base (code ++ code') ↔
    Agree scope base code ∧ Agree scope (base + code.length) code' := by
  induction code generalizing base with
  | nil => simp [Agree]
  | cons instr code ih =>
    rw [List.cons_append, Agree, Agree, ih, and_assoc, List.length_cons, Nat.add_assoc,
      Nat.add_comm 1]

theorem Agree.agrees {code : List Instr} (h : Agree scope base code) {k : Nat} {instr : Instr}
    (hk : code[k]? = some instr) : instr.Agrees scope (scope (base + k)) := by
  induction code generalizing base k with
  | nil => cases hk
  | cons first code ih =>
    cases k with
    | zero => cases hk; exact h.1
    | succ k =>
      have hrest := ih h.2 hk
      rwa [Nat.add_assoc, Nat.add_comm 1] at hrest

theorem length_flatMap_range {α : Type} {n size : Nat} {f : Nat → List α}
    (h : ∀ i, (f i).length = size) : ((List.range n).flatMap f).length = n * size := by
  induction n with
  | zero => simp
  | succ n ih =>
    rw [List.range_succ, List.flatMap_append, List.length_append, ih, List.flatMap_singleton, h,
      Nat.succ_mul]

/-- Copies of the same size agree if each of them does. -/
theorem agree_flatMap_range {n size : Nat} {f : Nat → List Instr}
    (hsize : ∀ i, (f i).length = size) (h : ∀ i < n, Agree scope (base + i * size) (f i)) :
    Agree scope base ((List.range n).flatMap f) := by
  induction n with
  | zero => trivial
  | succ n ih =>
    rw [List.range_succ, List.flatMap_append, agree_append, length_flatMap_range hsize,
      List.flatMap_singleton]
    exact ⟨ih fun i hi => h i (Nat.lt_succ_of_lt hi), h n (Nat.lt_succ_self n)⟩

theorem length_code (e : Expr) (base next : Nat) : (e.code base next).length = e.size := by
  induction e generalizing base next with
  | empty | one | look => rfl
  | seq a b iha ihb => rw [Expr.code, List.length_append, iha, ihb, Expr.size]
  | alt a b iha ihb =>
    rw [Expr.code, List.length_cons, List.length_append, iha, ihb, Expr.size]
  | group index name body ih =>
    rw [Expr.code, List.length_cons, List.length_append, ih, Expr.size, List.length_singleton]
  | iterate body least most greedy ih =>
    cases most with
    | none =>
      rw [Expr.code, Expr.size]
      split
      · split
        · rw [List.length_cons, ih]
        · rw [List.length_cons, List.length_append, ih, List.length_singleton]
      · rw [List.length_append, length_flatMap_range fun i => ih _ _, List.length_singleton]
    | some most =>
      have hcopy (f g : Nat → Nat) (instr : Nat → Instr) (i : Nat) :
          (instr i :: body.code (f i) (g i)).length = body.size + 1 := by
        rw [List.length_cons, ih]
      rw [Expr.code, Expr.size, List.length_append, List.length_append,
        length_flatMap_range fun i => ih _ _, length_flatMap_range (hcopy _ _ _),
        List.length_singleton]

theorem agrees_choice {greedy : Bool} {body exit : Nat} {here : List Nat}
    (hbody : scope body = here) (hexit : scope exit = here) :
    (Instr.choice greedy body exit).Agrees scope here := by
  cases greedy
  · exact ⟨hexit, hbody⟩
  · exact ⟨hbody, hexit⟩

/-- The groups of an expression are open at its code, within those around it. -/
def Covers (scope : Nat → List Nat) (base : Nat) (outer : List Nat) (e : Expr) : Prop :=
  ∀ k < e.size, scope (base + k) = e.openAt k ++ outer

theorem Covers.entry {e : Expr} (h : Covers scope base outer e) : scope base = outer := by
  have hzero := h 0 e.size_pos
  rwa [e.openAt_zero] at hzero

theorem copy_lt {i n k size : Nat} (hi : i < n) (hk : k < size) : i * size + k < n * size :=
  calc i * size + k < i * size + size := Nat.add_lt_add_left hk _
    _ = (i + 1) * size := (Nat.succ_mul i size).symm
    _ ≤ n * size := Nat.mul_le_mul_right size hi

theorem copy_mod {i k size : Nat} (hk : k < size) : (i * size + k) % size = k := by
  rw [Nat.mul_add_mod_self_right, Nat.mod_eq_of_lt hk]

/-- The code of the expression agrees on the open groups, wherever it stands, if it is entered and
    left with the same groups open. -/
def CodeAgrees (scope : Nat → List Nat) (e : Expr) : Prop :=
  ∀ {base next : Nat} {outer : List Nat}, Covers scope base outer e → scope next = outer →
    Agree scope base (e.code base next)

variable {a b body : Expr} {least : Nat} {greedy : Bool}

theorem codeAgrees_seq (ha : CodeAgrees scope a) (hb : CodeAgrees scope b) :
    CodeAgrees scope (.seq a b) := by
  intro base next outer h hnext
  have hcovers : Covers scope base outer a := fun k hk => by
    rw [h k (Nat.lt_add_right _ hk), Expr.openAt, if_pos hk]
  have hcovers' : Covers scope (base + a.size) outer b := fun k hk => by
    rw [Nat.add_assoc, h (a.size + k) (Nat.add_lt_add_left hk _), Expr.openAt,
      if_neg (by omega), Nat.add_sub_cancel_left]
  rw [Expr.code, agree_append, length_code]
  exact ⟨ha hcovers hcovers'.entry, hb hcovers' hnext⟩

theorem codeAgrees_alt (ha : CodeAgrees scope a) (hb : CodeAgrees scope b) :
    CodeAgrees scope (.alt a b) := by
  intro base next outer h hnext
  have hcovers : Covers scope (base + 1) outer a := fun k hk => by
    rw [Nat.add_assoc, h (1 + k) (by rw [Expr.size]; omega), Expr.openAt, if_neg (by omega),
      Nat.add_sub_cancel_left, if_pos hk]
  have hcovers' : Covers scope (base + 1 + a.size) outer b := fun k hk => by
    rw [Nat.add_assoc, Nat.add_assoc, h (1 + (a.size + k)) (by rw [Expr.size]; omega),
      Expr.openAt, if_neg (by omega), Nat.add_sub_cancel_left, if_neg (by omega),
      Nat.add_sub_cancel_left]
  rw [Expr.code, Agree, agree_append, length_code, h.entry]
  exact ⟨⟨hcovers.entry, hcovers'.entry⟩, ha hcovers hnext, hb hcovers' hnext⟩

/-- Between its marks, the group is open. -/
theorem codeAgrees_group (hbody : CodeAgrees scope body) (index : Nat) (name : Option String) :
    CodeAgrees scope (.group index name body) := by
  intro base next outer h hnext
  have hcovers : Covers scope (base + 1) (index :: outer) body := fun k hk => by
    rw [Nat.add_assoc, h (1 + k) (by rw [Expr.size]; omega), Expr.openAt, if_neg (by omega),
      Nat.add_sub_cancel_left, if_pos hk, List.append_assoc]
    rfl
  have hclose : scope (base + 1 + body.size) = index :: outer := by
    rw [Nat.add_assoc, h (1 + body.size) (by rw [Expr.size]; omega), Expr.openAt,
      if_neg (by omega), Nat.add_sub_cancel_left, if_neg (Nat.lt_irrefl _)]
    rfl
  rw [Expr.code, Agree, agree_append, length_code, h.entry]
  refine ⟨⟨fun i hi => ?_, fun i hi => by omega⟩, hbody hcovers hclose, ⟨fun i hi => by omega,
    fun i hi => ?_⟩, trivial⟩
  · obtain rfl : index = i := by omega
    exact hcovers.entry
  · obtain rfl : index = i := by omega
    rw [hclose, hnext]

/-- Copies of a body, each of which goes on at the next, are all left with the groups open that the
    first is entered with. -/
theorem agree_copies {n : Nat} (hbody : CodeAgrees scope body)
    (hcopy : ∀ i < n, Covers scope (base + i * body.size) outer body)
    (hend : scope (base + n * body.size) = outer) :
    Agree scope base ((List.range n).flatMap fun i =>
      body.code (base + i * body.size) (base + (i + 1) * body.size)) := by
  refine agree_flatMap_range (fun i => length_code _ _ _) fun i hi => hbody (hcopy i hi) ?_
  obtain rfl | hlt := Nat.eq_or_lt_of_le (Nat.succ_le_of_lt hi)
  · exact hend
  · exact (hcopy (i + 1) hlt).entry

/-- A body that may be left out and repeated at will: it is entered from a choice and goes back to
    one. -/
theorem codeAgrees_star (hbody : CodeAgrees scope body) (greedy : Bool) :
    CodeAgrees scope (.iterate body 0 none greedy) := by
  intro base next outer h hnext
  have hsize : body.size + 1 ≤ (Expr.iterate body 0 none greedy).size := by
    rw [Expr.size, if_pos rfl]
    split <;> omega
  have hcovers : Covers scope (base + 1) outer body := fun k hk => by
    rw [Nat.add_assoc, h (1 + k) (by omega), Expr.openAt, if_pos rfl, if_pos (by omega),
      Nat.add_sub_cancel_left]
  rw [Expr.code, if_pos rfl]
  split
  next =>
    rw [Agree, h.entry]
    exact ⟨agrees_choice hcovers.entry hnext, hbody hcovers h.entry⟩
  next hconsumes =>
    have hend : scope (base + 1 + body.size) = outer := by
      rw [Nat.add_assoc, h (1 + body.size)
        (by rw [Expr.size, if_pos rfl, if_neg hconsumes]; omega), Expr.openAt, if_pos rfl,
        if_neg (by omega)]
      rfl
    rw [Agree, agree_append, length_code, h.entry, Agree, hend]
    exact ⟨agrees_choice hcovers.entry hnext, hbody hcovers hend,
      agrees_choice hcovers.entry hnext, trivial⟩

/-- Copies of a body, the last of which may be repeated. -/
theorem codeAgrees_atLeast (hbody : CodeAgrees scope body) (hleast : least ≠ 0) (greedy : Bool) :
    CodeAgrees scope (.iterate body least none greedy) := by
  intro base next outer h hnext
  have hsize : (Expr.iterate body least none greedy).size = least * body.size + 1 := by
    rw [Expr.size, if_neg hleast]
  have hcopy : ∀ i < least, Covers scope (base + i * body.size) outer body := fun i hi k hk => by
    have hlt := copy_lt hi hk
    rw [Nat.add_assoc, h _ (by omega), Expr.openAt, if_neg hleast, if_pos hlt, copy_mod hk]
  have hend : scope (base + least * body.size) = outer := by
    rw [h _ (by omega), Expr.openAt, if_neg hleast, if_neg (Nat.lt_irrefl _)]
    rfl
  rw [Expr.code, if_neg hleast, agree_append, length_flatMap_range fun i => length_code _ _ _,
    Agree, hend]
  exact ⟨agree_copies hbody hcopy hend,
    agrees_choice (hcopy (least - 1) (by omega)).entry hnext, trivial⟩

/-- Copies of a body and, behind them, blocks that may be left out. A block is a choice and, one
    address further on, the body. -/
theorem codeAgrees_between (hbody : CodeAgrees scope body) (least most : Nat) (greedy : Bool) :
    CodeAgrees scope (.iterate body least (some most) greedy) := by
  intro base next outer h hnext
  have hsize : (Expr.iterate body least (some most) greedy).size =
      least * body.size + (most - least) * (body.size + 1) + 1 := rfl
  have hcopy : ∀ i < least, Covers scope (base + i * body.size) outer body := fun i hi k hk => by
    have hlt := copy_lt hi hk
    rw [Nat.add_assoc, h _ (by omega), Expr.openAt, if_pos hlt, copy_mod hk]
  have hblock : ∀ i ≤ most - least,
      scope (base + least * body.size + i * (body.size + 1)) = outer := fun i hi => by
    have hle := Nat.mul_le_mul_right (body.size + 1) hi
    rw [Nat.add_assoc, h _ (by omega), Expr.openAt, if_neg (by omega), Nat.add_sub_cancel_left,
      Nat.mul_mod_left, if_neg (by omega)]
    rfl
  have hcovers : ∀ i < most - least,
      Covers scope (base + least * body.size + i * (body.size + 1) + 1) outer body :=
    fun i hi k hk => by
      have hk : 1 + k < body.size + 1 := by omega
      have hlt := copy_lt hi hk
      rw [Nat.add_assoc, Nat.add_assoc, Nat.add_assoc, h _ (by omega), Expr.openAt,
        if_neg (by omega), Nat.add_sub_cancel_left, copy_mod hk, if_pos (by omega),
        Nat.add_sub_cancel_left]
  have hend : scope (base + least * body.size) = outer := by
    simpa using hblock 0 (Nat.zero_le _)
  have hafter : ∀ i < most - least,
      scope (base + least * body.size + i * (body.size + 1) + 1 + body.size) = outer :=
    fun i hi => by
      rw [← hblock (i + 1) hi, Nat.succ_mul]
      congr 1
      omega
  have hlength (i : Nat) : (Instr.choice greedy
      (base + least * body.size + i * (body.size + 1) + 1)
      (base + least * body.size + (most - least) * (body.size + 1)) ::
      body.code (base + least * body.size + i * (body.size + 1) + 1)
        (base + least * body.size + i * (body.size + 1) + 1 + body.size)).length =
      body.size + 1 := by
    rw [List.length_cons, length_code]
  rw [Expr.code, agree_append, agree_append, List.length_append,
    length_flatMap_range fun i => length_code _ _ _, length_flatMap_range hlength, Agree,
    ← Nat.add_assoc, hblock _ (Nat.le_refl _)]
  refine ⟨⟨agree_copies hbody hcopy hend, agree_flatMap_range hlength fun i hi => ?_⟩, hnext,
    trivial⟩
  rw [Agree, hblock i (Nat.le_of_lt hi)]
  exact ⟨agrees_choice (hcovers i hi).entry (hblock _ (Nat.le_refl _)),
    hbody (hcovers i hi) (hafter i hi)⟩

theorem agree_code (e : Expr) : CodeAgrees scope e := by
  induction e with
  | empty | one | look =>
    intro base next outer h hnext
    exact ⟨by rw [h.entry]; exact hnext, trivial⟩
  | seq a b iha ihb => exact codeAgrees_seq iha ihb
  | alt a b iha ihb => exact codeAgrees_alt iha ihb
  | group index name body ih => exact codeAgrees_group ih index name
  | iterate body least most greedy ih =>
    cases most with
    | none =>
      obtain rfl | hleast := eq_or_ne least 0
      · exact codeAgrees_star ih greedy
      · exact codeAgrees_atLeast ih hleast greedy
    | some most => exact codeAgrees_between ih least most greedy

/-- The groups that are open at an instruction of the program of an expression. -/
def Expr.openIn (e : Expr) (pc : Nat) : List Nat := if pc < e.size then e.openAt pc else []

theorem Expr.openIn_zero (e : Expr) : e.openIn 0 = [] := by
  rw [openIn, if_pos e.size_pos, e.openAt_zero]

/-- A program agrees on the open groups, and none is open where it accepts. -/
theorem agrees_program {e : Expr} {pc : Nat} {instr : Instr} (h : e.program[pc]? = some instr) :
    instr.Agrees e.openIn (e.openIn pc) := by
  have hend : e.openIn e.size = [] := if_neg (Nat.lt_irrefl _)
  have hcovers : Covers e.openIn 0 [] e := fun k hk => by
    rw [Nat.zero_add, Expr.openIn, if_pos hk, List.append_nil]
  have hagree : Agree e.openIn 0 (e.code 0 e.size ++ [Instr.accept]) := by
    rw [agree_append, length_code, Nat.zero_add]
    exact ⟨agree_code e hcovers hend, hend, trivial⟩
  rw [Expr.program, List.getElem?_toArray] at h
  have hagrees := hagree.agrees h
  rwa [Nat.zero_add] at hagrees

end

/-! ### The marks of a thread -/

/-- The latest mark in a slot. -/
def lastMark (marks : List (Nat × Nat)) (slot : Nat) : Option Nat :=
  (marks.find? fun m => m.1 == slot).map Prod.snd

theorem lastMark_cons_self {marks : List (Nat × Nat)} {slot pos : Nat} :
    lastMark ((slot, pos) :: marks) slot = some pos := by
  simp [lastMark]

theorem lastMark_cons_of_ne {marks : List (Nat × Nat)} {slot slot' pos : Nat} (h : slot ≠ slot') :
    lastMark ((slot, pos) :: marks) slot' = lastMark marks slot' := by
  simp [lastMark, h]

/-- Every open group has begun, and none of the others has its end before its beginning. -/
structure WellMarked (opened : List Nat) (t : Thread) : Prop where
  began : ∀ index ∈ opened, ∃ start, lastMark t.marks (2 * index) = some start ∧ start ≤ t.pos
  ordered : ∀ index, index ∉ opened → ∀ start stop, lastMark t.marks (2 * index) = some start →
    lastMark t.marks (2 * index + 1) = some stop → start ≤ stop

namespace WellMarked

variable {scope : Nat → List Nat} {opened : List Nat} {program : Program} {text : Array Char}
  {t t' : Thread}

/-- At the start there are no marks. -/
theorem start (pos : Nat) : WellMarked [] { pc := 0, pos } where
  began _ h := nomatch h
  ordered _ _ _ _ h := nomatch h

theorem of_le (h : WellMarked opened t) (hmarks : t'.marks = t.marks) (hpos : t.pos ≤ t'.pos) :
    WellMarked opened t' where
  began index hi := by
    obtain ⟨start, hstart, hle⟩ := h.began index hi
    exact ⟨start, hmarks ▸ hstart, Nat.le_trans hle hpos⟩
  ordered := hmarks ▸ h.ordered

/-- The group begins. -/
theorem opening (h : WellMarked opened t) {index next : Nat} :
    WellMarked (index :: opened)
      { t with pc := next, marks := (2 * index, t.pos) :: t.marks } where
  began i hi := by
    obtain rfl | hne := eq_or_ne i index
    · exact ⟨t.pos, lastMark_cons_self, Nat.le_refl _⟩
    · obtain ⟨start, hstart, hle⟩ := h.began i (List.mem_of_ne_of_mem hne hi)
      exact ⟨start, (lastMark_cons_of_ne (by omega)).trans hstart, hle⟩
  ordered i hi start stop hstart hstop := by
    obtain ⟨hne, hi⟩ := not_or.1 (mt List.mem_cons.2 hi)
    rw [lastMark_cons_of_ne (by omega)] at hstart hstop
    exact h.ordered i hi start stop hstart hstop

/-- The group ends where the thread stands, and so not before its beginning. -/
theorem closing {index next : Nat} (h : WellMarked (index :: opened) t) :
    WellMarked opened { t with pc := next, marks := (2 * index + 1, t.pos) :: t.marks } where
  began i hi := by
    obtain ⟨start, hstart, hle⟩ := h.began i (List.mem_cons_of_mem _ hi)
    exact ⟨start, (lastMark_cons_of_ne (by omega)).trans hstart, hle⟩
  ordered i hi start stop hstart hstop := by
    rw [lastMark_cons_of_ne (by omega)] at hstart
    obtain rfl | hne := eq_or_ne i index
    · rw [lastMark_cons_self] at hstop
      obtain ⟨start', hstart', hle⟩ := h.began i List.mem_cons_self
      rw [hstart, Option.some.injEq] at hstart'
      rw [Option.some.injEq] at hstop
      omega
    · rw [lastMark_cons_of_ne (by omega)] at hstop
      exact h.ordered i (mt List.mem_cons.1 (not_or.2 ⟨hne, hi⟩)) start stop hstart hstop

/-- An instruction that agrees on the open groups keeps the marks as they have to be. -/
theorem step {instr : Instr} (h : WellMarked opened t) (ha : instr.Agrees scope opened)
    (hm : t' ∈ t.step text instr) : WellMarked (scope t'.pc) t' := by
  cases instr with
  | save slot next =>
    cases List.mem_singleton.1 hm
    obtain ⟨index, rfl | rfl⟩ := Nat.even_or_odd' slot
    · rw [ha.1 index rfl]
      exact h.opening
    · rw [ha.2 index rfl] at h
      exact h.closing
  | consume set next =>
    rw [Thread.step] at hm
    split at hm
    · split at hm
      · cases List.mem_singleton.1 hm
        rw [show scope next = opened from ha]
        exact h.of_le rfl (Nat.le_succ _)
      · cases hm
    · cases hm
  | check look next =>
    rw [Thread.step] at hm
    split at hm
    · cases List.mem_singleton.1 hm
      rw [show scope next = opened from ha]
      exact h.of_le rfl (Nat.le_refl _)
    · cases hm
  | jump next =>
    cases List.mem_singleton.1 hm
    rw [show scope next = opened from ha]
    exact h.of_le rfl (Nat.le_refl _)
  | fork preferred other =>
    rcases List.mem_cons.1 hm with rfl | hm
    · rw [ha.1]
      exact h.of_le rfl (Nat.le_refl _)
    · cases List.mem_singleton.1 hm
      rw [ha.2]
      exact h.of_le rfl (Nat.le_refl _)
  | accept => cases hm

/-- Wherever a thread comes, its marks are as the open groups have it. -/
theorem leads {e : Expr} (h : WellMarked (e.openIn t.pc) t) (hl : Leads e.program text t t') :
    WellMarked (e.openIn t'.pc) t' := by
  induction hl with
  | refl => exact h
  | tail _ hmove ih =>
    obtain ⟨instr, hinstr, hstep⟩ := hmove
    exact ih.step (agrees_program hinstr) hstep

end WellMarked

/-! ### The groups of a match -/

section

variable {program : Program} {text : Array Char}

/-- A thread came from the start of the match to its end, and set its marks. -/
def Found.Reached (program : Program) (text : Array Char) (found : Found) : Prop :=
  ∃ t, Leads program text { pc := 0, pos := found.start } t ∧ Accepts program t ∧
    t.pos = found.stop ∧ t.marks = found.marks

theorem reached_of_tryPositions {count start : Nat} {v : Visited} {found : Found}
    (h : tryPositions program text count start v = some found) : found.Reached program text := by
  induction count generalizing start v with
  | zero => cases h
  | succ count ih =>
    rw [tryPositions] at h
    split at h
    next t _ hexplore =>
      cases h
      obtain ⟨⟨u, hu, hl⟩, ha⟩ := leads_of_explore hexplore
      cases List.mem_singleton.1 hu
      exact ⟨t, hl, ha, rfl, rfl⟩
    next => exact ih h

theorem reached_of_mem_matchesFrom {bound start : Nat} {last : Option Nat} {found : Found}
    (h : found ∈ matchesFrom program text bound start last) : found.Reached program text := by
  obtain ⟨_, hsearch⟩ := exists_searchFrom_of_mem h
  exact reached_of_tryPositions hsearch

theorem Found.Reached.ordered {e : Expr} {found : Found} (h : found.Reached e.program text)
    {index start stop : Nat} (hstart : lastMark found.marks (2 * index) = some start)
    (hstop : lastMark found.marks (2 * index + 1) = some stop) : start ≤ stop := by
  obtain ⟨t, hl, ha, -, hmarks⟩ := h
  have hmarked : WellMarked (e.openIn t.pc) t :=
    WellMarked.leads (by rw [e.openIn_zero]; exact .start found.start) hl
  rw [show e.openIn t.pc = [] from agrees_program ha] at hmarked
  exact hmarked.ordered index List.not_mem_nil start stop (hmarks ▸ hstart) (hmarks ▸ hstop)

end

/-- A pattern is compiled from an expression. -/
theorem exists_expr_of_compile {flags : Flags} {limit : Option Nat} {source : String}
    {p : Pattern} (h : compile flags limit source = .ok p) :
    ∃ e : Expr, p.program = e.program ∧ p.groupNames = e.groupNames := by
  rw [compile] at h
  split at h
  next => cases h
  next e _ =>
    split at h
    · cases h
    · cases h
      exact ⟨e, rfl, rfl⟩

/-- Every group that takes part in a match of a compiled pattern covers whole characters. -/
theorem fits_of_mem_groups {flags : Flags} {limit : Option Nat} {source : String} {p : Pattern}
    (hp : compile flags limit source = .ok p) {s : String} {m : Match} (hm : m ∈ p.findAll s)
    {r : ByteRange} (hr : some r ∈ m.groups) : r.fits s = true := by
  obtain ⟨e, he, -⟩ := exists_expr_of_compile hp
  have hrange : m.range.fits s = true := fits_of_mem_findAll hm
  obtain ⟨found, hfound, rfl⟩ := List.mem_map.1 hm
  have hreached : found.Reached e.program s.toList.toArray :=
    reached_of_mem_matchesFrom (he ▸ hfound)
  obtain ⟨index, -, hindex⟩ := List.mem_map.1 hr
  split at hindex
  next => cases hindex; exact hrange
  next =>
    obtain ⟨start, hstart, hrest⟩ := Option.bind_eq_some_iff.1 hindex
    obtain ⟨stop, hstop, hpair⟩ := Option.bind_eq_some_iff.1 hrest
    cases hpair
    exact fits_byteRange s (hreached.ordered hstart hstop)

end ScriptKeeper.Pattern
