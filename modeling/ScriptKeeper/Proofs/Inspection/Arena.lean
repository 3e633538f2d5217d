import Mathlib.Data.List.Nodup
import Mathlib.Tactic.Common
import ScriptKeeper.Inspection.Arena

/-!
# An arena is a list of segments

The slots of an arena follow each other like the members of a list (`Linked`): every slot is in
the list once, and its neighbours are those of the list. An insertion puts the new slot between two
neighbours in the list (`Linked.insertBetween`). That the links lead through the list and come to an
end is said without a bound on the steps (`Walk`), so the list can be read off the arena from either
end (`Linked.order_eq`, `Linked.precedingSlots_eq`).
-/

namespace ScriptKeeper.Inspection.Arena

variable {a : Arena} {l l₁ l₂ : List Nat}

/-- Only the slots of the arena have segments. -/
theorem lt_size_of_get? {slot : Nat} {g : Segment} (h : a.get? slot = some g) : slot < a.size := by
  by_contra hge
  rw [get?, Array.getElem?_eq_none (Nat.not_lt.1 hge)] at h
  cases h

/-! ### Slots after an operation -/

@[simp] theorem get?_setText (a : Arena) (slot x : Nat) (text : String) :
    (a.setText slot text).get? x =
      if slot = x then (a.get? x).map fun s => { s with text } else a.get? x := by
  rw [get?, setText, Array.getElem?_modify]
  split <;> simp [get?, Function.comp_def]

@[simp] theorem previous?_setText (a : Arena) (slot x : Nat) (text : String) :
    (a.setText slot text).previous? x = a.previous? x := by
  rw [previous?, setText, Array.getElem?_modify, previous?]
  split <;> cases a.slots[x]? <;> rfl

@[simp] theorem next?_setText (a : Arena) (slot x : Nat) (text : String) :
    (a.setText slot text).next? x = a.next? x := by
  rw [next?, setText, Array.getElem?_modify, next?]
  split <;> cases a.slots[x]? <;> rfl

@[simp] theorem get?_linkAfter (a : Arena) (slot : Option Nat) (after x : Nat) :
    (a.linkAfter slot after).get? x = a.get? x := by
  cases slot with
  | none => rfl
  | some slot =>
    rw [get?, linkAfter, Array.getElem?_modify, get?]
    split <;> cases a.slots[x]? <;> rfl

@[simp] theorem get?_linkBefore (a : Arena) (slot : Option Nat) (before x : Nat) :
    (a.linkBefore slot before).get? x = a.get? x := by
  cases slot with
  | none => rfl
  | some slot =>
    rw [get?, linkBefore, Array.getElem?_modify, get?]
    split <;> cases a.slots[x]? <;> rfl

/-- The new slot has the new segment, and all others keep theirs. -/
theorem get?_insertBetween (a : Arena) (previous next : Option Nat) (segment : Segment)
    (x : Nat) : (a.insertBetween previous next segment).2.get? x =
      if x = a.size then some segment else a.get? x := by
  rw [insertBetween]
  dsimp only
  rw [get?_linkBefore, get?_linkAfter, get?, Array.getElem?_push, size]
  split <;> rfl

/-- The new slot comes behind `previous`, and in front of `next`. -/
theorem previous?_insertBetween (a : Arena) {previous next : Option Nat} (segment : Segment)
    (hn : ∀ x, next = some x → x < a.size) (x : Nat) :
    (a.insertBetween previous next segment).2.previous? x =
      if x = a.size then previous else if next = some x then some a.size else a.previous? x := by
  rw [insertBetween]
  cases next <;> cases previous <;> grind [previous?, linkAfter, linkBefore, size]

theorem next?_insertBetween (a : Arena) {previous next : Option Nat} (segment : Segment)
    (hp : ∀ x, previous = some x → x < a.size) (x : Nat) :
    (a.insertBetween previous next segment).2.next? x =
      if x = a.size then next else if previous = some x then some a.size else a.next? x := by
  rw [insertBetween]
  cases next <;> cases previous <;> grind [next?, linkAfter, linkBefore, size]

theorem first_insertBetween (a : Arena) (previous next : Option Nat) (segment : Segment) :
    (a.insertBetween previous next segment).2.first =
      if previous = none then some a.size else a.first := by
  rw [insertBetween]
  cases next <;> cases previous <;> rfl

theorem last_insertBetween (a : Arena) (previous next : Option Nat) (segment : Segment) :
    (a.insertBetween previous next segment).2.last =
      if next = none then some a.size else a.last := by
  rw [insertBetween]
  cases next <;> cases previous <;> rfl

/-! ### Walks -/

/-- Step by step, `step` leads from a slot on through the slots of the list, and then nowhere. -/
inductive Walk (step : Nat → Option Nat) : Option Nat → List Nat → Prop
  | done : Walk step none []
  | visit {slot : Nat} {l : List Nat} : Walk step (step slot) l → Walk step (some slot) (slot :: l)

/-- A list whose members lead to each other in turn is walked through. -/
theorem walk_of_steps {step : Nat → Option Nat}
    (hstep : ∀ {l₁ x l₂}, l = l₁ ++ x :: l₂ → step x = l₂.head?) : Walk step l.head? l := by
  induction l with
  | nil => exact .done
  | cons x l ih =>
    have hrest {l₁ y l₂} (hl : l = l₁ ++ y :: l₂) : step y = l₂.head? := by
      have hcons : x :: l = (x :: l₁) ++ y :: l₂ := by rw [hl]; rfl
      exact hstep hcons
    have hx := hstep (List.nil_append (x :: l)).symm
    exact .visit (hx ▸ ih hrest)

/-- A bound that is not shorter than the walk does not cut it off. -/
theorem Walk.chain_eq {step : Nat → Option Nat} {start : Option Nat} (h : Walk step start l)
    {bound : Nat} (hbound : l.length ≤ bound) : chain step bound start = l := by
  induction h generalizing bound with
  | done => cases bound <;> rfl
  | visit _ ih =>
    cases bound with
    | zero => cases hbound
    | succ bound => rw [chain, ih (Nat.le_of_succ_le_succ hbound)]

/-! ### The list of an arena -/

/-- The slots of the arena are those of the list, and each knows its neighbours there. -/
structure Linked (a : Arena) (l : List Nat) : Prop where
  perm : l.Perm (List.range a.size)
  first : a.first = l.head?
  last : a.last = l.getLast?
  previous : ∀ {l₁ x l₂}, l = l₁ ++ x :: l₂ → a.previous? x = l₁.getLast?
  next : ∀ {l₁ x l₂}, l = l₁ ++ x :: l₂ → a.next? x = l₂.head?

namespace Linked

theorem nodup (h : a.Linked l) : l.Nodup := h.perm.nodup_iff.2 List.nodup_range

theorem mem_iff (h : a.Linked l) {x : Nat} : x ∈ l ↔ x < a.size := by
  rw [h.perm.mem_iff, List.mem_range]

theorem length_eq (h : a.Linked l) : l.length = a.size := by
  rw [h.perm.length_eq, List.length_range]

theorem empty : Arena.empty.Linked [] where
  perm := .refl _
  first := rfl
  last := rfl
  previous h := by simp at h
  next h := by simp at h

/-- Another text in a slot leaves the list as it is. -/
theorem setText (h : a.Linked l) (slot : Nat) (text : String) :
    (a.setText slot text).Linked l where
  perm := by rw [size_setText]; exact h.perm
  first := h.first
  last := h.last
  previous hl := by rw [previous?_setText, h.previous hl]
  next hl := by rw [next?_setText, h.next hl]

/-- Where a member stands in a list that has one more member. -/
theorem append_cons_cases {m₁ m₂ : List Nat} {x y : Nat} (h : l₁ ++ y :: l₂ = m₁ ++ x :: m₂) :
    (m₁ = l₁ ∧ x = y ∧ m₂ = l₂) ∨ (∃ d, l₂ = d ++ x :: m₂ ∧ m₁ = l₁ ++ y :: d) ∨
      ∃ d, l₁ = m₁ ++ x :: d ∧ m₂ = d ++ y :: l₂ := by
  rcases List.append_eq_append_iff.1 h with ⟨d, hm, hl⟩ | ⟨d, hl, hm⟩
  · cases d with
    | nil => cases hl; exact .inl ⟨by simpa using hm, rfl, rfl⟩
    | cons z d => cases hl; exact .inr (.inl ⟨d, rfl, hm⟩)
  · cases d with
    | nil => cases hm; exact .inl ⟨by simpa using hl.symm, rfl, rfl⟩
    | cons z d => cases hm; exact .inr (.inr ⟨d, hl, rfl⟩)

/-- An insertion between two neighbours puts the new slot between them in the list. -/
theorem insertBetween (h : a.Linked (l₁ ++ l₂)) (segment : Segment) :
    (a.insertBetween l₁.getLast? l₂.head? segment).2.Linked (l₁ ++ a.size :: l₂) := by
  have hnew : a.size ∉ l₁ ++ l₂ := fun hmem => Nat.lt_irrefl _ (h.mem_iff.1 hmem)
  have hlast : ∀ x, l₁.getLast? = some x → x < a.size := fun x hx =>
    h.mem_iff.1 (List.mem_append_left _ (List.mem_of_getLast? hx))
  have hhead : ∀ x, l₂.head? = some x → x < a.size := fun x hx =>
    h.mem_iff.1 (List.mem_append_right _ (List.mem_of_head? hx))
  refine ⟨?_, ?_, ?_, fun {m₁ x m₂} hl => ?_, fun {m₁ x m₂} hl => ?_⟩
  · rw [size_insertBetween, List.range_succ]
    exact List.perm_middle.trans ((h.perm.cons _).trans (List.perm_append_singleton _ _).symm)
  · rw [first_insertBetween, h.first]
    cases l₁ <;> simp
  · rw [last_insertBetween, h.last]
    cases l₂ <;> simp
  · rw [previous?_insertBetween a segment hhead]
    rcases append_cons_cases hl with ⟨rfl, rfl, rfl⟩ | ⟨d, rfl, rfl⟩ | ⟨d, rfl, rfl⟩
    · rw [if_pos rfl]
    · -- A slot behind the new one: the new slot comes before it only if it was the first of `l₂`.
      have hx : x ≠ a.size := by rintro rfl; exact hnew (by simp)
      have hold := h.previous (List.append_assoc l₁ d (x :: m₂)).symm
      cases d with
      | nil => simp [hx]
      | cons z d =>
        have hz : z ≠ x := by have := h.nodup; grind
        simp [hx, hz, hold]
    · have hx : x ≠ a.size := by rintro rfl; exact hnew (by simp)
      have hx₂ : l₂.head? ≠ some x := fun hx₂ => by
        have := h.nodup
        have := List.mem_of_head? hx₂
        grind
      rw [if_neg hx, if_neg hx₂]
      exact h.previous (List.append_assoc m₁ (x :: d) l₂)
  · rw [next?_insertBetween a segment hlast]
    rcases append_cons_cases hl with ⟨rfl, rfl, rfl⟩ | ⟨d, rfl, rfl⟩ | ⟨d, rfl, rfl⟩
    · rw [if_pos rfl]
    · have hx : x ≠ a.size := by rintro rfl; exact hnew (by simp)
      have hx₁ : l₁.getLast? ≠ some x := fun hx₁ => by
        have := h.nodup
        have := List.mem_of_getLast? hx₁
        grind
      rw [if_neg hx, if_neg hx₁]
      exact h.next (List.append_assoc l₁ d (x :: m₂)).symm
    · -- A slot before the new one: the new slot comes after it only if it was the last of `l₁`.
      have hx : x ≠ a.size := by rintro rfl; exact hnew (by simp)
      have hold := h.next (List.append_assoc m₁ (x :: d) l₂)
      cases d with
      | nil => simp [hx]
      | cons z d =>
        have hlast : (m₁ ++ x :: z :: d).getLast? ≠ some x := fun hlast => by
          rw [List.getLast?_append_cons, List.getLast?_cons_cons] at hlast
          have := h.nodup
          have := List.mem_of_getLast? hlast
          grind
        rw [if_neg hx, if_neg hlast, hold]
        rfl

/-- Where a slot stands in the list, and what it knows of its neighbours. -/
theorem split (h : a.Linked l) {slot : Nat} (hs : slot < a.size) :
    ∃ l₁ l₂ segment, l = l₁ ++ slot :: l₂ ∧
      a.slots[slot]? = some ⟨segment, l₁.getLast?, l₂.head?⟩ ∧ slot ∉ l₁ ∧ slot ∉ l₂ := by
  obtain ⟨l₁, l₂, hl⟩ := List.append_of_mem (h.mem_iff.2 hs)
  have hslot : a.slots[slot]? = some a.slots[slot] := Array.getElem?_eq_getElem hs
  have hprevious := h.previous hl
  have hnext := h.next hl
  rw [previous?, hslot, Option.bind_some] at hprevious
  rw [next?, hslot, Option.bind_some] at hnext
  have hnodup := h.nodup
  rw [hl, List.nodup_append] at hnodup
  refine ⟨l₁, l₂, a.slots[slot].segment, hl, ?_, fun hmem => ?_, ?_⟩
  · rw [hslot, ← hprevious, ← hnext]
  · exact hnodup.2.2 slot hmem slot List.mem_cons_self rfl
  · exact (List.nodup_cons.1 hnodup.2.1).1

/-- From the first slot on, the links lead through the list. -/
theorem walk (h : a.Linked l) : Walk a.next? a.first l := by
  rw [h.first]
  exact walk_of_steps h.next

/-- Back from a slot, the links lead through the list before it, reversed. -/
theorem walkBack {x : Nat} (h : a.Linked (l₁ ++ x :: l₂)) :
    Walk a.previous? (a.previous? x) l₁.reverse := by
  rw [h.previous rfl, ← List.head?_reverse]
  refine walk_of_steps fun {m₁ y m₂} hl => ?_
  have hsplit : l₁ ++ x :: l₂ = m₂.reverse ++ y :: (m₁.reverse ++ x :: l₂) := by
    rw [← List.reverse_reverse l₁, hl]
    simp
  rw [h.previous hsplit, List.getLast?_reverse]

/-- Followed from the first slot on, the arena is its list. -/
theorem order_eq (h : a.Linked l) : a.order = l :=
  h.walk.chain_eq (Nat.le_of_eq h.length_eq)

/-- Followed back from a slot, the arena is the list before that slot, reversed. -/
theorem precedingSlots_eq {x : Nat} (h : a.Linked (l₁ ++ x :: l₂)) :
    a.precedingSlots x = l₁.reverse := by
  refine h.walkBack.chain_eq ?_
  rw [List.length_reverse, ← h.length_eq]
  simp

end Linked

end ScriptKeeper.Inspection.Arena
