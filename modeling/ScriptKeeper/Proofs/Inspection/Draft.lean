import Mathlib.Tactic.Common
import ScriptKeeper.Proofs.Inspection.Arena
import ScriptKeeper.Proofs.Inspection.Operation

/-!
# Drafts

A draft is what an editor would keep of a decomposition: a plain list of texts under their handles.
An edit changes the text under a handle, or puts a new text directly before or after one, or at an
end (`Edit.onDraft`). Lists of that kind are edited in the same way whatever the keys are, so what
an edit does to the slots of an arena (`Arena.WellLinked.insertBefore` and the like) carries over to
the handles of its session (`map_change`, `map_replaceAt`).
-/

namespace ScriptKeeper.Inspection

section

variable {κ α κ' α' : Type} [DecidableEq κ] [DecidableEq κ']

/-- The list with what is stored under a key changed. -/
def change (key : κ) (f : α → α) (l : List (κ × α)) : List (κ × α) :=
  l.map fun x => if x.1 = key then (x.1, f x.2) else x

/-- The list with other members in the place of what is stored under a key. -/
def replaceAt (key : κ) (f : κ × α → List (κ × α)) (l : List (κ × α)) : List (κ × α) :=
  l.flatMap fun x => if x.1 = key then f x else [x]

/-- The list with a new member directly before what is stored under a key. -/
def putBefore (key : κ) (new : κ × α) : List (κ × α) → List (κ × α) :=
  replaceAt key fun x => [new, x]

/-- The list with a new member directly after what is stored under a key. -/
def putAfter (key : κ) (new : κ × α) : List (κ × α) → List (κ × α) :=
  replaceAt key fun x => [x, new]

theorem replaceAt_of_not_mem {key : κ} {l : List (κ × α)} (h : key ∉ l.map Prod.fst)
    (f : κ × α → List (κ × α)) : replaceAt key f l = l := by
  induction l with
  | nil => rfl
  | cons x l ih =>
    rw [List.map_cons, List.mem_cons, not_or] at h
    rw [replaceAt, List.flatMap_cons, if_neg (Ne.symm h.1), ← replaceAt, ih h.2]
    rfl

/-- A key that is stored once is replaced there only. -/
theorem replaceAt_append_cons {key : κ} {a : α} {l₁ l₂ : List (κ × α)}
    (h₁ : key ∉ l₁.map Prod.fst) (h₂ : key ∉ l₂.map Prod.fst) (f : κ × α → List (κ × α)) :
    replaceAt key f (l₁ ++ (key, a) :: l₂) = l₁ ++ f (key, a) ++ l₂ := by
  rw [replaceAt, List.flatMap_append, List.flatMap_cons, if_pos rfl, ← replaceAt, ← replaceAt,
    replaceAt_of_not_mem h₁, replaceAt_of_not_mem h₂, List.append_assoc]

theorem change_of_not_mem {key : κ} {l : List (κ × α)} (h : key ∉ l.map Prod.fst) (f : α → α) :
    change key f l = l := by
  refine (List.map_congr_left fun x hx => ?_).trans (List.map_id _)
  have hne : x.1 ≠ key := fun heq => h (by rw [← heq]; exact List.mem_map_of_mem hx)
  rw [if_neg hne, id_eq]

/-- A key that is stored once is changed there only. -/
theorem change_append_cons {key : κ} {a : α} {l₁ l₂ : List (κ × α)}
    (h₁ : key ∉ l₁.map Prod.fst) (h₂ : key ∉ l₂.map Prod.fst) (f : α → α) :
    change key f (l₁ ++ (key, a) :: l₂) = l₁ ++ (key, f a) :: l₂ := by
  rw [change, List.map_append, List.map_cons, if_pos rfl, ← change, ← change,
    change_of_not_mem h₁, change_of_not_mem h₂]

variable {f : κ → κ'} (g : α → α')

theorem map_change (hf : Function.Injective f) (key : κ) {u : α → α} {u' : α' → α'}
    (hu : ∀ a, g (u a) = u' (g a)) (l : List (κ × α)) :
    (change key u l).map (Prod.map f g) = change (f key) u' (l.map (Prod.map f g)) := by
  rw [change, change, List.map_map, List.map_map]
  refine List.map_congr_left fun x _ => ?_
  by_cases hx : x.1 = key
  · simp [hx, hu]
  · simp [hx, hf.eq_iff]

theorem map_replaceAt (hf : Function.Injective f) (key : κ) {u : κ × α → List (κ × α)}
    {u' : κ' × α' → List (κ' × α')}
    (hu : ∀ x, (u x).map (Prod.map f g) = u' (Prod.map f g x)) (l : List (κ × α)) :
    (replaceAt key u l).map (Prod.map f g) =
      replaceAt (f key) u' (l.map (Prod.map f g)) := by
  rw [replaceAt, replaceAt, List.map_flatMap, List.flatMap_map]
  congr 1
  funext x
  by_cases hx : x.1 = key
  · simp [hx, hu]
  · simp [hx, hf.eq_iff]

end

/-! ### Arenas as lists -/

namespace Arena

variable {a : Arena} {l : List Nat}

/-- The slots of the arena follow each other as its links say, and all of them do. -/
def WellLinked (a : Arena) : Prop := a.Linked a.order

theorem Linked.wellLinked (h : a.Linked l) : a.WellLinked := by
  rw [WellLinked, h.order_eq]
  exact h

theorem wellLinked_empty : empty.WellLinked := Linked.empty.wellLinked

/-- Slots with their segments. -/
def listed (a : Arena) (l : List Nat) : List (Nat × Segment) :=
  l.filterMap fun slot => (a.get? slot).map (slot, ·)

theorem Linked.toList_eq (h : a.Linked l) : a.toList = a.listed l := by
  rw [toList, h.order_eq, listed]

theorem listed_cons {slot : Nat} {segment : Segment} (h : a.get? slot = some segment)
    (l : List Nat) : a.listed (slot :: l) = (slot, segment) :: a.listed l := by
  simp [listed, h]

theorem listed_append (a : Arena) (l₁ l₂ : List Nat) :
    a.listed (l₁ ++ l₂) = a.listed l₁ ++ a.listed l₂ := List.filterMap_append

theorem map_fst_listed (h : ∀ slot ∈ l, slot < a.size) : (a.listed l).map Prod.fst = l := by
  induction l with
  | nil => rfl
  | cons slot l ih =>
    have hslot : slot < a.slots.size := h slot (by simp)
    have hget : a.get? slot = some a.slots[slot].segment := by
      rw [get?, Array.getElem?_eq_getElem hslot, Option.map_some]
    rw [listed_cons hget, List.map_cons, ih fun x hx => h x (by simp [hx])]

/-- The slots are listed in their order. -/
theorem WellLinked.map_fst_toList (h : a.WellLinked) : a.toList.map Prod.fst = a.order := by
  rw [h.toList_eq, map_fst_listed fun _ hx => h.mem_iff.1 hx]

theorem WellLinked.mem_toList (h : a.WellLinked) {slot : Nat} {g : Segment} :
    (slot, g) ∈ a.toList ↔ a.get? slot = some g := by
  rw [h.toList_eq, listed, List.mem_filterMap]
  constructor
  · rintro ⟨x, _, hx⟩
    obtain ⟨_, hget, heq⟩ := Option.map_eq_some_iff.1 hx
    cases heq
    exact hget
  · intro hget
    exact ⟨slot, h.mem_iff.2 (lt_size_of_get? hget), by rw [hget]; rfl⟩

theorem WellLinked.lt_of_ends (h : a.WellLinked) {slot : Nat}
    (hs : a.first = some slot ∨ a.last = some slot) : slot < a.size := by
  rw [h.first, h.last] at hs
  exact h.mem_iff.1 (hs.elim List.mem_of_head? List.mem_of_getLast?)

theorem WellLinked.lt_of_neighbour (h : a.WellLinked) {slot x : Nat} (hs : slot < a.size)
    (hx : a.previous? slot = some x ∨ a.next? slot = some x) : x < a.size := by
  obtain ⟨l₁, l₂, _, hl, _⟩ := Linked.split h hs
  rw [h.previous hl, h.next hl] at hx
  refine h.mem_iff.1 ?_
  rw [hl, List.mem_append, List.mem_cons]
  exact hx.imp List.mem_of_getLast? fun hx => .inr (List.mem_of_head? hx)

/-- An insertion leaves the slots that there are as they are listed. -/
theorem listed_insertBetween (previous next : Option Nat) (segment : Segment)
    (h : ∀ slot ∈ l, slot < a.size) :
    (a.insertBetween previous next segment).2.listed l = a.listed l := by
  rw [listed, listed]
  refine List.filterMap_congr fun slot hslot => ?_
  rw [get?_insertBetween, if_neg (Nat.ne_of_lt (h slot hslot))]

theorem WellLinked.setText (h : a.WellLinked) (slot : Nat) (text : String) :
    (a.setText slot text).WellLinked := (Linked.setText h slot text).wellLinked

/-- Another text in a slot is another text in the list. -/
theorem WellLinked.toList_setText (h : a.WellLinked) (slot : Nat) (text : String) :
    (a.setText slot text).toList = change slot (fun s => { s with text }) a.toList := by
  rw [h.toList_eq, (Linked.setText h slot text).toList_eq, change, listed, listed,
    List.map_filterMap]
  congr 1
  funext x
  by_cases hx : slot = x
  · subst hx
    cases hg : a.get? slot <;> simp [hg]
  · cases hg : a.get? x <;> simp [hx, hg, Ne.symm hx]

/-- The list after an insertion between two neighbours. -/
theorem Linked.toList_insertBetween {l₁ l₂ : List Nat} (h : a.Linked (l₁ ++ l₂))
    (segment : Segment) : (a.insertBetween l₁.getLast? l₂.head? segment).2.toList =
      a.listed l₁ ++ (a.size, segment) :: a.listed l₂ := by
  have hnew : (a.insertBetween l₁.getLast? l₂.head? segment).2.get? a.size = some segment := by
    rw [get?_insertBetween, if_pos rfl]
  rw [(h.insertBetween segment).toList_eq, listed_append, listed_cons hnew,
    listed_insertBetween _ _ _ fun x hx => h.mem_iff.1 (List.mem_append_left _ hx),
    listed_insertBetween _ _ _ fun x hx => h.mem_iff.1 (List.mem_append_right _ hx)]

theorem WellLinked.pushFront (h : a.WellLinked) (segment : Segment) :
    (a.pushFront segment).2.WellLinked ∧
      (a.pushFront segment).2.toList = (a.size, segment) :: a.toList := by
  rw [Arena.pushFront, h.first, h.toList_eq]
  have hl : a.Linked ([] ++ a.order) := h
  exact ⟨(hl.insertBetween segment).wellLinked, hl.toList_insertBetween segment⟩

theorem WellLinked.pushBack (h : a.WellLinked) (segment : Segment) :
    (a.pushBack segment).2.WellLinked ∧
      (a.pushBack segment).2.toList = a.toList ++ [(a.size, segment)] := by
  rw [Arena.pushBack, h.last, h.toList_eq]
  have hl : a.Linked (a.order ++ []) := by rw [List.append_nil]; exact h
  exact ⟨(hl.insertBetween segment).wellLinked, hl.toList_insertBetween segment⟩

/-- Where a slot stands in the order, and in the list. -/
theorem WellLinked.split (h : a.WellLinked) {slot : Nat} (hs : slot < a.size) :
    ∃ l₁ l₂ segment, a.Linked (l₁ ++ slot :: l₂) ∧
      a.slots[slot]? = some ⟨segment, l₁.getLast?, l₂.head?⟩ ∧
      a.toList = a.listed l₁ ++ (slot, segment) :: a.listed l₂ ∧
      slot ∉ (a.listed l₁).map Prod.fst ∧ slot ∉ (a.listed l₂).map Prod.fst := by
  obtain ⟨l₁, l₂, segment, hl, hslot, h₁, h₂⟩ := Linked.split h hs
  have hlinked : a.Linked (l₁ ++ slot :: l₂) := hl ▸ h
  have hbound : ∀ x ∈ l₁ ++ slot :: l₂, x < a.size := fun x hx => hlinked.mem_iff.1 hx
  refine ⟨l₁, l₂, segment, hlinked, hslot, ?_, ?_, ?_⟩
  · rw [hlinked.toList_eq, listed_append, listed_cons (by rw [get?, hslot, Option.map_some])]
  · rwa [map_fst_listed fun x hx => hbound x (by simp [hx])]
  · rwa [map_fst_listed fun x hx => hbound x (by simp [hx])]

theorem WellLinked.insertBefore (h : a.WellLinked) {anchor : Nat} (hs : anchor < a.size)
    (segment : Segment) : ∃ a', a.insertBefore anchor segment = some (a.size, a') ∧
      a'.WellLinked ∧ a'.toList = putBefore anchor (a.size, segment) a.toList := by
  obtain ⟨l₁, l₂, s, hl, hslot, hlist, h₁, h₂⟩ := h.split hs
  refine ⟨_, by rw [Arena.insertBefore, hslot]; rfl, (hl.insertBetween segment).wellLinked, ?_⟩
  rw [hlist, putBefore, replaceAt_append_cons h₁ h₂, List.append_assoc]
  exact (hl.toList_insertBetween segment).trans
    (by rw [listed_cons (by rw [get?, hslot, Option.map_some])]; rfl)

theorem WellLinked.insertAfter (h : a.WellLinked) {anchor : Nat} (hs : anchor < a.size)
    (segment : Segment) : ∃ a', a.insertAfter anchor segment = some (a.size, a') ∧
      a'.WellLinked ∧ a'.toList = putAfter anchor (a.size, segment) a.toList := by
  obtain ⟨l₁, l₂, s, hl, hslot, hlist, h₁, h₂⟩ := h.split hs
  have hget : a.get? anchor = some s := by rw [get?, hslot, Option.map_some]
  have hl' : a.Linked ((l₁ ++ [anchor]) ++ l₂) := by simpa using hl
  have hlast : (l₁ ++ [anchor]).getLast? = some anchor := by simp
  have hlinked := (hl'.insertBetween segment).wellLinked
  have htoList := hl'.toList_insertBetween segment
  rw [hlast] at hlinked htoList
  refine ⟨_, by rw [Arena.insertAfter, hslot]; rfl, hlinked, ?_⟩
  rw [hlist, putAfter, replaceAt_append_cons h₁ h₂, htoList, listed_append, listed_cons hget]
  simp [listed]

end Arena

/-! ### Edits of drafts -/

/-- A plain list of texts under their handles. -/
abbrev Draft := List (Handle × String)

/-- The handle at which an edit is made. -/
def Edit.anchor? : Edit → Option Handle
  | .setText h _ | .delete h => some h
  | .addFirst _ | .addLast _ => none
  | .addBefore anchor _ | .addAfter anchor _ => some anchor

/-- The draft after an edit that gave the handle `new` to the text that it added, if it added
    one. -/
def Edit.onDraft : Edit → Option Handle → Draft → Draft
  | .setText h text, _, d => change h (fun _ => text) d
  | .delete h, _, d => change h (fun _ => "") d
  | .addFirst text, some new, d => (new, text) :: d
  | .addLast text, some new, d => d ++ [(new, text)]
  | .addBefore anchor text, some new, d => putBefore anchor (new, text) d
  | .addAfter anchor text, some new, d => putAfter anchor (new, text) d
  | _, none, d => d

/-- The text of a draft. -/
def Draft.text (d : Draft) : String := String.join (d.map Prod.snd)

end ScriptKeeper.Inspection
