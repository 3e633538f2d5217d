import Mathlib.Data.List.Basic
import Mathlib.Tactic.Common
import ScriptKeeper.Proofs.Inspection.Arena

/-!
# An arena refines a sequence

A sequence keeps the segments by their slots, and the slots in the order of the document, with no
links between them: an insertion puts the next slot at a position in the order, and nothing else
changes (`Sequence.add`). Whatever is done to an arena, it answers like a sequence to which the
same is done (`refines_sequence`), and all that can be read off its links is what the sequence has
(`ReadsAs`). That the links lead through all slots, each of them once, and come to an end is said
without a bound on the steps (`Walk`).

* `Mirrors`: what every command keeps, one case per command (`Mirrors.perform`);
* `Mirrors.readsAs`: what this means for the reader of the arena;
* `refines_sequence`: both, over every run of commands.
-/

namespace ScriptKeeper.Inspection.Arena

/-! ### Sequences -/

/-- The segments by their slots, and the slots in the order of the document. -/
structure Sequence where
  segments : List Segment := []
  order : List Nat := []

namespace Sequence

/-- Adds a segment in the next slot, which comes at the given position in the order. -/
def add (q : Sequence) (position : Nat) (segment : Segment) : Option Nat × Sequence :=
  (some q.segments.length,
    { segments := q.segments ++ [segment]
      order := q.order.insertIdx position q.segments.length })

/-- The slots with their segments, in order. -/
def toList (q : Sequence) : List (Nat × Segment) :=
  q.order.filterMap fun slot => (q.segments[slot]?).map (slot, ·)

/-- The texts of all segments, in order. -/
def text (q : Sequence) : String := String.join (q.toList.map fun x => x.2.text)

end Sequence

/-! ### Commands -/

/-- What can be done to an arena. -/
inductive Command
  | pushBack (segment : Segment)
  | pushFront (segment : Segment)
  | insertBefore (anchor : Nat) (segment : Segment)
  | insertAfter (anchor : Nat) (segment : Segment)
  | setText (slot : Nat) (text : String)
  | clear

namespace Command

/-- Carries out a command on an arena; the slot of the segment that was added, if one was. -/
def onArena : Command → Arena → Option Nat × Arena
  | .pushBack segment, a => ((a.pushBack segment).1, (a.pushBack segment).2)
  | .pushFront segment, a => ((a.pushFront segment).1, (a.pushFront segment).2)
  | .insertBefore anchor segment, a =>
    match a.insertBefore anchor segment with
    | some (slot, a') => (slot, a')
    | none => (none, a)
  | .insertAfter anchor segment, a =>
    match a.insertAfter anchor segment with
    | some (slot, a') => (slot, a')
    | none => (none, a)
  | .setText slot text, a => (none, a.setText slot text)
  | .clear, _ => (none, .empty)

/-- Carries out a command on a sequence. Next to a slot that there is not, nothing is added. -/
def onSequence : Command → Sequence → Option Nat × Sequence
  | .pushBack segment, q => q.add q.order.length segment
  | .pushFront segment, q => q.add 0 segment
  | .insertBefore anchor segment, q =>
    if anchor < q.segments.length then q.add (q.order.idxOf anchor) segment else (none, q)
  | .insertAfter anchor segment, q =>
    if anchor < q.segments.length then q.add (q.order.idxOf anchor + 1) segment else (none, q)
  | .setText slot text, q =>
    (none, { q with segments := q.segments.modify slot fun s => { s with text } })
  | .clear, _ => (none, {})

/-- The answers to commands one after the other, and what they lead to. -/
def run {σ : Type} (perform : Command → σ → Option Nat × σ) :
    σ → List Command → List (Option Nat) × σ
  | s, [] => ([], s)
  | s, c :: rest =>
    let (answer, s) := perform c s
    let (answers, s) := run perform s rest
    (answer :: answers, s)

end Command

/-! ### What an arena shows -/

/-- All that can be read off the arena is what the sequence has. -/
structure ReadsAs (a : Arena) (q : Sequence) : Prop where
  /-- Every slot comes in the order, and once. -/
  perm : q.order.Perm (List.range a.size)
  size : a.size = q.segments.length
  get : ∀ slot, a.get? slot = q.segments[slot]?
  /-- From the first slot the links lead through the order and end. -/
  walk : Walk a.next? a.first q.order
  order : a.order = q.order
  toList : a.toList = q.toList
  first : a.first = q.order.head?
  last : a.last = q.order.getLast?
  /-- The neighbours of a slot are those in the order; from it the links lead back to the start. -/
  previous : ∀ l₁ slot l₂, q.order = l₁ ++ slot :: l₂ → a.previous? slot = l₁.getLast?
  next : ∀ l₁ slot l₂, q.order = l₁ ++ slot :: l₂ → a.next? slot = l₂.head?
  walkBack : ∀ l₁ slot l₂, q.order = l₁ ++ slot :: l₂ →
    Walk a.previous? (a.previous? slot) l₁.reverse
  preceding : ∀ l₁ slot l₂, q.order = l₁ ++ slot :: l₂ →
    a.preceding slot = (l₁.filterMap fun x => q.segments[x]?).reverse
  reconstruct : a.reconstruct = q.text

/-! ### The invariant -/

/-- The arena has the segments of the sequence, and they are linked in its order. -/
structure Mirrors (a : Arena) (q : Sequence) : Prop where
  linked : a.Linked q.order
  get : ∀ slot, a.get? slot = q.segments[slot]?

variable {a : Arena} {q : Sequence}

theorem get?_eq_none_iff {slot : Nat} : a.get? slot = none ↔ a.size ≤ slot := by
  rw [get?, Option.map_eq_none_iff, Array.getElem?_eq_none_iff, size]

namespace Mirrors

theorem size_eq (h : a.Mirrors q) : a.size = q.segments.length := by
  have hiff (n : Nat) : a.size ≤ n ↔ q.segments.length ≤ n := by
    rw [← get?_eq_none_iff, h.get, List.getElem?_eq_none_iff]
  exact Nat.le_antisymm ((hiff _).2 (Nat.le_refl _)) ((hiff _).1 (Nat.le_refl _))

theorem empty : Arena.empty.Mirrors {} := ⟨.empty, fun _ => rfl⟩

theorem readsAs (h : a.Mirrors q) : a.ReadsAs q := by
  have htoList : a.toList = q.toList := by
    rw [Arena.toList, h.linked.order_eq, Sequence.toList]
    exact List.filterMap_congr fun slot _ => by rw [h.get]
  refine ⟨h.linked.perm, h.size_eq, h.get, h.linked.walk, h.linked.order_eq, htoList,
    h.linked.first, h.linked.last, fun _ _ _ => h.linked.previous, fun _ _ _ => h.linked.next,
    fun _ _ _ hl => Linked.walkBack (hl ▸ h.linked), fun l₁ slot l₂ hl => ?_, ?_⟩
  · have hlinked : a.Linked (l₁ ++ slot :: l₂) := hl ▸ h.linked
    rw [Arena.preceding, hlinked.precedingSlots_eq, List.filterMap_reverse]
    congr 1
    exact List.filterMap_congr fun x _ => h.get x
  · rw [Arena.reconstruct, htoList, Sequence.text]

/-! ### One command -/

theorem insertIdx_length_left {l₁ l₂ : List Nat} (x : Nat) :
    (l₁ ++ l₂).insertIdx l₁.length x = l₁ ++ x :: l₂ := by
  induction l₁ with
  | nil => exact List.insertIdx_zero
  | cons y l₁ ih =>
    rw [List.cons_append, List.length_cons, List.insertIdx_succ_cons, ih, List.cons_append]

/-- An insertion between two neighbours is an insertion at the position between them. -/
theorem insertBetween (h : a.Mirrors q) {l₁ l₂ : List Nat} (hl : q.order = l₁ ++ l₂)
    (segment : Segment) :
    some (a.insertBetween l₁.getLast? l₂.head? segment).1 = (q.add l₁.length segment).1 ∧
      (a.insertBetween l₁.getLast? l₂.head? segment).2.Mirrors (q.add l₁.length segment).2 := by
  have hlinked : a.Linked (l₁ ++ l₂) := hl ▸ h.linked
  refine ⟨congrArg some h.size_eq, ?_, fun slot => ?_⟩
  · have horder : (q.add l₁.length segment).2.order = l₁ ++ a.size :: l₂ := by
      rw [Sequence.add, hl, insertIdx_length_left, h.size_eq]
    rw [horder]
    exact hlinked.insertBetween segment
  · rw [get?_insertBetween, h.get, h.size_eq, Sequence.add]
    -- The new slot is the one behind the segments that there are.
    rcases Nat.lt_trichotomy slot q.segments.length with hlt | rfl | hgt
    · rw [if_neg (Nat.ne_of_lt hlt), List.getElem?_append_left hlt]
    · rw [if_pos rfl, List.getElem?_concat_length]
    · rw [if_neg (Nat.ne_of_gt hgt), List.getElem?_eq_none (Nat.le_of_lt hgt),
        List.getElem?_eq_none (by simpa [Nat.succ_le_iff] using hgt)]

/-- Where a slot stands in the order, and what it knows of its neighbours. -/
theorem split (h : a.Mirrors q) {anchor : Nat} (hs : anchor < q.segments.length) :
    ∃ l₁ l₂ segment, q.order = l₁ ++ anchor :: l₂ ∧ q.order.idxOf anchor = l₁.length ∧
      a.slots[anchor]? = some ⟨segment, l₁.getLast?, l₂.head?⟩ := by
  obtain ⟨l₁, l₂, segment, hl, hslot, h₁, _⟩ :=
    h.linked.split (Nat.lt_of_lt_of_eq hs h.size_eq.symm)
  refine ⟨l₁, l₂, segment, hl, ?_, hslot⟩
  rw [hl, List.idxOf_append_of_notMem h₁, List.idxOf_cons_self, Nat.add_zero]

/-- A slot that the sequence does not have, the arena does not have. -/
theorem slots_eq_none (h : a.Mirrors q) {anchor : Nat} (hs : ¬ anchor < q.segments.length) :
    a.slots[anchor]? = none := by
  rw [Array.getElem?_eq_none_iff, ← size, h.size_eq]
  exact Nat.not_lt.1 hs

/-- Every command is answered alike by the arena and by the sequence, and keeps them alike. -/
theorem perform (h : a.Mirrors q) (c : Command) :
    (c.onArena a).1 = (c.onSequence q).1 ∧ (c.onArena a).2.Mirrors (c.onSequence q).2 := by
  cases c with
  | pushBack segment =>
    rw [Command.onArena, Command.onSequence, Arena.pushBack, h.linked.last]
    exact h.insertBetween (List.append_nil q.order).symm segment
  | pushFront segment =>
    rw [Command.onArena, Command.onSequence, Arena.pushFront, h.linked.first]
    exact h.insertBetween (List.nil_append q.order).symm segment
  | insertBefore anchor segment =>
    rw [Command.onArena, Command.onSequence, Arena.insertBefore]
    by_cases hs : anchor < q.segments.length
    · obtain ⟨l₁, l₂, _, hl, hidx, hslot⟩ := h.split hs
      rw [if_pos hs, hslot, hidx, Option.map_some]
      exact h.insertBetween hl segment
    · rw [if_neg hs, h.slots_eq_none hs]
      exact ⟨rfl, h⟩
  | insertAfter anchor segment =>
    rw [Command.onArena, Command.onSequence, Arena.insertAfter]
    by_cases hs : anchor < q.segments.length
    · obtain ⟨l₁, l₂, _, hl, hidx, hslot⟩ := h.split hs
      have hl' : q.order = (l₁ ++ [anchor]) ++ l₂ := by rw [hl]; simp
      have hinsert := h.insertBetween hl' segment
      rw [List.getLast?_concat, List.length_append, List.length_singleton] at hinsert
      rw [if_pos hs, hslot, hidx, Option.map_some]
      exact hinsert
    · rw [if_neg hs, h.slots_eq_none hs]
      exact ⟨rfl, h⟩
  | setText slot text =>
    refine ⟨rfl, h.linked.setText slot text, fun x => ?_⟩
    rw [Command.onArena, Command.onSequence, get?_setText, List.getElem?_modify, h.get]
    split <;> simp
  | clear => exact ⟨rfl, empty⟩

/-! ### Runs of commands -/

theorem run (h : a.Mirrors q) (cs : List Command) :
    (Command.run Command.onArena a cs).1 = (Command.run Command.onSequence q cs).1 ∧
      (Command.run Command.onArena a cs).2.Mirrors (Command.run Command.onSequence q cs).2 := by
  induction cs generalizing a q with
  | nil => exact ⟨rfl, h⟩
  | cons c cs ih =>
    obtain ⟨hanswer, hnext⟩ := h.perform c
    obtain ⟨hanswers, hlast⟩ := ih hnext
    refine ⟨?_, hlast⟩
    rw [Command.run, Command.run]
    exact congrArg₂ List.cons hanswer hanswers

end Mirrors

/-- Whatever is done to an arena, it answers as a sequence does, and reads as that sequence. -/
theorem refines_sequence (cs : List Command) :
    (Command.run Command.onArena .empty cs).1 = (Command.run Command.onSequence {} cs).1 ∧
      (Command.run Command.onArena .empty cs).2.ReadsAs (Command.run Command.onSequence {} cs).2 :=
  have h := Mirrors.empty.run cs
  ⟨h.1, h.2.readsAs⟩

end ScriptKeeper.Inspection.Arena
