import Mathlib.Data.Finset.Prod
import Mathlib.Logic.Relation
import ScriptKeeper.Pattern.Basic

/-!
# A search finds what there is

What a program matches can be said without the order of the threads and without the memory of a
search: a thread at the first instruction comes, move by move, to one that accepts
(`MatchesBetween`). A search answers accordingly.

* What it finds is the leftmost match (`leftmost_of_searchFrom`), as every thread that it runs was
  left behind by one before it.
* It misses nothing (`searchFrom_eq_none_iff`). What has been run so far leads only to what has been
  run too or is still to be run, and none of it accepts (`Explored`); once nothing is to be run
  any more, nothing that has been run leads to a match. The bound on the steps is never reached,
  as each place that is run leaves one fewer to run and at most two threads behind.

So a pattern matches in a text if a thread succeeds that begins somewhere in it (`isMatch_iff`).
Whether a thread succeeds is found by running the program instruction by instruction
(`succeeds_consume_iff` and the like).
-/

namespace ScriptKeeper.Pattern

variable {program : Program} {text : Array Char}

/-! ### What a program matches -/

/-- The thread leaves the other one behind when it runs the instruction at which it stands. -/
def Moves (program : Program) (text : Array Char) (t t' : Thread) : Prop :=
  ∃ instr, program[t.pc]? = some instr ∧ t' ∈ t.step text instr

/-- The thread comes to be the other one, in any number of moves. -/
abbrev Leads (program : Program) (text : Array Char) : Thread → Thread → Prop :=
  Relation.ReflTransGen (Moves program text)

/-- The thread stands where the program accepts. -/
def Accepts (program : Program) (t : Thread) : Prop := program[t.pc]? = some .accept

/-- The program matches the text between two positions. -/
def MatchesBetween (program : Program) (text : Array Char) (start stop : Nat) : Prop :=
  ∃ t, Leads program text { pc := 0, pos := start } t ∧ Accepts program t ∧ t.pos = stop

/-! ### Threads at the same place -/

/-- Where a thread stands: at an instruction, and at a position in the text. -/
def Thread.place (t : Thread) : Nat × Nat := (t.pc, t.pos)

theorem Thread.place_eq_iff {t u : Thread} : t.place = u.place ↔ t.pc = u.pc ∧ t.pos = u.pos :=
  Prod.mk.injEq _ _ _ _ ▸ Iff.rfl

/-- The moves of a thread do not depend on its marks. -/
theorem Thread.exists_mem_step {t u t' : Thread} {instr : Instr} (h : u.pos = t.pos)
    (hm : t' ∈ t.step text instr) : ∃ u' ∈ u.step text instr, u'.place = t'.place := by
  cases instr with
  | consume set next =>
    simp only [Thread.step, h] at hm ⊢
    split at hm
    · split at hm
      next hset =>
        cases List.mem_singleton.1 hm
        rw [if_pos hset]
        exact ⟨_, List.mem_singleton.2 rfl, rfl⟩
      next => cases hm
    · cases hm
  | check look next =>
    simp only [Thread.step, h] at hm ⊢
    split at hm
    next hlook =>
      cases List.mem_singleton.1 hm
      rw [if_pos hlook]
      exact ⟨_, List.mem_singleton.2 rfl, rfl⟩
    next => cases hm
  | save | jump =>
    cases List.mem_singleton.1 hm
    exact ⟨_, List.mem_singleton.2 rfl, by simp [Thread.place, h]⟩
  | fork preferred other =>
    rcases List.mem_cons.1 hm with rfl | hm
    · exact ⟨_, List.mem_cons_self, by simp [Thread.place, h]⟩
    · cases List.mem_singleton.1 hm
      exact ⟨_, List.mem_cons_of_mem _ (List.mem_singleton.2 rfl), by simp [Thread.place, h]⟩
  | accept => cases hm

theorem Moves.of_place {t u t' : Thread} (h : u.place = t.place) (hm : Moves program text t t') :
    ∃ u', Moves program text u u' ∧ u'.place = t'.place := by
  obtain ⟨instr, hinstr, hstep⟩ := hm
  obtain ⟨hpc, hpos⟩ := Thread.place_eq_iff.1 h
  obtain ⟨u', hu', hplace⟩ := Thread.exists_mem_step hpos hstep
  exact ⟨u', ⟨instr, hpc ▸ hinstr, hu'⟩, hplace⟩

/-- A thread stays within the text. -/
theorem Thread.pos_le_of_step {t t' : Thread} {instr : Instr} (ht : t.pos ≤ text.size)
    (h : t' ∈ t.step text instr) : t'.pos ≤ text.size := by
  cases instr with
  | consume set next =>
    rw [Thread.step] at h
    split at h
    next c hc =>
      split at h
      · cases List.mem_singleton.1 h
        exact (Array.getElem?_eq_some_iff.1 hc).1
      · cases h
    next => cases h
  | check look next =>
    rw [Thread.step] at h
    split at h
    · cases List.mem_singleton.1 h
      exact ht
    · cases h
  | fork preferred other =>
    rcases List.mem_cons.1 h with rfl | h
    · exact ht
    · cases List.mem_singleton.1 h
      exact ht
  | save | jump =>
    cases List.mem_singleton.1 h
    exact ht
  | accept => cases h

theorem Thread.length_step_le (t : Thread) (instr : Instr) : (t.step text instr).length ≤ 2 := by
  cases instr <;> simp only [Thread.step] <;> (repeat' split) <;> simp

/-! ### The memory of a search -/

/-- Whether a thread like this one has been run. -/
def Visited.Holds (v : Visited) (t : Thread) : Prop := v.has t.pc t.pos = true

theorem Visited.holds_none (n : Nat) (t : Thread) : ¬ (Visited.none n).Holds t := by
  rw [Visited.Holds, Visited.has, Visited.none, Array.getElem?_replicate]
  split <;> simp

/-- Only the place of a thread counts. -/
theorem Visited.holds_congr {v : Visited} {t u : Thread} (h : u.place = t.place) :
    v.Holds u ↔ v.Holds t := by
  obtain ⟨hpc, hpos⟩ := Thread.place_eq_iff.1 h
  rw [Visited.Holds, Visited.Holds, hpc, hpos]

/-- What has been run after a thread: that thread, and what had been run before. -/
theorem Visited.holds_add {v : Visited} {t u : Thread} (ht : t.pos < v.rows.size) :
    (v.add t.pc t.pos).Holds u ↔ v.Holds u ∨ u.place = t.place := by
  rw [Visited.Holds, Visited.Holds, Visited.has, Visited.has, Visited.add, Array.getElem?_modify,
    Thread.place_eq_iff]
  split
  next hpos =>
    rw [← hpos, Array.getElem?_eq_getElem ht, Option.map_some, Option.getD_some,
      Option.getD_some, Nat.testBit_or, Nat.one_shiftLeft, Nat.testBit_two_pow, Bool.or_eq_true,
      decide_eq_true_iff]
    exact or_congr_right ⟨fun h => ⟨h.symm, rfl⟩, fun h => h.1.symm⟩
  next hpos => simp [Ne.symm hpos]

theorem Visited.size_add (v : Visited) (pc pos : Nat) :
    (v.add pc pos).rows.size = v.rows.size := by
  rw [Visited.add, Array.size_modify]

/-- What has been run is of no use to the threads that are still to be run: it does not accept, and
    leads only to what has been run too or is to be run. -/
structure Explored (program : Program) (text : Array Char) (threads : List Thread) (v : Visited) :
    Prop where
  size : v.rows.size = text.size + 1
  inText : ∀ t ∈ threads, t.pos ≤ text.size
  vain : ∀ t, v.Holds t → ¬ Accepts program t
  closed : ∀ t t', v.Holds t → Moves program text t t' →
    v.Holds t' ∨ ∃ u ∈ threads, u.place = t'.place

namespace Explored

variable {threads : List Thread} {v : Visited} {t : Thread}

/-- Before a search, nothing has been run. -/
theorem none (hin : ∀ t ∈ threads, t.pos ≤ text.size) :
    Explored program text threads (Visited.none text.size) where
  size := Array.size_replicate
  inText := hin
  vain t h := absurd h (Visited.holds_none _ t)
  closed t _ h _ := absurd h (Visited.holds_none _ t)

theorem start : Explored program text [] (Visited.none text.size) :=
  .none fun _ h => absurd h List.not_mem_nil

theorem pos_lt (h : Explored program text (t :: threads) v) : t.pos < v.rows.size := by
  rw [h.size]
  exact Nat.lt_succ_of_le (h.inText t List.mem_cons_self)

/-- A thread that has been run need not be run again. -/
theorem skip (h : Explored program text (t :: threads) v) (ht : v.Holds t) :
    Explored program text threads v where
  size := h.size
  inText u hu := h.inText u (List.mem_cons_of_mem t hu)
  vain := h.vain
  closed u u' hu hm := by
    rcases h.closed u u' hu hm with hholds | ⟨w, hw, hplace⟩
    · exact .inl hholds
    rcases List.mem_cons.1 hw with rfl | hw
    · exact .inl ((Visited.holds_congr hplace).1 ht)
    · exact .inr ⟨w, hw, hplace⟩

/-- A thread that does not accept is run: in its place come the threads that it moves on to. -/
theorem run (h : Explored program text (t :: threads) v) {next : List Thread}
    (ht : ¬ Accepts program t) (hin : ∀ u ∈ next, u.pos ≤ text.size)
    (hnext : ∀ t', Moves program text t t' → t' ∈ next) :
    Explored program text (next ++ threads) (v.add t.pc t.pos) where
  size := (v.size_add _ _).trans h.size
  inText u hu := (List.mem_append.1 hu).elim (hin u) fun hu =>
    h.inText u (List.mem_cons_of_mem t hu)
  vain u hu := by
    rcases (Visited.holds_add h.pos_lt).1 hu with hu | hplace
    · exact h.vain u hu
    · rwa [Accepts, (Thread.place_eq_iff.1 hplace).1]
  closed u u' hu hm := by
    rcases (Visited.holds_add h.pos_lt).1 hu with hu | hplace
    · -- What led to the thread itself leads to what has been run now.
      rcases h.closed u u' hu hm with hholds | ⟨w, hw, hplace⟩
      · exact .inl ((Visited.holds_add h.pos_lt).2 (.inl hholds))
      rcases List.mem_cons.1 hw with rfl | hw
      · exact .inl ((Visited.holds_add h.pos_lt).2 (.inr hplace.symm))
      · exact .inr ⟨w, List.mem_append_right _ hw, hplace⟩
    · obtain ⟨w, hw, hplace⟩ := hm.of_place hplace.symm
      exact .inr ⟨w, List.mem_append_left _ (hnext w hw), hplace⟩

/-- If nothing is to be run any more, nothing that has been run leads to a match. -/
theorem not_accepts (h : Explored program text [] v) {t' : Thread} (ht : v.Holds t)
    (hl : Leads program text t t') : ¬ Accepts program t' := by
  have hholds : v.Holds t' := by
    induction hl with
    | refl => exact ht
    | tail _ hm ih =>
      rcases h.closed _ _ ih hm with hholds | ⟨u, hu, _⟩
      · exact hholds
      · cases hu
  exact h.vain t' hholds

end Explored

/-! ### The bound on the steps -/

/-- The places that have not been run. -/
def unvisited (program : Program) (text : Array Char) (v : Visited) : Finset (Nat × Nat) :=
  (Finset.range program.size ×ˢ Finset.range (text.size + 1)).filter fun p => ¬ v.has p.1 p.2

theorem card_unvisited_le (v : Visited) :
    (unvisited program text v).card ≤ program.size * (text.size + 1) := by
  refine (Finset.card_filter_le _ _).trans ?_
  rw [Finset.card_product, Finset.card_range, Finset.card_range]

theorem unvisited_add_subset {v : Visited} {t : Thread} (ht : t.pos < v.rows.size) :
    unvisited program text (v.add t.pc t.pos) ⊆ unvisited program text v := by
  refine Finset.monotone_filter_right _ fun p _ hp hv => hp ?_
  have hadd : (v.add t.pc t.pos).Holds ⟨p.1, p.2, []⟩ := (Visited.holds_add ht).2 (.inl hv)
  exact hadd

/-- Running a thread at an instruction leaves one place fewer. -/
theorem card_unvisited_add_lt {v : Visited} {t : Thread} (ht : t.pos < v.rows.size)
    (hpos : t.pos ≤ text.size) (hpc : t.pc < program.size) (hnew : ¬ v.Holds t) :
    (unvisited program text (v.add t.pc t.pos)).card < (unvisited program text v).card := by
  refine Finset.card_lt_card
    ((Finset.ssubset_iff_of_subset (unvisited_add_subset ht)).2 ⟨t.place, ?_, fun hmem => ?_⟩)
  · rw [unvisited, Finset.mem_filter, Finset.mem_product, Finset.mem_range, Finset.mem_range]
    exact ⟨⟨hpc, Nat.lt_succ_of_le hpos⟩, hnew⟩
  · have hadd : (v.add t.pc t.pos).Holds t := (Visited.holds_add ht).2 (.inr rfl)
    exact (Finset.mem_filter.1 hmem).2 hadd

/-! ### One exploration -/

/-- The threads that a thread leaves behind. -/
def Thread.successors (program : Program) (text : Array Char) (t : Thread) : List Thread :=
  (program[t.pc]?.map (t.step text)).getD []

theorem Thread.mem_successors {t t' : Thread} :
    t' ∈ t.successors program text ↔ Moves program text t t' := by
  rw [Thread.successors, Moves]
  cases program[t.pc]? <;> simp

theorem Thread.pos_le_of_mem_successors {t t' : Thread} (ht : t.pos ≤ text.size)
    (h : t' ∈ t.successors program text) : t'.pos ≤ text.size := by
  obtain ⟨_, _, hstep⟩ := Thread.mem_successors.1 h
  exact Thread.pos_le_of_step ht hstep

section

variable {fuel : Nat} {threads : List Thread} {v v' : Visited} {t : Thread}

/-- A thread that has been run is not run again. -/
theorem explore_of_holds (h : v.Holds t) : explore program text (fuel + 1) (t :: threads) v =
    explore program text fuel threads v := by
  rw [Visited.Holds] at h
  rw [explore, if_pos h]

theorem explore_of_accepts (h : ¬ v.Holds t) (ha : Accepts program t) :
    explore program text (fuel + 1) (t :: threads) v = (some t, v.add t.pc t.pos) := by
  rw [Visited.Holds] at h
  rw [Accepts] at ha
  rw [explore, if_neg h]
  dsimp only
  rw [ha]

/-- In the place of a thread that is run come the threads that it leaves behind. -/
theorem explore_of_not_accepts (h : ¬ v.Holds t) (ha : ¬ Accepts program t) :
    explore program text (fuel + 1) (t :: threads) v =
      explore program text fuel (t.successors program text ++ threads) (v.add t.pc t.pos) := by
  rw [Visited.Holds] at h
  rw [explore, if_neg h, Thread.successors]
  dsimp only
  split
  next hnone => rw [hnone]; rfl
  next haccept => exact absurd haccept ha
  next hinstr => rw [hinstr]; rfl

/-- A thread that accepts was led to by one of those that were to be run. -/
theorem leads_of_explore (h : explore program text fuel threads v = (some t, v')) :
    (∃ u ∈ threads, Leads program text u t) ∧ Accepts program t := by
  induction fuel generalizing threads v with
  | zero => cases h
  | succ fuel ih =>
    cases threads with
    | nil => cases h
    | cons first rest =>
      by_cases hold : v.Holds first
      · rw [explore_of_holds hold] at h
        obtain ⟨⟨u, hu, hl⟩, ha⟩ := ih h
        exact ⟨⟨u, List.mem_cons_of_mem first hu, hl⟩, ha⟩
      by_cases haccept : Accepts program first
      · rw [explore_of_accepts hold haccept] at h
        cases h
        exact ⟨⟨t, List.mem_cons_self, .refl⟩, haccept⟩
      rw [explore_of_not_accepts hold haccept] at h
      obtain ⟨⟨u, hu, hl⟩, ha⟩ := ih h
      rcases List.mem_append.1 hu with hu | hu
      · exact ⟨⟨first, List.mem_cons_self, .head (Thread.mem_successors.1 hu) hl⟩, ha⟩
      · exact ⟨⟨u, List.mem_cons_of_mem first hu, hl⟩, ha⟩

/-- For every place that is run, at most two threads are left behind. -/
theorem card_unvisited_add_le (hpos : t.pos ≤ text.size) (hsize : v.rows.size = text.size + 1)
    (hnew : ¬ v.Holds t) : 2 * (unvisited program text (v.add t.pc t.pos)).card +
      (t.successors program text).length ≤ 2 * (unvisited program text v).card := by
  have hlt : t.pos < v.rows.size := hsize ▸ Nat.lt_succ_of_le hpos
  rw [Thread.successors]
  cases hinstr : program[t.pc]? with
  | none =>
    have hcard : (unvisited program text (v.add t.pc t.pos)).card ≤
        (unvisited program text v).card := Finset.card_le_card (unvisited_add_subset hlt)
    rw [Option.map_none, Option.getD_none, List.length_nil]
    omega
  | some instr =>
    have hcard := card_unvisited_add_lt hlt hpos (Array.getElem?_eq_some_iff.1 hinstr).1 hnew
    have hlength : (t.step text instr).length ≤ 2 := t.length_step_le instr
    rw [Option.map_some, Option.getD_some]
    omega

/-- An exploration in vain has run all threads and what they lead to. -/
theorem explored_of_explore (h : explore program text fuel threads v = (none, v'))
    (hv : Explored program text threads v)
    (hfuel : 2 * (unvisited program text v).card + threads.length ≤ fuel) :
    Explored program text [] v' ∧ (∀ t, v.Holds t → v'.Holds t) ∧ ∀ t ∈ threads, v'.Holds t := by
  induction fuel generalizing threads v with
  | zero =>
    obtain rfl := List.length_eq_zero_iff.1 (by omega : threads.length = 0)
    cases h
    exact ⟨hv, fun _ ht => ht, nofun⟩
  | succ fuel ih =>
    cases threads with
    | nil =>
      cases h
      exact ⟨hv, fun _ ht => ht, nofun⟩
    | cons t rest =>
      rw [List.length_cons] at hfuel
      by_cases hold : v.Holds t
      · rw [explore_of_holds hold] at h
        obtain ⟨he, hmono, hrest⟩ := ih h (hv.skip hold) (by omega)
        exact ⟨he, hmono, List.forall_mem_cons.2 ⟨hmono t hold, hrest⟩⟩
      by_cases haccept : Accepts program t
      · rw [explore_of_accepts hold haccept] at h
        cases h
      rw [explore_of_not_accepts hold haccept] at h
      have hpos : t.pos ≤ text.size := hv.inText t List.mem_cons_self
      have hcard : 2 * (unvisited program text (v.add t.pc t.pos)).card +
          (t.successors program text).length ≤ 2 * (unvisited program text v).card :=
        card_unvisited_add_le hpos hv.size hold
      obtain ⟨he, hmono, hall⟩ := ih h
        (hv.run haccept (fun _ => Thread.pos_le_of_mem_successors hpos)
          fun _ => Thread.mem_successors.2)
        (by rw [List.length_append]; omega)
      -- A place that is run stays so.
      refine ⟨he, fun u hu => hmono u ((Visited.holds_add hv.pos_lt).2 (.inl hu)),
        List.forall_mem_cons.2 ⟨hmono t ((Visited.holds_add hv.pos_lt).2 (.inr rfl)), ?_⟩⟩
      exact fun u hu => hall u (List.mem_append_right _ hu)

end

/-! ### Searches -/

/-- An exploration in vain from the first instruction shows that nothing matches there, and can be
    followed by another. -/
theorem explored_of_start {start : Nat} {v v' : Visited} (hv : Explored program text [] v)
    (hstart : start ≤ text.size)
    (h : explore program text (stepBound program text) [{ pc := 0, pos := start }] v =
      (none, v')) :
    Explored program text [] v' ∧ ∀ stop, ¬ MatchesBetween program text start stop := by
  have hthreads : Explored program text [{ pc := 0, pos := start }] v :=
    ⟨hv.size, by simpa using hstart, hv.vain, fun t t' ht hm => .inl <|
      (hv.closed t t' ht hm).elim id fun ⟨_, hu, _⟩ => by cases hu⟩
  have hbound : 2 * (unvisited program text v).card +
      [({ pc := 0, pos := start } : Thread)].length ≤ stepBound program text := by
    have hcard : (unvisited program text v).card ≤ program.size * (text.size + 1) :=
      card_unvisited_le v
    rw [stepBound, Nat.mul_assoc, List.length_singleton]
    omega
  obtain ⟨he, _, hall⟩ := explored_of_explore h hthreads hbound
  refine ⟨he, fun stop ⟨t, hl, ha, _⟩ => ?_⟩
  exact he.not_accepts (hall _ (List.mem_singleton.2 rfl)) hl ha

/-- The match is the leftmost from a position on. -/
structure Leftmost (program : Program) (text : Array Char) (start : Nat) (found : Found) :
    Prop where
  le : start ≤ found.start
  inText : found.start ≤ text.size
  matched : MatchesBetween program text found.start found.stop
  first : ∀ n, start ≤ n → n < found.start → ∀ stop, ¬ MatchesBetween program text n stop

theorem leftmost_of_tryPositions {count start : Nat} {v : Visited} {found : Found}
    (hv : Explored program text [] v) (hcount : start + count ≤ text.size + 1)
    (h : tryPositions program text count start v = some found) :
    Leftmost program text start found := by
  induction count generalizing start v with
  | zero => cases h
  | succ count ih =>
    rw [tryPositions] at h
    split at h
    next t _ hexplore =>
      cases h
      obtain ⟨⟨u, hu, hl⟩, ha⟩ := leads_of_explore hexplore
      cases List.mem_singleton.1 hu
      exact ⟨Nat.le_refl _, by dsimp only; omega, ⟨t, hl, ha, rfl⟩,
        fun n hn hlt => absurd hn (Nat.not_le.2 hlt)⟩
    next hexplore =>
      obtain ⟨he, hnone⟩ := explored_of_start hv (by omega) hexplore
      have hlater := ih he (by omega) h
      refine ⟨Nat.le_of_succ_le hlater.le, hlater.inText, hlater.matched, fun n hn hlt => ?_⟩
      rcases Nat.eq_or_lt_of_le hn with rfl | hn
      · exact hnone
      · exact hlater.first n hn hlt

theorem not_matchesBetween_of_tryPositions {count start : Nat} {v : Visited}
    (hv : Explored program text [] v) (hcount : start + count ≤ text.size + 1)
    (h : tryPositions program text count start v = none) {n : Nat} (hn : start ≤ n)
    (hlt : n < start + count) (stop : Nat) : ¬ MatchesBetween program text n stop := by
  induction count generalizing start v with
  | zero => omega
  | succ count ih =>
    rw [tryPositions] at h
    split at h
    next => cases h
    next hexplore =>
      obtain ⟨he, hnone⟩ := explored_of_start hv (by omega) hexplore
      rcases Nat.eq_or_lt_of_le hn with rfl | hn
      · exact hnone stop
      · exact ih he (by omega) h hn (by omega)

/-- What a search finds is the leftmost match. -/
theorem leftmost_of_searchFrom {start : Nat} {found : Found}
    (h : searchFrom program text start = some found) : Leftmost program text start found := by
  by_cases hstart : start ≤ text.size
  · exact leftmost_of_tryPositions .start (by omega) h
  · rw [searchFrom, Nat.sub_eq_zero_of_le (by omega)] at h
    cases h

/-- A search is in vain only if there is nothing to be found. -/
theorem searchFrom_eq_none_iff {start : Nat} : searchFrom program text start = none ↔
    ∀ n, start ≤ n → n ≤ text.size → ∀ stop, ¬ MatchesBetween program text n stop := by
  constructor
  · intro h n hn hle stop
    exact not_matchesBetween_of_tryPositions .start (by omega) h hn (by omega) stop
  · intro h
    cases hfound : searchFrom program text start with
    | none => rfl
    | some found =>
      have hleft := leftmost_of_searchFrom hfound
      exact absurd hleft.matched (h found.start hleft.le hleft.inText found.stop)

/-! ### Running a program -/

/-- The thread comes to accept. -/
def Succeeds (program : Program) (text : Array Char) (t : Thread) : Prop :=
  ∃ t', Leads program text t t' ∧ Accepts program t'

/-- A pattern matches in a text if a thread that begins somewhere in it succeeds. -/
theorem isMatch_iff {p : Pattern} {s : String} : p.isMatch s = true ↔
    ∃ start, start ≤ s.toList.length ∧
      Succeeds p.program s.toList.toArray { pc := 0, pos := start } := by
  rw [isMatch, Option.isSome_iff_ne_none, Ne, searchFrom_eq_none_iff]
  constructor
  · intro h
    by_contra hnone
    refine h fun start _ hle stop ⟨t, hl, ha, _⟩ => hnone ⟨start, by simpa using hle, t, hl, ha⟩
  · rintro ⟨start, hle, t, hl, ha⟩ hnone
    exact hnone start (Nat.zero_le _) (by simpa using hle) t.pos ⟨t, hl, ha, rfl⟩

theorem drop_eq_cons_iff {cs rest : List Char} {n : Nat} {c : Char} :
    cs.drop n = c :: rest ↔ cs[n]? = some c ∧ cs.drop (n + 1) = rest := by
  rw [← List.head?_drop, ← List.tail_drop]
  cases cs.drop n <;> simp

/-- A thread takes the next character if it is in the set. -/
theorem mem_step_consume_iff {cs : List Char} {t t' : Thread} {set : Unicode.CharSet}
    {next : Nat} : t' ∈ t.step cs.toArray (.consume set next) ↔
      ∃ c, cs[t.pos]? = some c ∧ set.contains c = true ∧
        t' = { t with pc := next, pos := t.pos + 1 } := by
  rw [Thread.step, List.getElem?_toArray]
  cases cs[t.pos]? with
  | none => simp
  | some c => by_cases hc : set.contains c <;> simp [hc]

/-- A set of one character holds just this one. -/
theorem contains_single_iff (d : Char) {c : Char} :
    Unicode.CharSet.contains ⟨[(d.toNat, d.toNat)]⟩ c = true ↔ c = d := by
  rw [← Char.toNat_inj]
  simp only [Unicode.CharSet.contains, Unicode.CharSet.hasPoint, Unicode.CharSet.inRanges]
  grind

variable {cs : List Char} {t : Thread} {next : Nat}

theorem succeeds_accept (h : program[t.pc]? = some .accept) : Succeeds program text t :=
  ⟨t, .refl, h⟩

/-- A thread that does not accept succeeds if one that it leaves behind does. -/
theorem succeeds_iff {instr : Instr} (h : program[t.pc]? = some instr) (hne : instr ≠ .accept) :
    Succeeds program text t ↔ ∃ t' ∈ t.step text instr, Succeeds program text t' := by
  constructor
  · rintro ⟨last, hl, ha⟩
    rcases Relation.ReflTransGen.cases_head hl with rfl | ⟨t', ⟨instr', hinstr', hstep⟩, hrest⟩
    · rw [Accepts, h] at ha
      exact absurd (Option.some.inj ha) hne
    · obtain rfl := Option.some.inj (h.symm.trans hinstr')
      exact ⟨t', hstep, last, hrest, ha⟩
  · rintro ⟨t', hstep, last, hl, ha⟩
    exact ⟨last, .head ⟨instr, h, hstep⟩ hl, ha⟩

theorem succeeds_consume_iff {set : Unicode.CharSet}
    (h : program[t.pc]? = some (.consume set next)) : Succeeds program cs.toArray t ↔
      ∃ c rest, cs.drop t.pos = c :: rest ∧ set.contains c = true ∧
        Succeeds program cs.toArray { t with pc := next, pos := t.pos + 1 } := by
  rw [succeeds_iff h nofun]
  constructor
  · rintro ⟨t', hstep, hsucceeds⟩
    obtain ⟨c, hc, hset, rfl⟩ := mem_step_consume_iff.1 hstep
    exact ⟨c, _, drop_eq_cons_iff.2 ⟨hc, rfl⟩, hset, hsucceeds⟩
  · rintro ⟨c, rest, hdrop, hset, hsucceeds⟩
    exact ⟨_, mem_step_consume_iff.2 ⟨c, (drop_eq_cons_iff.1 hdrop).1, hset, rfl⟩, hsucceeds⟩

theorem succeeds_jump_iff (h : program[t.pc]? = some (.jump next)) :
    Succeeds program text t ↔ Succeeds program text { t with pc := next } := by
  rw [succeeds_iff h nofun, Thread.step]
  simp only [List.mem_singleton, exists_eq_left]

theorem succeeds_fork_iff {preferred other : Nat}
    (h : program[t.pc]? = some (.fork preferred other)) : Succeeds program text t ↔
      Succeeds program text { t with pc := preferred } ∨
        Succeeds program text { t with pc := other } := by
  rw [succeeds_iff h nofun, Thread.step]
  simp only [List.mem_cons, List.not_mem_nil, or_false, exists_eq_or_imp, exists_eq_left]

theorem succeeds_check_iff {look : Look} (h : program[t.pc]? = some (.check look next)) :
    Succeeds program text t ↔
      look.holds text t.pos = true ∧ Succeeds program text { t with pc := next } := by
  rw [succeeds_iff h nofun, Thread.step]
  split
  next hholds => simp [hholds]
  next hholds => simp [hholds]

theorem succeeds_textEnd_iff (h : program[t.pc]? = some (.check .textEnd next)) :
    Succeeds program cs.toArray t ↔
      cs.drop t.pos = [] ∧ Succeeds program cs.toArray { t with pc := next } := by
  have hend : Look.holds cs.toArray t.pos .textEnd = true ↔ cs.drop t.pos = [] := by
    rw [Look.holds, List.getElem?_toArray, Option.isNone_iff_eq_none, List.getElem?_eq_none_iff,
      List.drop_eq_nil_iff]
  rw [succeeds_check_iff h, hend]

end ScriptKeeper.Pattern
