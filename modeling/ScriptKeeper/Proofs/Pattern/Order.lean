import ScriptKeeper.Pattern.Basic
import ScriptKeeper.Proofs.Text.Bytes

/-!
# Matches come in order

A thread never goes back in the text, so a match ends behind its start (`searchFrom_le`), and each
search begins where the match before it ended: the successive matches in a text come in order
(`inOrder_findAll`).
-/

namespace ScriptKeeper.Pattern

open Text

variable {program : Program} {text : Array Char}

/-! ### Threads -/

/-- An instruction moves a thread on or leaves it where it is. -/
theorem Thread.pos_le_of_mem_step {t t' : Thread} {instr : Instr} (h : t' ∈ t.step text instr) :
    t.pos ≤ t'.pos := by
  cases instr with
  | consume set next =>
    rw [Thread.step] at h
    split at h
    · split at h
      · cases List.mem_singleton.1 h
        exact Nat.le_succ t.pos
      · cases h
    · cases h
  | check look next =>
    rw [Thread.step] at h
    split at h
    · cases List.mem_singleton.1 h
      exact Nat.le_refl t.pos
    · cases h
  | fork preferred other =>
    rcases List.mem_cons.1 h with rfl | h
    · exact Nat.le_refl t.pos
    · cases List.mem_singleton.1 h
      exact Nat.le_refl t.pos
  | save | jump =>
    cases List.mem_singleton.1 h
    exact Nat.le_refl t.pos
  | accept => cases h

/-- The thread that accepts is not before the threads that were run. -/
theorem explore_le {n fuel : Nat} {threads : List Thread} {visited visited' : Visited}
    {t : Thread} (hn : ∀ t ∈ threads, n ≤ t.pos)
    (h : explore program text fuel threads visited = (some t, visited')) : n ≤ t.pos := by
  induction fuel generalizing threads visited with
  | zero => cases h
  | succ fuel ih =>
    cases threads with
    | nil => cases h
    | cons first rest =>
      obtain ⟨hfirst, hrest⟩ := List.forall_mem_cons.1 hn
      rw [explore] at h
      split at h
      · exact ih hrest h
      · dsimp only at h
        split at h
        · exact ih hrest h
        · cases h
          exact hfirst
        · refine ih (fun t' ht' => ?_) h
          rcases List.mem_append.1 ht' with ht' | ht'
          · exact Nat.le_trans hfirst (Thread.pos_le_of_mem_step ht')
          · exact hrest t' ht'

/-! ### Searches -/

/-- A match begins where it was looked for or later, and ends behind its start. -/
theorem tryPositions_le {count start : Nat} {visited : Visited} {found : Found}
    (h : tryPositions program text count start visited = some found) :
    start ≤ found.start ∧ found.start ≤ found.stop := by
  induction count generalizing start visited with
  | zero => cases h
  | succ count ih =>
    rw [tryPositions] at h
    split at h
    · next t _ hexplore =>
      cases h
      exact ⟨Nat.le_refl start, explore_le (by simp) hexplore⟩
    · obtain ⟨hstart, hstop⟩ := ih h
      exact ⟨Nat.le_of_succ_le hstart, hstop⟩

theorem searchFrom_le {start : Nat} {found : Found}
    (h : searchFrom program text start = some found) :
    start ≤ found.start ∧ found.start ≤ found.stop :=
  tryPositions_le h

/-- The first of the matches from a position on was found by a search from there or, where that
    finds an empty match at the end of the last one, from the next position. The others come behind
    it. -/
theorem matchesFrom_eq_cons {bound start : Nat} {last : Option Nat} {found : Found}
    {rest : List Found} (h : matchesFrom program text (bound + 1) start last = found :: rest) :
    rest = matchesFrom program text bound found.stop (some found.stop) ∧
      ∃ s, start ≤ s ∧ searchFrom program text s = some found ∧
        ∀ first, searchFrom program text start = some first → first.start = first.stop →
          last = some first.stop → start < s := by
  rw [matchesFrom] at h
  split at h
  · cases h
  next first hfirst =>
    split at h
    next hagain =>
      split at h
      · cases h
      next second hsecond =>
        cases h
        exact ⟨rfl, start + 1, Nat.le_succ start, hsecond, fun _ _ _ _ => Nat.lt_succ_self start⟩
    next hnew =>
      cases h
      refine ⟨rfl, start, Nat.le_refl start, hfirst, fun f hf hempty hlast => ?_⟩
      obtain rfl := Option.some.inj (hfirst.symm.trans hf)
      exact absurd ⟨hempty, hlast⟩ hnew

/-- The matches come one behind the other from the position `n` on. -/
def InTurn : Nat → List Found → Prop
  | _, [] => True
  | n, found :: rest => n ≤ found.start ∧ found.start ≤ found.stop ∧ InTurn found.stop rest

theorem inTurn_matchesFrom {bound start : Nat} {last : Option Nat} :
    InTurn start (matchesFrom program text bound start last) := by
  induction bound generalizing start last with
  | zero => trivial
  | succ bound ih =>
    cases hm : matchesFrom program text (bound + 1) start last with
    | nil => trivial
    | cons found rest =>
      obtain ⟨rfl, s, hs, hfound, _⟩ := matchesFrom_eq_cons hm
      obtain ⟨hstart, hstop⟩ := searchFrom_le hfound
      exact ⟨Nat.le_trans hs hstart, hstop, ih⟩

/-- Every match was found by a search. -/
theorem exists_searchFrom_of_mem {bound start : Nat} {last : Option Nat} {found : Found}
    (h : found ∈ matchesFrom program text bound start last) :
    ∃ s, searchFrom program text s = some found := by
  induction bound generalizing start last with
  | zero => cases h
  | succ bound ih =>
    cases hm : matchesFrom program text (bound + 1) start last with
    | nil =>
      rw [hm] at h
      cases h
    | cons first rest =>
      obtain ⟨rfl, s, _, hfirst, _⟩ := matchesFrom_eq_cons hm
      rw [hm] at h
      rcases List.mem_cons.1 h with rfl | h
      · exact ⟨s, hfirst⟩
      · exact ih h

/-! ### Ranges -/

theorem byteLength_take_le (cs : List Char) {m n : Nat} (h : m ≤ n) :
    byteLength (cs.take m) ≤ byteLength (cs.take n) := by
  obtain ⟨more, hmore⟩ := List.take_prefix_take_left h (l := cs)
  rw [← hmore, byteLength_append]
  exact Nat.le_add_right _ _

theorem isBoundary_take (s : String) (n : Nat) : isBoundary s (byteLength (s.toList.take n)) :=
  isBoundary_iff.2 ⟨_, _, (List.take_append_drop n s.toList).symm, rfl⟩

/-- The characters of a text up to a position, behind and before an earlier one. -/
theorem take_append_drop_take (cs : List Char) {m n : Nat} (h : m ≤ n) :
    cs.take n = cs.take m ++ (cs.take n).drop m := by
  have htake : (cs.take n).take m = cs.take m := by rw [List.take_take, Nat.min_eq_left h]
  rw [← htake, List.take_append_drop]

/-- A stretch grows by the character behind it. -/
theorem drop_take_succ {cs : List Char} {start pos : Nat} {c : Char} (hc : cs[pos]? = some c)
    (hle : start ≤ pos) :
    (cs.take (pos + 1)).drop start = (cs.take pos).drop start ++ [c] := by
  have hlt := (List.getElem?_eq_some_iff.1 hc).1
  rw [List.take_add_one, hc, Option.toList_some,
    List.drop_append_of_le_length (by rw [List.length_take]; omega)]

/-- The text between two positions. -/
theorem covered_byteRange (document : String) {m n : Nat} (h : m ≤ n) :
    covered document (byteRange document.toList m n) =
      String.ofList ((document.toList.take n).drop m) := by
  have hinside := take_append_drop_take document.toList h
  have hall : document.toList = document.toList.take m ++
      ((document.toList.take n).drop m ++ document.toList.drop n) := by
    rw [← List.append_assoc, ← hinside, List.take_append_drop]
  rw [byteRange, hinside, byteLength_append, ← hinside]
  exact covered_eq hall

/-- The byte range between two positions covers whole characters. -/
theorem fits_byteRange (s : String) {start stop : Nat} (h : start ≤ stop) :
    (byteRange s.toList start stop).fits s = true := by
  rw [byteRange, ByteRange.fits, isBoundary_take, isBoundary_take]
  simpa using byteLength_take_le s.toList h

theorem inOrder_of_inTurn (p : Pattern) (s : String) {n : Nat} {found : List Found}
    (h : InTurn n found) :
    InOrder s (byteLength (s.toList.take n))
      ((found.map (p.matchOf s.toList)).map Match.range) := by
  induction found generalizing n with
  | nil => trivial
  | cons f rest ih =>
    obtain ⟨hstart, hstop, hrest⟩ := h
    exact ⟨byteLength_take_le _ hstart, fits_byteRange s hstop, ih hrest⟩

/-- The successive matches in a text come in order and cover whole characters. -/
theorem inOrder_findAll (p : Pattern) (s : String) :
    InOrder s 0 ((p.findAll s).map Match.range) := by
  have hturn : InTurn 0 (allMatches p.program s.toList.toArray) := inTurn_matchesFrom
  exact inOrder_of_inTurn p s hturn

/-- A match that is found covers whole characters. -/
theorem fits_of_find? {p : Pattern} {s : String} {m : Match} (h : p.find? s = some m) :
    m.range.fits s = true := by
  obtain ⟨found, hfound, rfl⟩ := Option.map_eq_some_iff.1 h
  exact fits_byteRange s (searchFrom_le hfound).2

theorem fits_of_inOrder {s : String} {n : Nat} {ranges : List ByteRange} {r : ByteRange}
    (h : InOrder s n ranges) (hr : r ∈ ranges) : r.fits s = true := by
  induction ranges generalizing n with
  | nil => cases hr
  | cons r' ranges ih =>
    rcases List.mem_cons.1 hr with rfl | hr
    · exact h.2.1
    · exact ih h.2.2 hr

theorem fits_of_mem_findAll {p : Pattern} {s : String} {m : Match} (h : m ∈ p.findAll s) :
    m.range.fits s = true :=
  fits_of_inOrder (p.inOrder_findAll s) (List.mem_map_of_mem h)

end ScriptKeeper.Pattern
