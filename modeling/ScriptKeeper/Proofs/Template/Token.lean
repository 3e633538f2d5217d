import ScriptKeeper.Pattern.Basic
import ScriptKeeper.Proofs.Pattern.Search
import ScriptKeeper.Template.Token

/-!
# Where the tokens are

A percent sign opens a token if another one closes it on the same line. A template is read from left
to right, and falls into tokens and the characters between them (`parts`); put together, the parts
are the template (`source_parts`).

The search for the pattern of tokens finds just these: from a position on, the program of the
pattern takes a token or nothing (`matchesBetween_tokenProgram_iff`), so the successive matches are
the tokens among the parts, one by one (`span_matchesFrom`).
-/

namespace ScriptKeeper.Template

open Pattern

/-! ### The parts of a template -/

/-- Whether a character can stand between the percent signs of a token. -/
def Inside (c : Char) : Prop := c ≠ '%' ∧ c ≠ '\n'

/-- The characters up to a percent sign on the same line, and those behind it. -/
def closing : List Char → Option (List Char × List Char)
  | [] => none
  | c :: cs =>
    if c = '%' then some ([], cs)
    else if c = '\n' then none
    else (closing cs).map fun (name, rest) => (c :: name, rest)

theorem closing_eq_some_iff {cs name rest : List Char} : closing cs = some (name, rest) ↔
    cs = name ++ '%' :: rest ∧ ∀ c ∈ name, Inside c := by
  induction cs generalizing name with
  | nil => simp [closing]
  | cons c cs ih =>
    rw [closing]
    split
    next hc =>
      subst hc
      cases name with
      | nil => simp [eq_comm]
      | cons d name =>
        simp only [Option.some.injEq, Prod.mk.injEq, reduceCtorEq, false_and, false_iff]
        rintro ⟨h, hname⟩
        cases h
        exact (hname '%' List.mem_cons_self).1 rfl
    next hc =>
    split
    next hn =>
      subst hn
      simp only [reduceCtorEq, false_iff]
      rintro ⟨h, hname⟩
      cases name with
      | nil => cases h
      | cons d name =>
        cases h
        exact (hname '\n' List.mem_cons_self).2 rfl
    next hn =>
      rw [Option.map_eq_some_iff]
      constructor
      · rintro ⟨⟨name', rest'⟩, hclosing, heq⟩
        cases heq
        obtain ⟨rfl, hname⟩ := ih.1 hclosing
        exact ⟨rfl, List.forall_mem_cons.2 ⟨⟨hc, hn⟩, hname⟩⟩
      · rintro ⟨h, hname⟩
        cases name with
        | nil => cases h; exact absurd rfl hc
        | cons d name =>
          cases h
          exact ⟨(name, rest), ih.2 ⟨rfl, fun d hd => hname d (List.mem_cons_of_mem c hd)⟩, rfl⟩

theorem length_lt_of_closing {cs name rest : List Char} (h : closing cs = some (name, rest)) :
    rest.length < cs.length := by
  obtain ⟨rfl, _⟩ := closing_eq_some_iff.1 h
  rw [List.length_append, List.length_cons]
  omega

/-- A part of a template. -/
inductive Part
  /-- A character that belongs to no token. -/
  | char (c : Char)
  | token (name : List Char)
  deriving DecidableEq, Repr

/-- The characters of the part in the template. -/
def Part.source : Part → List Char
  | .char c => [c]
  | .token name => '%' :: (name ++ ['%'])

/-- The parts of a template, from left to right. -/
def parts : List Char → List Part
  | [] => []
  | c :: cs =>
    if c = '%' then
      match h : closing cs with
      | some (name, rest) =>
        have := length_lt_of_closing h
        .token name :: parts rest
      | none => .char c :: parts cs
    else .char c :: parts cs
termination_by cs => cs.length
decreasing_by all_goals grind

/-- A token stands at the beginning of a text. -/
def Opens (cs name rest : List Char) : Prop :=
  cs = '%' :: (name ++ '%' :: rest) ∧ ∀ c ∈ name, Inside c

/-- What is behind a token. -/
theorem Opens.drop_stop {cs name rest : List Char} {n : Nat} (h : Opens (cs.drop n) name rest) :
    cs.drop (n + name.length + 2) = rest ∧ n + name.length + 2 ≤ cs.length := by
  have hlength := congrArg List.length h.1
  rw [List.length_drop, List.length_cons, List.length_append, List.length_cons] at hlength
  refine ⟨?_, by omega⟩
  rw [Nat.add_assoc, ← List.drop_drop, h.1, List.drop_succ_cons, ← List.drop_drop, List.drop_left]
  rfl

theorem parts_of_opens {cs name rest : List Char} (h : Opens cs name rest) :
    parts cs = .token name :: parts rest := by
  obtain ⟨rfl, hname⟩ := h
  rw [parts, if_pos rfl]
  split
  next hclosing =>
    rw [closing_eq_some_iff.2 ⟨rfl, hname⟩] at hclosing
    cases hclosing
    rfl
  next hclosing =>
    rw [closing_eq_some_iff.2 ⟨rfl, hname⟩] at hclosing
    cases hclosing

theorem parts_of_not_opens {c : Char} {cs : List Char}
    (h : ∀ name rest, ¬ Opens (c :: cs) name rest) : parts (c :: cs) = .char c :: parts cs := by
  rw [parts]
  split
  next hc =>
    subst hc
    split
    next name rest hclosing =>
      obtain ⟨rfl, hname⟩ := closing_eq_some_iff.1 hclosing
      exact absurd ⟨rfl, hname⟩ (h name rest)
    next => rfl
  next => rfl

/-- A template is empty, or begins with a token, or with a character that opens none. -/
@[elab_as_elim]
theorem parts_induction {motive : List Char → Prop} (nil : motive [])
    (token : ∀ cs name rest, Opens cs name rest → motive rest → motive cs)
    (char : ∀ c cs, (∀ name rest, ¬ Opens (c :: cs) name rest) → motive cs → motive (c :: cs))
    (cs : List Char) : motive cs := by
  induction cs using parts.induct with
  | case1 => exact nil
  | case2 cs name rest h _ ih =>
    obtain ⟨rfl, hname⟩ := closing_eq_some_iff.1 h
    exact token _ name rest ⟨rfl, hname⟩ ih
  | case3 cs h ih =>
    refine char '%' cs (fun name rest ⟨heq, hname⟩ => ?_) ih
    rw [closing_eq_some_iff.2 ⟨(List.cons.inj heq).2, hname⟩] at h
    exact absurd h (by simp)
  | case4 c cs hc ih =>
    exact char c cs (fun name rest ⟨heq, _⟩ => hc (List.cons.inj heq).1) ih

/-- Put together, the parts are the template. -/
theorem source_parts (cs : List Char) : (parts cs).flatMap Part.source = cs := by
  induction cs using parts_induction with
  | nil => rw [parts, List.flatMap_nil]
  | token cs name rest h ih =>
    rw [parts_of_opens h, List.flatMap_cons, ih, Part.source, h.1]
    simp
  | char c cs h ih =>
    rw [parts_of_not_opens h, List.flatMap_cons, ih, Part.source, List.singleton_append]

/-- The leftmost percent sign that can open a token does. -/
example : parts "5% of %A%".toList =
    [.char '5', .token " of ".toList, .char 'A', .char '%'] := by decide +kernel

/-- The name of a token holds no percent signs and no newlines. -/
theorem inside_of_mem_parts {cs name : List Char} (h : .token name ∈ parts cs) :
    ∀ c ∈ name, Inside c := by
  induction cs using parts_induction with
  | nil =>
    rw [parts] at h
    exact absurd h List.not_mem_nil
  | token cs first rest hopens ih =>
    rw [parts_of_opens hopens, List.mem_cons] at h
    rcases h with h | h
    · obtain rfl : name = first := by simpa using h
      exact hopens.2
    · exact ih h
  | char c cs hopens ih =>
    rw [parts_of_not_opens hopens, List.mem_cons] at h
    exact ih (h.resolve_left nofun)

/-! ### The pattern of tokens -/

/-- A percent sign. -/
def percentSet : Unicode.CharSet := ⟨[(37, 37)]⟩

/-- What can stand between the percent signs of a token. -/
def insideSet : Unicode.CharSet := ⟨[(0, 9), (11, 36), (38, Unicode.maxPoint)]⟩

/-- The program of the pattern of tokens. -/
def tokenProgram : Program :=
  #[.consume percentSet 1, .fork 2 3, .consume insideSet 1, .consume percentSet 4, .accept]

theorem compile_tokenPattern :
    compile {} none tokenPattern = .ok ⟨tokenPattern, tokenProgram, [none]⟩ := rfl

theorem contains_percentSet_iff {c : Char} : percentSet.contains c = true ↔ c = '%' :=
  contains_single_iff '%'

theorem contains_insideSet_iff {c : Char} : insideSet.contains c = true ↔ Inside c := by
  rw [Inside, Ne, Ne, ← Char.toNat_inj, ← Char.toNat_inj]
  simp only [insideSet, Unicode.CharSet.contains, Unicode.CharSet.hasPoint,
    Unicode.CharSet.inRanges, Unicode.maxPoint]
  have hpercent : '%'.toNat = 37 := rfl
  have hnewline : '\n'.toNat = 10 := rfl
  have hvalid : c.toNat < 0xd800 ∨ 0xdfff < c.toNat ∧ c.toNat < 0x110000 := c.valid
  grind

/-! ### What the program takes -/

/-- What has to follow in a text for a thread of the program to accept at the position `stop`. -/
def Ahead (cs : List Char) (stop : Nat) (t : Thread) : Prop :=
  match t.pc with
  | 0 => ∃ name rest, Opens (cs.drop t.pos) name rest ∧ stop = t.pos + name.length + 2
  | 1 => ∃ name rest, cs.drop t.pos = name ++ '%' :: rest ∧ (∀ c ∈ name, Inside c) ∧
      stop = t.pos + name.length + 1
  | 2 => ∃ c name rest, cs.drop t.pos = c :: (name ++ '%' :: rest) ∧ Inside c ∧
      (∀ c ∈ name, Inside c) ∧ stop = t.pos + name.length + 2
  | 3 => ∃ rest, cs.drop t.pos = '%' :: rest ∧ stop = t.pos + 1
  | 4 => stop = t.pos
  | _ => False

/-- What is ahead of a thread is ahead of the threads that it was left behind by. -/
theorem ahead_of_moves {cs : List Char} {stop : Nat} {t t' : Thread}
    (hm : Moves tokenProgram cs.toArray t t') (h : Ahead cs stop t') : Ahead cs stop t := by
  obtain ⟨instr, hinstr, hstep⟩ := hm
  obtain ⟨pc, pos, marks⟩ := t
  match pc with
  | 0 =>
    obtain rfl : Instr.consume percentSet 1 = instr := Option.some.inj hinstr
    obtain ⟨c, hc, hset, rfl⟩ := mem_step_consume_iff.1 hstep
    obtain rfl := contains_percentSet_iff.1 hset
    obtain ⟨name, rest, hdrop, hname, rfl⟩ := h
    exact ⟨name, rest, ⟨drop_eq_cons_iff.2 ⟨hc, hdrop⟩, hname⟩, by dsimp only; omega⟩
  | 1 =>
    obtain rfl : Instr.fork 2 3 = instr := Option.some.inj hinstr
    rcases List.mem_cons.1 hstep with rfl | hstep
    · obtain ⟨c, name, rest, hdrop, hc, hname, rfl⟩ := h
      exact ⟨c :: name, rest, hdrop, List.forall_mem_cons.2 ⟨hc, hname⟩, by
        rw [List.length_cons]; dsimp only; omega⟩
    · obtain rfl := List.mem_singleton.1 hstep
      obtain ⟨rest, hdrop, rfl⟩ := h
      exact ⟨[], rest, hdrop, nofun, rfl⟩
  | 2 =>
    obtain rfl : Instr.consume insideSet 1 = instr := Option.some.inj hinstr
    obtain ⟨c, hc, hset, rfl⟩ := mem_step_consume_iff.1 hstep
    obtain ⟨name, rest, hdrop, hname, rfl⟩ := h
    exact ⟨c, name, rest, drop_eq_cons_iff.2 ⟨hc, hdrop⟩, contains_insideSet_iff.1 hset, hname, by
      dsimp only; omega⟩
  | 3 =>
    obtain rfl : Instr.consume percentSet 4 = instr := Option.some.inj hinstr
    obtain ⟨c, hc, hset, rfl⟩ := mem_step_consume_iff.1 hstep
    obtain rfl := contains_percentSet_iff.1 hset
    obtain rfl : stop = pos + 1 := h
    exact ⟨cs.drop (pos + 1), drop_eq_cons_iff.2 ⟨hc, rfl⟩, rfl⟩
  | 4 =>
    obtain rfl : Instr.accept = instr := Option.some.inj hinstr
    exact absurd hstep List.not_mem_nil
  | n + 5 => exact absurd hinstr nofun

theorem ahead_of_leads {cs : List Char} {stop : Nat} {t t' : Thread}
    (hl : Leads tokenProgram cs.toArray t t') (h : Ahead cs stop t') : Ahead cs stop t := by
  induction hl using Relation.ReflTransGen.head_induction_on with
  | refl => exact h
  | head hm _ ih => exact ahead_of_moves hm ih

/-- The program accepts at its last instruction only. -/
theorem pc_of_accepts {t : Thread} (h : Accepts tokenProgram t) : t.pc = 4 := by
  obtain ⟨pc, pos, marks⟩ := t
  match pc with
  | 0 | 1 | 2 | 3 | n + 5 => exact absurd h nofun
  | 4 => rfl

/-- From the character inside a token, a thread comes to the closing percent sign. -/
theorem leads_closing {cs name rest : List Char} {pos : Nat} {marks : List (Nat × Nat)}
    (h : cs.drop pos = name ++ '%' :: rest) (hname : ∀ c ∈ name, Inside c) :
    Leads tokenProgram cs.toArray ⟨1, pos, marks⟩ ⟨4, pos + name.length + 1, marks⟩ := by
  induction name generalizing pos with
  | nil =>
    have hc : cs[pos]? = some '%' := (drop_eq_cons_iff.1 h).1
    have hclose : Moves tokenProgram cs.toArray ⟨3, pos, marks⟩ ⟨4, pos + 1, marks⟩ :=
      ⟨_, rfl, mem_step_consume_iff.2 ⟨'%', hc, contains_percentSet_iff.2 rfl, rfl⟩⟩
    have hfork : Moves tokenProgram cs.toArray ⟨1, pos, marks⟩ ⟨3, pos, marks⟩ :=
      ⟨.fork 2 3, rfl, List.mem_cons_of_mem _ (List.mem_singleton.2 rfl)⟩
    exact .head hfork (.single hclose)
  | cons c name ih =>
    obtain ⟨hc, hdrop⟩ := drop_eq_cons_iff.1 h
    obtain ⟨hinside, hname⟩ := List.forall_mem_cons.1 hname
    have hfork : Moves tokenProgram cs.toArray ⟨1, pos, marks⟩ ⟨2, pos, marks⟩ :=
      ⟨.fork 2 3, rfl, List.mem_cons_self⟩
    have htake : Moves tokenProgram cs.toArray ⟨2, pos, marks⟩ ⟨1, pos + 1, marks⟩ :=
      ⟨_, rfl, mem_step_consume_iff.2 ⟨c, hc, contains_insideSet_iff.2 hinside, rfl⟩⟩
    have hrest := ih hdrop hname
    rw [Nat.add_right_comm pos 1 name.length] at hrest
    exact .head hfork (.head htake hrest)

/-- The program takes a token or nothing. -/
theorem matchesBetween_tokenProgram_iff {cs : List Char} {start stop : Nat} :
    MatchesBetween tokenProgram cs.toArray start stop ↔
      ∃ name rest, Opens (cs.drop start) name rest ∧ stop = start + name.length + 2 := by
  constructor
  · rintro ⟨t, hl, ha, rfl⟩
    have hpc : t.pc = 4 := pc_of_accepts ha
    have hahead : Ahead cs t.pos t := by simp only [Ahead, hpc]
    have hstart : Ahead cs t.pos { pc := 0, pos := start } := ahead_of_leads hl hahead
    exact hstart
  · rintro ⟨name, rest, ⟨hdrop, hname⟩, rfl⟩
    obtain ⟨hc, hrest⟩ := drop_eq_cons_iff.1 hdrop
    have hopen : Moves tokenProgram cs.toArray ⟨0, start, []⟩ ⟨1, start + 1, []⟩ :=
      ⟨_, rfl, mem_step_consume_iff.2 ⟨'%', hc, contains_percentSet_iff.2 rfl, rfl⟩⟩
    exact ⟨_, .head hopen (leads_closing hrest hname), rfl, by dsimp only; omega⟩

/-! ### The successive matches -/

/-- From where to where the tokens among parts go, the first of which begins at the position `n`. -/
def spans : Nat → List Part → List (Nat × Nat)
  | _, [] => []
  | n, .char _ :: ps => spans (n + 1) ps
  | n, .token name :: ps => (n, n + name.length + 2) :: spans (n + name.length + 2) ps

/-- Up to the first token, there are only characters. -/
theorem spans_parts_drop {cs : List Char} {m n : Nat} (hmn : m ≤ n) (hn : n ≤ cs.length)
    (h : ∀ k, m ≤ k → k < n → ∀ name rest, ¬ Opens (cs.drop k) name rest) :
    spans m (parts (cs.drop m)) = spans n (parts (cs.drop n)) := by
  induction hmn with
  | refl => rfl
  | @step n hmn ih =>
    have hlt : n < cs.length := hn
    have hdrop : cs.drop n = cs[n] :: cs.drop (n + 1) := List.drop_eq_getElem_cons hlt
    rw [ih (Nat.le_of_lt hlt) fun k hk hkn => h k hk (Nat.lt_succ_of_lt hkn), hdrop,
      parts_of_not_opens (hdrop ▸ h n hmn (Nat.lt_succ_self n)), spans]

/-- The successive matches from a position on are the tokens from there on. -/
theorem span_matchesFrom {cs : List Char} {bound start : Nat} {last : Option Nat}
    (hstart : start ≤ cs.length) (hbound : cs.length < bound + start) :
    (matchesFrom tokenProgram cs.toArray bound start last).map (fun f => (f.start, f.stop)) =
      spans start (parts (cs.drop start)) := by
  induction bound generalizing start last with
  | zero => omega
  | succ bound ih =>
    rw [matchesFrom]
    split
    next hnone =>
      rw [searchFrom_eq_none_iff] at hnone
      have hskip := spans_parts_drop hstart (Nat.le_refl _) fun k hk hkn name rest hopens =>
        hnone k hk (Nat.le_of_lt hkn) _
          (matchesBetween_tokenProgram_iff.2 ⟨name, rest, hopens, rfl⟩)
      rw [hskip, List.drop_length, parts]
      rfl
    next found hfound =>
      have hleft := leftmost_of_searchFrom hfound
      obtain ⟨name, rest, hopens, hstop⟩ := matchesBetween_tokenProgram_iff.1 hleft.matched
      have hskip := spans_parts_drop hleft.le hleft.inText fun k hk hkn name rest hopens =>
        hleft.first k hk hkn _ (matchesBetween_tokenProgram_iff.2 ⟨name, rest, hopens, rfl⟩)
      obtain ⟨hrest, hlength⟩ := hopens.drop_stop
      rw [← hstop] at hrest hlength
      have hle := hleft.le
      -- A token is not empty, so the search goes on where it ends.
      rw [if_neg (by omega), List.map_cons, ih hlength (by omega), hskip, parts_of_opens hopens,
        spans, hrest, hstop]

end ScriptKeeper.Template
