import ScriptKeeper.Proofs.Inspection.Lines
import ScriptKeeper.Proofs.Inspection.Phase

/-!
# One match and all matches

A session looks for one match of a pattern or for all of them, and cuts its document around one
range or around many. The one match is the first of all, or the last if the session searches from
right to left (`SearchSettings.chosen`), so its segment is the same in both decompositions. Only what
stands around it differs: around one match there is nothing but the text before it and the text
behind it, each of which is missing if it is empty (`ShowsMatch`).

* `find?_eq_head?_findAll`: the leftmost match is the first of the successive ones;
* `find_eq_ok`, `chosen_of_findAll`: what each of the two searches shows of the match;
* `find_agrees_findAll`: they show the same, from whatever sessions they start.
-/

namespace ScriptKeeper

/-- The leftmost match of a text is the first of its successive matches. -/
theorem Pattern.find?_eq_head?_findAll (p : Pattern) (text : String) :
    p.find? text = (p.findAll text).head? := by
  rw [find?, findAll, List.head?_map, allMatches, matchesFrom]
  cases searchFrom p.program text.toList.toArray 0 with
  | none => rfl
  | some found =>
    -- No match ends where the first one begins, so this one counts even if it is empty.
    have hcounts : ¬ (found.start = found.stop ∧ none = some found.stop) := by simp
    dsimp only
    rw [if_neg hcounts]
    rfl

namespace Inspection

open Text

/-! ### The match that is chosen -/

/-- Of things in their order, the one to which a search comes first. -/
def SearchSettings.chosen {α : Type} (settings : SearchSettings) (l : List α) : Option α :=
  if settings.rightToLeft then l.getLast? else l.head?

section

variable {α : Type} {settings : SearchSettings} {l : List α}

theorem chosen_eq_none_iff : settings.chosen l = none ↔ l = [] := by
  rw [SearchSettings.chosen]
  split
  · exact List.getLast?_eq_none_iff
  · exact List.head?_eq_none_iff

/-- The place that is chosen depends on the number of things only. -/
theorem exists_chosen (settings : SearchSettings) {n : Nat} (hn : 0 < n) :
    ∃ i < n, ∀ {α : Type} (l : List α), l.length = n → settings.chosen l = l[i]? := by
  cases hdirection : settings.rightToLeft with
  | true =>
    refine ⟨n - 1, Nat.sub_one_lt (Nat.ne_of_gt hn), fun l hl => ?_⟩
    rw [SearchSettings.chosen, if_pos hdirection, List.getLast?_eq_getElem?, hl]
  | false =>
    refine ⟨0, hn, fun l _ => ?_⟩
    rw [SearchSettings.chosen, if_neg (by simp [hdirection]), List.head?_eq_getElem?]

end

/-! ### A document around one match -/

/-- A text as a literal segment, unless it is empty. -/
def literalOf (text : String) : List Segment := if text = "" then [] else [{ text }]

theorem literalSegments_eq_literalOf {document : String} {start stop : Nat}
    (h : (ByteRange.mk start stop).fits document = true) :
    literalSegments document start stop = literalOf (covered document ⟨start, stop⟩) := by
  obtain ⟨hle, _, hstop⟩ := boundaries_of_fits h
  rw [literalSegments, literalOf]
  rcases Nat.eq_or_lt_of_le hle with heq | hlt
  · obtain rfl : start = stop := heq
    rw [if_neg (Nat.lt_irrefl _), if_pos (covered_self hstop)]
  · rw [if_pos hlt, if_neg (covered_ne_empty h hlt)]

namespace Session

variable {s s' t t' : Session} {pattern : String} {p : Pattern} {h : Handle} {c : Captures}

/-- The session shows its document in three parts: the text before a match, the match, which is the
    segment of a handle, and the text behind it. -/
structure ShowsMatch (s : Session) (h : Handle) (g : Segment) : Prop where
  active : s.phase = .active
  parts : ∃ l₁ l₂ before after, s.allSegments = l₁ ++ (h, g) :: l₂ ∧
    l₁.map Prod.snd = literalOf before ∧ l₂.map Prod.snd = literalOf after ∧
    before ++ g.text ++ after = s.document ∧
    g.captures?.map Captures.range =
      some ⟨before.utf8ByteSize, before.utf8ByteSize + g.text.utf8ByteSize⟩

/-- A session whose document is cut around one match shows the match, and gives its handle. -/
theorem exists_showsMatch (hfits : c.range.fits s.document = true)
    (hall : s.allSegments.map Prod.snd =
      segmentsFrom s.document 0 [c]) (pattern : String) :
    ∃ h, Query.pick s.allSegments (.find pattern) = [h] ∧
      (h, matchedSegment s.document c) ∈ s.allSegments ∧
      (s.phase = .active → s.ShowsMatch h (matchedSegment s.document c)) := by
  obtain ⟨hle, hstart, hstop⟩ := boundaries_of_fits hfits
  have hbefore := fits_mk (isBoundary_zero s.document) hstart (Nat.zero_le _)
  have hafter := fits_mk hstop (isBoundary_end s.document) (le_of_isBoundary hstop)
  have htexts : covered s.document ⟨0, c.range.start⟩ ++ covered s.document c.range ++
      covered s.document ⟨c.range.stop, s.document.utf8ByteSize⟩ = s.document := by
    have htogether : covered s.document ⟨0, c.range.start⟩ ++ covered s.document c.range =
        covered s.document ⟨0, c.range.stop⟩ := covered_append hbefore hfits
    rw [htogether, covered_append (fits_mk (isBoundary_zero _) hstop (Nat.zero_le _)) hafter,
      covered_all]
  have hlength : (covered s.document ⟨0, c.range.start⟩).utf8ByteSize = c.range.start := by
    simpa using utf8ByteSize_covered hbefore
  -- The handle is that of the first match, before which there is none.
  obtain ⟨l₁, h, l₂, hsplit, hl₁, hfirst⟩ := getElem?_matches hall rfl
  rw [countP_literalSegments, ← List.head?_eq_getElem?] at hfirst
  refine ⟨h, by rw [Query.pick, hfirst, Option.toList_some],
    hsplit ▸ List.mem_append_right _ List.mem_cons_self, fun hactive =>
    ⟨hactive, l₁, l₂, _, _, hsplit, hl₁.trans (literalSegments_eq_literalOf hbefore), ?_, htexts,
      ?_⟩⟩
  · rw [hsplit, List.map_append, hl₁, segmentsFrom] at hall
    exact (List.cons.inj (List.append_cancel_left hall)).2.trans
      (literalSegments_eq_literalOf hafter)
  · rw [hlength, matchedSegment]
    dsimp only
    rw [utf8ByteSize_covered hfits]
    rfl

/-! ### The two searches -/

/-- The session admits a search for a pattern: it is open, has no decomposition that it would not
    drop by itself, and the pattern can be compiled under its settings. -/
structure Admits (s : Session) (pattern : String) : Prop where
  opened : s.closed = false
  available : s.phase = .idle ∨ s.autoCommit = true
  compiles : ∃ p, s.settings.compile pattern = .ok p

/-- What a search for one match finds in a document. -/
theorem found_eq_chosen (settings : SearchSettings) (p : Pattern) (document : String) :
    (if settings.rightToLeft then (p.findAll document).getLast? else p.find? document) =
      settings.chosen (p.findAll document) := by
  rw [SearchSettings.chosen, Pattern.find?_eq_head?_findAll]

/-- A session that admits a search for a pattern answers every query that only needs the pattern. -/
theorem Admits.exists_query (hadmits : s.Admits pattern) {q : Query}
    (hq : q.fault? s.settings = s.settings.fault? pattern) :
    ∃ hs s', (query q).run s = (.ok hs, s') ∧ (s'.phase = .idle ↔ hs = []) := by
  obtain ⟨p, hp⟩ := hadmits.compiles
  refine (answers hadmits.opened q).granted ?_ hadmits.available
  rw [hq, SearchSettings.fault?, hp]

/-- A handle that is listed with a segment is the handle of that segment. -/
theorem segment_of_mem_allSegments {g : Segment} (hl : s.segments.WellLinked)
    (ho : s.closed = false) (hmem : (h, g) ∈ s.allSegments) : s.segment h = .ok g := by
  obtain ⟨slot, rfl, hget⟩ := (mem_allSegments hl).1 hmem
  exact segment_of_resolve (resolve_eq_ok_iff.2 ⟨ho, rfl, Arena.lt_size_of_get? hget⟩) hget

/-- A search for one match that succeeds finds the one that is chosen of all, and shows it. -/
theorem find_eq_ok {found : Option Handle} (hs : s.Sound)
    (hp : s.settings.compile pattern = .ok p) (hfind : (find pattern).run s = (.ok found, s')) :
    (s.settings.chosen (p.findAll s.document) = none → found = none) ∧
    ∀ m, s.settings.chosen (p.findAll s.document) = some m → ∃ h, found = some h ∧
      (s'.phase = .active →
        s'.ShowsMatch h (matchedSegment s.document (Captures.ofMatch p s.document m))) ∧
      s'.segment h = .ok (matchedSegment s.document (Captures.ofMatch p s.document m)) ∧
      (s.settings.trackLines = true → s'.OnLineOf h m.range.start) := by
  have hquery : (query (.find pattern)).run s = (.ok found.toList, s') := by
    rw [query, run_bind_pure, hfind]
    rfl
  obtain ⟨hopen, _, hdocument⟩ := kept_of_query hquery
  have hstep := step_query (.find pattern) s
  rw [hquery] at hstep
  have hpick := (allSegments_of_query hs hquery).2
  have hsegments := segments_of_query hs hquery
  rw [Query.segments, hp, ok_bind, found_eq_chosen] at hsegments
  constructor
  · intro hnone
    rw [hnone] at hsegments
    have hall : s'.allSegments = [] := List.map_eq_nil_iff.1 (Except.ok.inj hsegments).symm
    rw [hall] at hpick
    exact Option.toList_eq_nil_iff.1 hpick
  · intro m hm
    have hin : InOrder s.document 0 ([Captures.ofMatch p s.document m].map Captures.range) :=
      inOrder_found ((found_eq_chosen s.settings p s.document).trans hm)
    rw [hm] at hsegments
    have hall := (segmentsAround_eq hin (List.cons_ne_nil _ _)).symm.trans hsegments
    rw [← hdocument] at hin hall ⊢
    obtain ⟨h, hpicked, hmem, hshows⟩ := exists_showsMatch hin.2.1 (Except.ok.inj hall).symm pattern
    rw [hpicked] at hpick
    obtain rfl := Option.toList_eq_singleton_iff.1 hpick
    refine ⟨h, rfl, hshows, segment_of_mem_allSegments (hstep.sound hs).linked hopen hmem,
      fun hlines => ?_⟩
    obtain ⟨p', m', hp', hm', _, hline⟩ := onLineOf_of_find hs hlines hfind
    obtain rfl : p' = p := Except.ok.inj (hp'.symm.trans hp)
    rw [found_eq_chosen, hm] at hm'
    cases hm'
    exact hline

/-- A search for all matches that succeeds shows them, if there are any. -/
theorem showsMatches_of_findAll {handles : List Handle} (ht : t.Sound)
    (hp : t.settings.compile pattern = .ok p) (hrun : (findAll pattern).run t = (.ok handles, t')) :
    t'.document = t.document ∧ (p.findAll t.document = [] → handles = []) ∧
      (p.findAll t.document ≠ [] → t'.ShowsMatches p handles) := by
  obtain ⟨p', r, _, hp', hopen, hready, hempty, hcases⟩ := findAll_eq_ok ht hrun
  obtain rfl : p' = p := Except.ok.inj (hp'.symm.trans hp)
  have hdocument := document_of_ready hready
  rcases hcases with ⟨hnone, rfl, rfl⟩ | ⟨hne, rfl, rfl⟩
  · exact ⟨hdocument, fun _ => rfl, fun hne => absurd hnone hne⟩
  · refine ⟨hdocument, fun hnone => absurd hnone hne, fun _ => ?_⟩
    rw [← hdocument]
    exact showsMatches_decompose ((sameRights_of_ready hready).closed.trans hopen) hempty
      (compile_eq_ok hp)

/-- A search for all matches that succeeds gives the handle of the one that is chosen. -/
theorem chosen_of_findAll {handles : List Handle} (settings : SearchSettings) (ht : t.Reachable)
    (hp : t.settings.compile pattern = .ok p) (hrun : (findAll pattern).run t = (.ok handles, t')) :
    (settings.chosen (p.findAll t.document) = none → handles = []) ∧
    ∀ m, settings.chosen (p.findAll t.document) = some m →
      ∃ h, settings.chosen handles = some h ∧
        t'.segment h = .ok (matchedSegment t.document (Captures.ofMatch p t.document m)) ∧
        (t.settings.trackLines = true → t'.OnLineOf h m.range.start) := by
  have hsound := sound_of_reachable ht
  obtain ⟨hdocument, hnone, hsome⟩ := showsMatches_of_findAll hsound hp hrun
  refine ⟨fun h => hnone (chosen_eq_none_iff.1 h), fun m hm => ?_⟩
  have hne : p.findAll t.document ≠ [] := fun h => by
    rw [chosen_eq_none_iff.2 h] at hm
    cases hm
  have hshows := hsome hne
  -- Among the handles and among the matches, the chosen ones have the same number.
  obtain ⟨i, hi, hchosen⟩ := exists_chosen settings (List.length_pos_of_ne_nil hne)
  have hlength := hshows.length
  rw [hdocument] at hlength
  rw [hchosen _ rfl] at hm
  obtain ⟨h, hh⟩ : ∃ h, handles[i]? = some h := ⟨_, List.getElem?_eq_getElem (hlength ▸ hi)⟩
  refine ⟨h, (hchosen _ hlength).trans hh, ?_, fun hlines => ?_⟩
  · rw [← hdocument] at hm ⊢
    obtain ⟨text, htext, hsegment, _⟩ := hshows.matched i h m hh hm
    rw [hsegment, matchedSegment, covered]
    dsimp only [Captures.ofMatch]
    rw [htext, Option.getD_some]
  · obtain ⟨p'', hp'', _, hall⟩ := onLineOf_of_findAll hsound hlines hrun
    obtain rfl : p'' = p := Except.ok.inj (hp''.symm.trans hp)
    obtain ⟨hi₁, rfl⟩ := List.getElem?_eq_some_iff.1 hh
    obtain ⟨hi₂, rfl⟩ := List.getElem?_eq_some_iff.1 hm
    exact (List.forall₂_iff_get.1 hall).2 i hi₁ hi₂

/-- Segments of two documents that are the same begin on the same line if they begin at one
    position. -/
theorem OnLineOf.exists_line {position : Nat} {h' : Handle} (hd : s.document = t.document)
    (h₁ : s.OnLineOf h position) (h₂ : t.OnLineOf h' position) :
    ∃ line, s.lineIndex h = .ok line ∧ t.lineIndex h' = .ok line := by
  obtain ⟨before, hbefore, hline⟩ := h₁
  obtain ⟨before', hbefore', hline'⟩ := h₂
  rw [← hd, hbefore] at hbefore'
  cases hbefore'
  exact ⟨_, hline, hline'⟩

/-- A search for one match finds one if and only if a search for all does, and it is the first of
    all, or the last from right to left. Both show the same text and the same captures, on the same
    line. Around the one match there is nothing but the text before it and the text behind it, in a
    document that has not changed. -/
theorem find_agrees_findAll (hs : s.Reachable) (ht : t.Reachable)
    (hdocument : t.document = s.document)
    (hsettings : t.settings = { s.settings with rightToLeft := false })
    (hadmits : s.Admits pattern) (hadmits' : t.Admits pattern) :
    ∃ found s' handles t', (find pattern).run s = (.ok found, s') ∧
      (findAll pattern).run t = (.ok handles, t') ∧
      s'.document = s.document ∧ t'.document = s.document ∧ (found = none ↔ handles = []) ∧
      ∀ h, found = some h → ∃ h' g,
        (if s.settings.rightToLeft then handles.getLast? else handles.head?) = some h' ∧
        s'.ShowsMatch h g ∧ s'.segment h = .ok g ∧ t'.segment h' = .ok g ∧
        (s.settings.trackLines = true →
          ∃ line, s'.lineIndex h = .ok line ∧ t'.lineIndex h' = .ok line) := by
  have hsound := sound_of_reachable hs
  obtain ⟨hs', s', hquery, hphase⟩ := hadmits.exists_query (q := .find pattern) rfl
  obtain ⟨found, hfind, rfl⟩ := bind_pure_eq_ok hquery
  have hforward : t.settings.rightToLeft = false := by rw [hsettings]
  obtain ⟨handles, t', hrun, _⟩ := hadmits'.exists_query (q := .findAll pattern)
    (by rw [Query.fault?, if_neg (by simp [hforward])])
  have hkept : s'.document = s.document := (kept_of_query hquery).2.2
  have hkept' : t'.document = s.document := (kept_of_query hrun).2.2.trans hdocument
  refine ⟨found, s', handles, t', hfind, hrun, hkept, hkept', ?_⟩
  obtain ⟨p, hp⟩ := hadmits.compiles
  have hp' : t.settings.compile pattern = .ok p := by rw [hsettings, ← hp]; rfl
  obtain ⟨hnone, hsome⟩ := find_eq_ok hsound hp hfind
  obtain ⟨hnone', hsome'⟩ := chosen_of_findAll s.settings ht hp' hrun
  rw [hdocument] at hnone' hsome'
  cases hchosen : s.settings.chosen (p.findAll s.document) with
  | none =>
    rw [hnone hchosen, hnone' hchosen]
    exact ⟨by simp, fun h hh => by cases hh⟩
  | some m =>
    obtain ⟨h, rfl, hshows, hsegment, hline⟩ := hsome m hchosen
    obtain ⟨h', hh', hsegment', hline'⟩ := hsome' m hchosen
    -- What has handles is a decomposition, so the session is active.
    have hactive : s'.phase = .active := by
      cases hp : s'.phase with
      | active => rfl
      | idle => exact absurd (hphase.1 hp) (List.cons_ne_nil _ _)
    have hne : handles ≠ [] := fun h => by
      rw [chosen_eq_none_iff.2 h] at hh'
      cases hh'
    refine ⟨by simp [hne], fun _ heq => ?_⟩
    cases heq
    exact ⟨h', _, hh', hshows hactive, hsegment, hsegment', fun hlines =>
      (hline hlines).exists_line (hkept.trans hkept'.symm)
        (hline' (by rw [hsettings]; exact hlines))⟩

/-- From right to left, the match that is found is the empty one at the very end. -/
theorem find_agrees_findAll_atEnd :
    let s : Session := { ofText ⟨1⟩ "ab" with settings := { rightToLeft := true } }
    let t : Session := ofText ⟨2⟩ "ab"
    s.Admits "a?" ∧ t.Admits "a?" ∧
      ∃ g, ((find "a?").run s).2.ShowsMatch ⟨⟨1⟩, 0, 1⟩ g ∧
        ((findAll "a?").run t).2.segment ⟨⟨2⟩, 0, 2⟩ = .ok g := by
  intro s t
  have hs : s.Reachable :=
    .perform (.changeSettings { rightToLeft := true }) {} (.ofText ⟨1⟩ "ab")
  have hadmits : s.Admits "a?" := ⟨rfl, .inl rfl, _, rfl⟩
  have hadmits' : t.Admits "a?" := ⟨rfl, .inl rfl, _, rfl⟩
  have hfound : ((find "a?").run { ofText ⟨1⟩ "ab" with settings := { rightToLeft := true } }).1 =
      .ok (some ⟨⟨1⟩, 0, 1⟩) := rfl
  have hall : ((findAll "a?").run (ofText ⟨2⟩ "ab")).1 = .ok [⟨⟨2⟩, 0, 0⟩, ⟨⟨2⟩, 0, 2⟩] := rfl
  obtain ⟨_, _, _, _, hfind, hrun, _, _, _, hagree⟩ :=
    find_agrees_findAll hs (.ofText ⟨2⟩ "ab") rfl rfl hadmits hadmits'
  rw [hfind] at hfound
  rw [hrun] at hall
  cases hfound
  cases hall
  obtain ⟨_, g, hlast, hshows, _, hsegment, _⟩ := hagree _ rfl
  cases hlast
  refine ⟨hadmits, hadmits', g, ?_, ?_⟩
  · rw [hfind]
    exact hshows
  · rw [hrun]
    exact hsegment

end Session

end Inspection

end ScriptKeeper
