import ScriptKeeper.Proofs.Inspection.Generation
import ScriptKeeper.Proofs.Inspection.Listing
import ScriptKeeper.Proofs.Inspection.Pieces
import ScriptKeeper.Proofs.Pattern.Groups

/-!
# The decomposition around all matches

A document that is decomposed around all matches of a pattern shows each match in a segment of its
own, with what the groups captured there, and between the matches what is left of the document
(`ShowsMatches`). Handles, segments, captures and matches are four lists, and the one index that
runs through all of them is the number of the match: the segments are split at the match of that
number (`segmentsFrom_split`), and the matches before it are counted (`getElem?_pick`).

* `reads_ofMatch`: what the groups of a match captured;
* `findAll_eq_ok`: what a query for all matches does when it succeeds;
* `segment_afterEdits`: edits leave the captures of a segment as they are;
* `findAll_decomposes`: all of it, from whatever session the query starts.
-/

namespace ScriptKeeper.Inspection

open Text

/-! ### Captures -/

/-- What the groups of a match captured in a document: one place for each group of the pattern, of
    which the first is the whole match. -/
structure Captures.Reads (c : Captures) (p : Pattern) (document : String) (m : Pattern.Match) :
    Prop where
  range : c.range = m.range
  count : c.groups.length = p.groupNames.length
  whole : c.group? 0 = m.range.slice? document
  ranges : c.groups.map (Option.map CapturedGroup.range) = m.groups
  names : ∀ (i : Nat) (g : CapturedGroup), c.groups[i]? = some (some g) →
    p.groupNames[i]? = some g.name
  texts : ∀ g : CapturedGroup, some g ∈ c.groups → g.range.slice? document = some g.text

theorem filterMap_zipIdx_groups (groups : List (Option CapturedGroup)) (n : Nat) :
    ((groups.zipIdx n).filterMap fun (g, index) => g.map (index, ·)).filterMap
        (fun (_, g) => g.name.map (·, g.text)) =
      groups.filterMap fun g => g.bind fun g => g.name.map (·, g.text) := by
  induction groups generalizing n with
  | nil => rfl
  | cons g groups ih =>
    cases g with
    | none => simpa using ih (n + 1)
    | some g =>
      rw [List.zipIdx_cons, List.filterMap_cons]
      cases hg : g.name with
      | none => simpa [hg] using ih (n + 1)
      | some name => simpa [hg] using ih (n + 1)

/-- The named groups that took part are found without counting the groups. -/
theorem Captures.namedGroups_eq (c : Captures) :
    c.namedGroups = c.groups.filterMap fun g => g.bind fun g => g.name.map (·, g.text) :=
  filterMap_zipIdx_groups c.groups 0

section

variable {flags : Pattern.Flags} {limit : Option Nat} {source document : String} {p : Pattern}
  {m : Pattern.Match}

theorem groupNames_pos (hp : Pattern.compile flags limit source = .ok p) :
    0 < p.groupNames.length := by
  obtain ⟨e, -, hnames⟩ := Pattern.exists_expr_of_compile hp
  rw [hnames]
  simp [Pattern.Expr.groupNames]

theorem length_groups_of_mem_findAll (hm : m ∈ p.findAll document) :
    m.groups.length = p.groupNames.length := by
  obtain ⟨found, -, rfl⟩ := List.mem_map.1 hm
  simp [Pattern.matchOf]

theorem head?_groups_of_mem_findAll (hpos : 0 < p.groupNames.length)
    (hm : m ∈ p.findAll document) : m.groups[0]? = some (some m.range) := by
  obtain ⟨found, -, rfl⟩ := List.mem_map.1 hm
  simp [Pattern.matchOf, hpos]

/-- A group that took part has its own name, and its text is that of its range. -/
theorem exists_of_getElem?_groups {i : Nat} {g : CapturedGroup}
    (h : (Captures.ofMatch p document m).groups[i]? = some (some g)) :
    p.groupNames[i]? = some g.name ∧ m.groups[i]? = some (some g.range) ∧
      g.text = covered document g.range := by
  obtain ⟨⟨name, range⟩, hzip, hg⟩ := Option.map_eq_some_iff.1 (List.getElem?_map ▸ h)
  obtain ⟨hname, hrange⟩ := List.getElem?_zip_eq_some.1 hzip
  obtain ⟨r, rfl, rfl⟩ := Option.map_eq_some_iff.1 hg
  exact ⟨hname, hrange, rfl⟩

/-- The captures of a match are those of its groups. -/
theorem reads_ofMatch (hp : Pattern.compile flags limit source = .ok p)
    (hm : m ∈ p.findAll document) : (Captures.ofMatch p document m).Reads p document m := by
  have hlength := length_groups_of_mem_findAll hm
  have hpos := groupNames_pos hp
  have hrange : m.range.fits document = true := Pattern.fits_of_mem_findAll hm
  refine ⟨rfl, ?_, ?_, ?_, fun i g hg => (exists_of_getElem?_groups hg).1, fun g hg => ?_⟩
  · rw [Captures.ofMatch, List.length_map, List.length_zip, hlength, Nat.min_self]
  · have hzip : (p.groupNames.zip m.groups)[0]? = some (p.groupNames[0], some m.range) :=
      List.getElem?_zip_eq_some.2
        ⟨List.getElem?_eq_getElem hpos, head?_groups_of_mem_findAll hpos hm⟩
    rw [Captures.group?, Captures.ofMatch, List.getElem?_map, hzip, slice?_eq_covered hrange]
    rfl
  · have hsnd : (p.groupNames.zip m.groups).map Prod.snd = m.groups :=
      List.map_snd_zip (Nat.le_of_eq hlength)
    rw [Captures.ofMatch, List.map_map]
    nth_rewrite 2 [← hsnd]
    refine List.map_congr_left fun x _ => ?_
    cases hx : x.2 <;> simp [hx]
  · obtain ⟨i, hi⟩ := List.mem_iff_getElem?.1 hg
    obtain ⟨_, hgroup, htext⟩ := exists_of_getElem?_groups hi
    rw [htext]
    exact slice?_eq_covered
      (Pattern.fits_of_mem_groups hp hm (List.mem_iff_getElem?.2 ⟨i, hgroup⟩))

end

/-! ### The segments around matches -/

section

variable {document : String} {cursor start stop : Nat} {captures : List Captures} {c : Captures}

theorem covered_ne_empty (h : (ByteRange.mk start stop).fits document = true) (hlt : start < stop) :
    covered document ⟨start, stop⟩ ≠ "" := by
  obtain ⟨first, inside, rest, hdocument, heq⟩ := exists_of_fits h
  obtain ⟨rfl, rfl⟩ := ByteRange.mk.inj heq
  rw [covered_eq hdocument]
  rintro hempty
  have hinside : inside = [] := by simpa using congrArg String.toList hempty
  rw [hinside] at hlt
  exact absurd hlt (Nat.lt_irrefl _)

/-- A segment that is no match is literal and not empty. -/
theorem literal_of_mem_literalSegments {g : Segment} (hstart : isBoundary document start = true)
    (hstop : isBoundary document stop = true) (hg : g ∈ literalSegments document start stop) :
    g.origin = .literal ∧ g.text ≠ "" := by
  rw [literalSegments] at hg
  split at hg
  next hlt =>
    cases List.mem_singleton.1 hg
    exact ⟨rfl, covered_ne_empty (fits_mk hstart hstop (Nat.le_of_lt hlt)) hlt⟩
  next => cases hg

theorem literal_of_mem_segmentsFrom {g : Segment} (hcursor : isBoundary document cursor = true)
    (h : InOrder document cursor (captures.map Captures.range))
    (hg : g ∈ segmentsFrom document cursor captures) (hm : g.isMatch = false) :
    g.origin = .literal ∧ g.text ≠ "" := by
  induction captures generalizing cursor with
  | nil => exact literal_of_mem_literalSegments hcursor (isBoundary_end document) hg
  | cons c captures ih =>
    obtain ⟨_, hfits, hrest⟩ := h
    obtain ⟨_, hstart, hstop⟩ := boundaries_of_fits hfits
    rcases List.mem_append.1 hg with hg | hg
    · exact literal_of_mem_literalSegments hcursor hstart hg
    rcases List.mem_cons.1 hg with rfl | hg
    · cases hm
    · exact ih hstop hrest hg

/-- Of two neighbours, one is a match. -/
theorem isChain_segmentsFrom : (segmentsFrom document cursor captures).IsChain fun x y =>
    x.isMatch = true ∨ y.isMatch = true := by
  induction captures generalizing cursor with
  | nil =>
    rw [segmentsFrom, literalSegments]
    split
    · exact List.isChain_singleton _
    · exact List.isChain_nil
  | cons c captures ih =>
    have hrest : (matchedSegment document c :: segmentsFrom document c.range.stop captures).IsChain
        fun x y => x.isMatch = true ∨ y.isMatch = true := ih.cons fun _ _ => .inl rfl
    rw [segmentsFrom, literalSegments]
    split
    · exact List.isChain_cons_cons.2 ⟨.inr rfl, hrest⟩
    · exact hrest

theorem countP_literalSegments :
    (literalSegments document start stop).countP Segment.isMatch = 0 := by
  rw [literalSegments]
  split <;> rfl

/-- There are as many matches as captures. -/
theorem countP_segmentsFrom :
    (segmentsFrom document cursor captures).countP Segment.isMatch = captures.length := by
  induction captures generalizing cursor with
  | nil => exact countP_literalSegments
  | cons c captures ih =>
    rw [segmentsFrom, List.countP_append, countP_literalSegments, List.countP_cons_of_pos rfl, ih,
      List.length_cons, Nat.zero_add]

/-- The segments are split at the match of the number `i`: behind `i` matches, the last of which
    stands right before the text up to this one, if there is any. If the matches are in order, what
    stands before this one is the text up to where it begins. -/
theorem segmentsFrom_split (document : String) (cursor : Nat) {i : Nat}
    (h : captures[i]? = some c) : ∃ before literal after,
      literal = literalSegments document (endBefore cursor (captures.map Captures.range) i)
        c.range.start ∧
      segmentsFrom document cursor captures =
        before ++ (literal ++ matchedSegment document c :: after) ∧
      before.countP Segment.isMatch = i ∧ (i = 0 → before = []) ∧
      (0 < i → ∃ l g, before = l ++ [g] ∧ g.isMatch = true) ∧
      (isBoundary document cursor = true →
        InOrder document cursor (captures.map Captures.range) →
        (ByteRange.mk cursor c.range.start).fits document = true ∧
          String.join ((before ++ literal).map Segment.text) =
            covered document ⟨cursor, c.range.start⟩) := by
  -- The rest is cut from where the first match ends, which is another position.
  induction captures generalizing cursor i with
  | nil => cases h
  | cons c₀ captures ih =>
    cases i with
    | zero =>
      cases h
      refine ⟨[], _, _, rfl, rfl, rfl, fun _ => rfl, fun hi => absurd hi (Nat.lt_irrefl _),
        fun hcursor hin => ?_⟩
      obtain ⟨hle, hfits, _⟩ := hin
      obtain ⟨_, hstart, _⟩ := boundaries_of_fits hfits
      exact ⟨fits_mk hcursor hstart hle, join_literalSegments hstart hle⟩
    | succ i =>
      -- The first match and the text before it come in front, which is one match more.
      obtain ⟨before, literal, after, hliteral, heq, hcount, hzero, hlast, htext⟩ :=
        ih c₀.range.stop h
      have hi : i < (captures.map Captures.range).length := by
        rw [List.length_map]
        exact Nat.lt_of_succ_lt_succ (List.getElem?_eq_some_iff.1 h).1
      refine ⟨literalSegments document cursor c₀.range.start ++
        matchedSegment document c₀ :: before, literal, after, ?_, ?_, ?_, nofun, fun _ => ?_,
        fun hcursor hin => ?_⟩
      · rw [hliteral, List.map_cons, endBefore_cons hi]
      · rw [segmentsFrom, heq, List.append_assoc, List.cons_append]
      · rw [List.countP_append, countP_literalSegments, List.countP_cons_of_pos rfl, hcount,
          Nat.zero_add]
      · rcases Nat.eq_zero_or_pos i with rfl | hi
        · rw [hzero rfl]
          exact ⟨_, _, rfl, rfl⟩
        · obtain ⟨l, g, rfl, hg⟩ := hlast hi
          exact ⟨literalSegments document cursor c₀.range.start ++ matchedSegment document c₀ :: l,
            g, by simp, hg⟩
      · obtain ⟨hle, hfits, hrest⟩ := hin
        obtain ⟨hlength, hstart, hstop⟩ := boundaries_of_fits hfits
        obtain ⟨hbetween, htext⟩ := htext hstop hrest
        obtain ⟨hle', _, hstart'⟩ := boundaries_of_fits hbetween
        refine ⟨fits_mk hcursor hstart' (hle.trans (hlength.trans hle')), ?_⟩
        -- The text up to the first match, that match, and the text from there on touch.
        have hmatched : covered document c₀.range ++
            covered document ⟨c₀.range.stop, c.range.start⟩ =
              covered document ⟨c₀.range.start, c.range.start⟩ := covered_append hfits hbetween
        rw [List.append_assoc, List.cons_append, List.map_append, List.map_cons,
          String.join_append, String.join_cons, join_literalSegments hstart hle, htext,
          matchedSegment, hmatched]
        exact covered_append (fits_mk hcursor hstart hle) (fits_mk hstart hstart'
          (hlength.trans hle'))

end

/-! ### The handles of matches -/

namespace Session

variable {s s' r : Session} {pattern : String} {p : Pattern} {h : Handle} {g : Segment}

theorem getElem?_filter_zipIdx (before after : List Segment) (hg : g.isMatch = true) (n : Nat) :
    (((before ++ g :: after).zipIdx n).filter fun x => x.1.isMatch)[
      before.countP Segment.isMatch]? = some (g, n + before.length) := by
  induction before generalizing n with
  | nil => simp [List.zipIdx_cons, hg]
  | cons x before ih =>
    have hrest := ih (n + 1)
    rw [Nat.add_assoc, Nat.add_comm 1] at hrest
    cases hx : x.isMatch <;> simpa [List.zipIdx_cons, hx] using hrest

/-- Behind as many matches, the handle of that number is the one of the match. -/
theorem getElem?_pick (pattern : String) (before after : List Segment)
    (hempty : s.segments = .empty) (hg : g.isMatch = true) :
    (Query.pick (s.numbered (before ++ g :: after)) (.findAll pattern))[
      before.countP Segment.isMatch]? = some (s.handle before.length) := by
  rw [Query.pick, numbered, hempty, List.filter_map, List.map_map, List.getElem?_map]
  have hget := getElem?_filter_zipIdx before after hg 0
  rw [Nat.zero_add] at hget
  exact congrArg _ hget

theorem length_pick (segments : List Segment) :
    (Query.pick (s.numbered segments) (.findAll pattern)).length =
      segments.countP Segment.isMatch := by
  rw [Query.pick, numbered, List.length_map, ← List.countP_eq_length_filter, List.countP_map]
  nth_rewrite 2 [← List.zipIdx_map_fst s.segments.size segments]
  rw [List.countP_map]
  rfl

/-- The handles that are not given are those of segments that are no matches. -/
theorem isMatch_of_not_mem_pick {segments : List (Handle × Segment)} {x : Handle × Segment}
    (hx : x ∈ segments) (hnot : x.1 ∉ Query.pick segments (.findAll pattern)) :
    x.2.isMatch = false := by
  by_contra hm
  exact hnot (List.mem_map_of_mem (List.mem_filter.2 ⟨hx, by simpa using hm⟩))

/-! ### Edits -/

/-- The session after edits, some of which may fail. -/
def afterEdits (s : Session) (edits : List Edit) : Session :=
  edits.foldl (fun s e => ((edit e).run s).2) s

theorem segment_eq_ok_iff : s.segment h = .ok g ↔
    ∃ slot, s.resolve h = .ok slot ∧ s.segments.get? slot = some g := by
  constructor
  · intro hg
    obtain ⟨slot, hslot, hg⟩ := bind_eq_ok_iff.1 hg
    split at hg
    next hget => cases hg; exact ⟨slot, hslot, hget⟩
    next => cases hg
  · rintro ⟨slot, hslot, hget⟩
    exact segment_of_resolve hslot hget

/-- Whatever an edit does, a segment keeps its handle and its origin. -/
theorem segment_edit (hg : s.segment h = .ok g) (e : Edit) :
    ∃ text, ((edit e).run s).2.segment h = .ok { g with text } := by
  rw [run_edit]
  split
  next slot arena he =>
    obtain ⟨x, hx, hget⟩ := segment_eq_ok_iff.1 hg
    obtain ⟨hopen, rfl, _⟩ := resolve_eq_ok_iff.1 hx
    -- The segment is still in its slot, so the handle is still good.
    have hkept := get?_edited he hget
    exact ⟨_, segment_eq_ok_iff.2
      ⟨x, resolve_eq_ok_iff.2 ⟨hopen, rfl, Arena.lt_size_of_get? hkept⟩, hkept⟩⟩
  next => exact ⟨g.text, hg⟩

theorem segment_afterEdits (hg : s.segment h = .ok g) (edits : List Edit) :
    ∃ text, (s.afterEdits edits).segment h = .ok { g with text } := by
  induction edits generalizing s g with
  | nil => exact ⟨g.text, hg⟩
  | cons e edits ih =>
    obtain ⟨text, htext⟩ := segment_edit hg e
    exact ih (g := { g with text }) htext

/-! ### The query -/

/-- What a session shows of its document when it is cut around all matches of a pattern. -/
structure ShowsMatches (s : Session) (p : Pattern) (handles : List Handle) : Prop where
  active : s.phase = .active
  /-- There is one handle for each match, -/
  length : handles.length = (p.findAll s.document).length
  /-- and the handles are those of the segments from matches, in the order of the document. -/
  given : handles = (s.allSegments.filter fun x => x.2.isMatch).map Prod.fst
  join : String.join (s.allSegments.map fun x => x.2.text) = s.document
  literal : ∀ x ∈ s.allSegments, x.1 ∉ handles → x.2.origin = .literal ∧ x.2.text ≠ ""
  apart : s.allSegments.IsChain fun x y => x.1 ∈ handles ∨ y.1 ∈ handles
  matched : ∀ (i : Nat) h m, handles[i]? = some h → (p.findAll s.document)[i]? = some m →
    ∃ text, m.range.slice? s.document = some text ∧
      s.segment h = .ok { text, origin := .matched (Captures.ofMatch p s.document m) } ∧
      (Captures.ofMatch p s.document m).Reads p s.document m
  /-- Before a match stands what lies between it and the match before, and if nothing does, that
      match. -/
  previous : ∀ (i : Nat) h m, handles[i]? = some h → (p.findAll s.document)[i]? = some m →
    let stop := endBefore 0 ((p.findAll s.document).map Pattern.Match.range) i
    if stop < m.range.start then ∃ h' text, s.previous h = .ok (some h') ∧
      s.segment h' = .ok { text } ∧
      (ByteRange.mk stop m.range.start).slice? s.document = some text
    else s.previous h = .ok (if i = 0 then none else handles[i - 1]?)

/-- The segments of a document around all matches of a pattern. -/
def segmentsAroundAll (p : Pattern) (document : String) : List Segment :=
  segmentsFrom document 0 ((p.findAll document).map (Captures.ofMatch p document))

/-- A query for all matches that succeeds has made the session ready, and has decomposed the
    document unless there are no matches. -/
theorem findAll_eq_ok {handles : List Handle} (hsound : s.Sound)
    (h : (findAll pattern).run s = (.ok handles, s')) :
    ∃ p r, s.settings.rightToLeft = false ∧ s.settings.compile pattern = .ok p ∧
      s.closed = false ∧ s.ready = .ok r ∧ r.segments = .empty ∧
      (p.findAll s.document = [] ∧ handles = [] ∧ s' = r ∨
        p.findAll s.document ≠ [] ∧ s' = r.decompose (segmentsAroundAll p s.document) ∧
          handles =
            Query.pick (r.numbered (segmentsAroundAll p s.document)) (.findAll pattern)) := by
  have hquery : (query (.findAll pattern)).run s = (.ok handles, s') := h
  rw [run_query] at hquery
  split at hquery
  next segments r hplan =>
    obtain ⟨hopen, hsegments, hready⟩ := plan_eq_ok hplan
    rw [Query.segments] at hsegments
    split at hsegments
    · cases hsegments
    next hright =>
    obtain ⟨p, hp, haround⟩ := bind_eq_ok_iff.1 hsegments
    refine ⟨p, r, by simpa using hright, hp, ensureOpen_eq_ok_iff.1 hopen, hready,
      hsound.ready hready, ?_⟩
    by_cases hnone : p.findAll s.document = []
    · rw [hnone] at haround
      cases haround
      cases hquery
      exact .inl ⟨hnone, rfl, rfl⟩
    · have hne : (p.findAll s.document).map (Captures.ofMatch p s.document) ≠ [] := by
        simpa using hnone
      rw [segmentsAround_eq (inOrder_captures p s.document) hne] at haround
      cases haround
      rw [if_neg (segmentsFrom_ne_nil _ _ hne)] at hquery
      cases hquery
      exact .inr ⟨hnone, rfl, rfl⟩
  next => cases hquery

/-! ### What is shown -/

section

variable {flags : Pattern.Flags} {limit : Option Nat} {source : String} {i : Nat}
  {m : Pattern.Match}

theorem isBoundary_endBefore {document : String} {ranges : List ByteRange}
    (h : InOrder document 0 ranges) (i : Nat) :
    isBoundary document (endBefore 0 ranges i) = true := by
  cases i with
  | zero => exact isBoundary_zero document
  | succ i =>
    rw [endBefore]
    cases hr : ranges[i]? with
    | none => exact isBoundary_zero document
    | some range =>
      exact (boundaries_of_fits (Pattern.fits_of_inOrder h (List.mem_of_getElem? hr))).2.2

/-- Where the handle of a match stands: behind the match before, if there is one, and the text
    between them, if there is any. -/
theorem exists_place (hempty : r.segments = .empty)
    (hh : (Query.pick (r.numbered (segmentsAroundAll p r.document)) (.findAll pattern))[i]? =
      some h)
    (hm : (p.findAll r.document)[i]? = some m) :
    let handles := Query.pick (r.numbered (segmentsAroundAll p r.document)) (.findAll pattern)
    let literal := literalSegments r.document
      (endBefore 0 ((p.findAll r.document).map Pattern.Match.range) i) m.range.start
    ∃ before after, segmentsAroundAll p r.document = before ++ (literal ++
        matchedSegment r.document (Captures.ofMatch p r.document m) :: after) ∧
      h = r.handle (before ++ literal).length ∧ (i = 0 → before = []) ∧
      (0 < i → ∃ l g, before = l ++ [g] ∧ handles[i - 1]? = some (r.handle l.length)) := by
  intro handles literal
  have hc : ((p.findAll r.document).map (Captures.ofMatch p r.document))[i]? =
      some (Captures.ofMatch p r.document m) := by rw [List.getElem?_map, hm]; rfl
  obtain ⟨before, _, after, rfl, heq, hcount, hzero, hlast, _⟩ :=
    segmentsFrom_split r.document 0 hc
  rw [List.map_map] at heq
  have hsegments : segmentsAroundAll p r.document = before ++ (literal ++
      matchedSegment r.document (Captures.ofMatch p r.document m) :: after) := heq
  refine ⟨before, after, hsegments, ?_, hzero, fun hi => ?_⟩
  · have hget := getElem?_pick pattern (before ++ literal) after hempty
      (g := matchedSegment r.document (Captures.ofMatch p r.document m)) rfl
    rw [List.countP_append, hcount, countP_literalSegments, List.append_assoc, ← hsegments,
      Nat.add_zero, hh] at hget
    exact Option.some.inj hget
  · obtain ⟨l, g, rfl, hg⟩ := hlast hi
    have hget := getElem?_pick pattern l (literal ++
      matchedSegment r.document (Captures.ofMatch p r.document m) :: after) hempty hg
    rw [List.countP_append, List.countP_singleton, hg, if_pos rfl] at hcount
    rw [List.append_assoc, List.singleton_append] at hsegments
    rw [← hsegments, show l.countP Segment.isMatch = i - 1 by omega] at hget
    exact ⟨l, g, rfl, hget⟩

theorem segment_decompose (ho : r.closed = false) (hempty : r.segments = .empty)
    (hp : Pattern.compile flags limit source = .ok p)
    (hh : (Query.pick (r.numbered (segmentsAroundAll p r.document)) (.findAll pattern))[i]? =
      some h)
    (hm : (p.findAll r.document)[i]? = some m) :
    ∃ text, m.range.slice? r.document = some text ∧
      (r.decompose (segmentsAroundAll p r.document)).segment h =
        .ok { text, origin := .matched (Captures.ofMatch p r.document m) } ∧
      (Captures.ofMatch p r.document m).Reads p r.document m := by
  have hshows := shows_decompose ho hempty (segmentsAroundAll p r.document)
  obtain ⟨before, after, hsegments, rfl, _⟩ := exists_place hempty hh hm
  rw [hsegments, ← List.append_assoc] at hshows ⊢
  have hmem := List.mem_of_getElem? hm
  exact ⟨_, slice?_eq_covered (Pattern.fits_of_mem_findAll hmem), hshows.segment,
    reads_ofMatch hp hmem⟩

theorem previous_decompose (ho : r.closed = false) (hempty : r.segments = .empty)
    (hh : (Query.pick (r.numbered (segmentsAroundAll p r.document)) (.findAll pattern))[i]? =
      some h)
    (hm : (p.findAll r.document)[i]? = some m) :
    let handles := Query.pick (r.numbered (segmentsAroundAll p r.document)) (.findAll pattern)
    let s := r.decompose (segmentsAroundAll p r.document)
    let stop := endBefore 0 ((p.findAll r.document).map Pattern.Match.range) i
    if stop < m.range.start then ∃ h' text, s.previous h = .ok (some h') ∧
      s.segment h' = .ok { text } ∧
      (ByteRange.mk stop m.range.start).slice? r.document = some text
    else s.previous h = .ok (if i = 0 then none else handles[i - 1]?) := by
  intro handles s stop
  have hshows : s.Shows (segmentsAroundAll p r.document) := shows_decompose ho hempty _
  obtain ⟨before, after, hsegments, rfl, hfirst, hlast⟩ := exists_place hempty hh hm
  have hstop : isBoundary r.document stop = true :=
    isBoundary_endBefore (p.inOrder_findAll r.document) i
  rw [hsegments] at hshows
  rw [literalSegments]
  split
  next hlt =>
    rw [literalSegments, if_pos hlt, List.singleton_append] at hshows
    have hmatch : s.Shows ((before ++ [{ text := covered r.document ⟨stop, m.range.start⟩ }]) ++
        matchedSegment r.document (Captures.ofMatch p r.document m) :: after) := by
      rw [List.append_assoc]
      exact hshows
    obtain ⟨_, hstart, _⟩ :=
      boundaries_of_fits (Pattern.fits_of_mem_findAll (List.mem_of_getElem? hm))
    refine ⟨s.handle before.length, _, ?_, hshows.segment,
      slice?_eq_covered (fits_mk hstop hstart (Nat.le_of_lt hlt))⟩
    refine hmatch.previous.trans ?_
    rw [List.length_append, List.length_singleton, List.range_succ, List.getLast?_concat]
    rfl
  next hge =>
    rw [literalSegments, if_neg hge, List.nil_append] at hshows
    rw [List.append_nil]
    refine hshows.previous.trans ?_
    rcases Nat.eq_zero_or_pos i with rfl | hi
    · rw [hfirst rfl]
      rfl
    · obtain ⟨l, g, rfl, hget⟩ := hlast hi
      rw [if_neg (Nat.ne_of_gt hi), hget, List.length_append, List.length_singleton,
        List.range_succ, List.getLast?_concat]
      rfl

/-- Cut around all matches of a pattern, a document shows them. -/
theorem showsMatches_decompose (ho : r.closed = false) (hempty : r.segments = .empty)
    (hp : Pattern.compile flags limit source = .ok p) :
    (r.decompose (segmentsAroundAll p r.document)).ShowsMatches p
      (Query.pick (r.numbered (segmentsAroundAll p r.document)) (.findAll pattern)) := by
  have hall := allSegments_decompose hempty (segmentsAroundAll p r.document)
  have hin := inOrder_captures p r.document
  have hzero := isBoundary_zero r.document
  have hsnd := map_snd_numbered r (segmentsAroundAll p r.document)
  have hdocument : (r.decompose (segmentsAroundAll p r.document)).document = r.document := rfl
  constructor
  case active => rfl
  case length =>
    rw [hdocument, length_pick, segmentsAroundAll, countP_segmentsFrom, List.length_map]
  case given => rw [hall, Query.pick]
  case matched =>
    rw [hdocument]
    exact fun i h m hh hm => segment_decompose ho hempty hp hh hm
  case previous =>
    rw [hdocument]
    exact fun i h m hh hm => previous_decompose ho hempty hh hm
  case join =>
    have htexts : (r.numbered (segmentsAroundAll p r.document)).map (fun x => x.2.text) =
        (segmentsAroundAll p r.document).map Segment.text := by
      nth_rewrite 2 [← hsnd]
      rw [List.map_map]
      rfl
    rw [hall, htexts]
    exact (join_segmentsFrom hzero hin).trans (covered_all r.document)
  case literal =>
    intro x hx hnot
    rw [hall] at hx
    have hmem : x.2 ∈ segmentsAroundAll p r.document := by
      rw [← hsnd]
      exact List.mem_map_of_mem hx
    exact literal_of_mem_segmentsFrom hzero hin hmem (isMatch_of_not_mem_pick hx hnot)
  case apart =>
    have hchain : (segmentsAroundAll p r.document).IsChain fun x y =>
        x.isMatch = true ∨ y.isMatch = true := isChain_segmentsFrom
    rw [← hsnd, List.isChain_map] at hchain
    rw [hall]
    refine hchain.imp_of_mem_imp fun x y hx hy hxy => ?_
    by_contra hnot
    obtain ⟨hxnot, hynot⟩ := not_or.1 hnot
    rw [isMatch_of_not_mem_pick hx hxnot, isMatch_of_not_mem_pick hy hynot] at hxy
    simp at hxy

end

/-! ### From any session -/

theorem compile_eq_ok {settings : SearchSettings} (h : settings.compile pattern = .ok p) :
    Pattern.compile settings.flags settings.sizeLimit pattern = .ok p := by
  rw [SearchSettings.compile] at h
  split at h
  next hc => cases h; exact hc
  next => cases h

theorem map_slot_pick {t : Session} (hs : s.segments = .empty) (ht : t.segments = .empty)
    (segments : List Segment) :
    (Query.pick (s.numbered segments) (.findAll pattern)).map Handle.slot =
      (Query.pick (t.numbered segments) (.findAll pattern)).map Handle.slot := by
  simp only [Query.pick, numbered, hs, ht, List.filter_map, List.map_map]
  rfl

/-- A query for all matches that succeeds leaves the session idle if there are none, and otherwise
    shows them. Nothing but the document, the settings and the pattern matters for what is shown,
    and edits leave the captures as they are. -/
theorem findAll_decomposes {handles : List Handle} (hr : s.Reachable)
    (h : (findAll pattern).run s = (.ok handles, s')) :
    ∃ p, s.settings.compile pattern = .ok p ∧ s'.document = s.document ∧
      (p.findAll s.document = [] → s'.phase = .idle ∧ handles = []) ∧
      (p.findAll s.document ≠ [] → s'.ShowsMatches p handles) ∧
      (∀ h g, s'.segment h = .ok g → ∀ edits, ∃ text,
        (s'.afterEdits edits).segment h = .ok { g with text }) ∧
      ∀ t t' others, t.Reachable → t.document = s.document → t.settings = s.settings →
        (findAll pattern).run t = (.ok others, t') →
        t'.phase = s'.phase ∧ t'.segments = s'.segments ∧
          others.map Handle.slot = handles.map Handle.slot := by
  obtain ⟨p, r, _, hp, hopen, hready, hempty, hcases⟩ := findAll_eq_ok (sound_of_reachable hr) h
  have hdocument := document_of_ready hready
  have hidle {s r : Session} (hready : s.ready = .ok r) : r.phase = .idle := by
    rcases ready_cases hready with ⟨hphase, rfl⟩ | ⟨_, _, rfl⟩
    · exact hphase
    · rfl
  refine ⟨p, hp, ?_, fun hnone => ?_, fun hsome => ?_, fun h g hg => segment_afterEdits hg,
    fun t t' others ht hd hset hrun => ?_⟩
  · rcases hcases with ⟨_, _, rfl⟩ | ⟨_, rfl, _⟩ <;> exact hdocument
  · rcases hcases with ⟨_, rfl, rfl⟩ | ⟨hne, _⟩
    · exact ⟨hidle hready, rfl⟩
    · exact absurd hnone hne
  · rcases hcases with ⟨hnone, _⟩ | ⟨_, rfl, rfl⟩
    · exact absurd hnone hsome
    · rw [← hdocument]
      exact showsMatches_decompose ((sameRights_of_ready hready).closed.trans hopen) hempty
        (compile_eq_ok hp)
  · -- Both sessions decompose the same document around the same matches, and into an empty arena.
    obtain ⟨p', r', _, hp', _, hready', hempty', hcases'⟩ :=
      findAll_eq_ok (sound_of_reachable ht) hrun
    rw [hset, hp] at hp'
    cases hp'
    rw [hd] at hcases'
    rcases hcases with ⟨hnone, rfl, rfl⟩ | ⟨hne, rfl, rfl⟩
    · rcases hcases' with ⟨_, rfl, rfl⟩ | ⟨hne', _⟩
      · exact ⟨(hidle hready').trans (hidle hready).symm, hempty'.trans hempty.symm, rfl⟩
      · exact absurd hnone hne'
    · rcases hcases' with ⟨hnone', _⟩ | ⟨_, rfl, rfl⟩
      · exact absurd hnone' hne
      · refine ⟨rfl, ?_, map_slot_pick hempty' hempty _⟩
        rw [decompose, decompose, hempty, hempty']

/-- A text with a match in its middle, in the single group of the pattern. -/
theorem findAll_decomposes_letter :
    let s' := ((findAll "a").run (ofText ⟨1⟩ "bab")).2
    (∃ p, s'.ShowsMatches p [⟨⟨1⟩, 0, 1⟩]) ∧
    ∀ edits, ∃ text, (s'.afterEdits edits).segment ⟨⟨1⟩, 0, 1⟩ =
      .ok ⟨text, .matched ⟨"a", ⟨1, 2⟩, [some ⟨none, "a", ⟨1, 2⟩⟩]⟩⟩ := by
  intro s'
  have hrun : (findAll "a").run (ofText ⟨1⟩ "bab") = (.ok [⟨⟨1⟩, 0, 1⟩], s') := rfl
  obtain ⟨p, hp, _, hnone, hsome, hedits, _⟩ := findAll_decomposes (.ofText ⟨1⟩ "bab") hrun
  refine ⟨⟨p, hsome fun h => ?_⟩, fun edits => ?_⟩
  · cases (hnone h).2
  · exact hedits ⟨⟨1⟩, 0, 1⟩ _ rfl edits

end Session

end ScriptKeeper.Inspection
