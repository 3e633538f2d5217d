import ScriptKeeper.Proofs.Inspection.Decomposition

/-!
# The lines of segments

The line on which a segment begins is counted back over the segments before it, each of which pushes
what follows it down by the newlines in its text (`foldl_advance`), be it empty, closed by a newline
or left open. However the text of a session is divided into segments, and whatever edits have made
of them, the sum is therefore the number of newlines in the text before the segment
(`lineIndex_of_allSegments`).

Right after a query the text before a match is that of the document (`segmentsFrom_split`), so the
line of the match is its line in the document.

* `preceding_eq`: the segments that are counted;
* `forall₂_onLineOf`: the lines of matches, right after the document has been cut around them;
* `lineIndex_exact`: all of it, for every session that can be reached.
-/

namespace ScriptKeeper.Inspection

open Text

/-! ### Counting back -/

/-- The segments push each other down by the newlines in them. -/
theorem foldl_advance (segments : List Segment) (n : Nat) :
    segments.foldl (fun n g => g.lineStats.advance + n) n =
      n + newlineCount (String.join (segments.map Segment.text)).toList := by
  induction segments generalizing n with
  | nil => rfl
  | cons g segments ih =>
    rw [List.foldl_cons, ih, Segment.lineStats, advance_lineStats, List.map_cons, String.join_cons,
      String.toList_append, newlineCount_append]
    omega

/-- The segments before a slot are those before it in the list, in reverse. -/
theorem Arena.WellLinked.preceding_eq {a : Arena} (h : a.WellLinked) {slot : Nat} {g : Segment}
    {before after : List (Nat × Segment)} (hlist : a.toList = before ++ (slot, g) :: after) :
    a.preceding slot = (before.map Prod.snd).reverse := by
  have horder : a.order = before.map Prod.fst ++ slot :: after.map Prod.fst := by
    rw [← h.map_fst_toList, hlist, List.map_append, List.map_cons]
  have hlinked : a.Linked (before.map Prod.fst ++ slot :: after.map Prod.fst) := horder ▸ h
  have hget : ∀ x ∈ before, a.get? x.1 = some x.2 := fun x hx =>
    h.mem_toList.1 (hlist ▸ List.mem_append_left _ hx)
  rw [preceding, hlinked.precedingSlots_eq, List.filterMap_reverse, List.filterMap_map,
    ← List.filterMap_eq_map]
  exact congrArg List.reverse (List.filterMap_congr hget)

namespace Session

/-- The texts of segments, put together. -/
def joined (segments : List (Handle × Segment)) : String :=
  String.join (segments.map fun x => x.2.text)

section

variable {s : Session} {h : Handle} {g : Segment} {before after : List (Handle × Segment)}

theorem joined_append (l₁ l₂ : List (Handle × Segment)) :
    joined (l₁ ++ l₂) = joined l₁ ++ joined l₂ := by
  rw [joined, List.map_append, String.join_append, joined, joined]

theorem joined_cons (x : Handle × Segment) (l : List (Handle × Segment)) :
    joined (x :: l) = x.2.text ++ joined l := by
  rw [joined, List.map_cons, String.join_cons, joined]

theorem joined_eq (l : List (Handle × Segment)) :
    joined l = String.join ((l.map Prod.snd).map Segment.text) := by
  rw [joined, List.map_map]
  rfl

/-- A segment begins on the line behind the newlines in the segments before it. -/
theorem lineIndex_of_allSegments (hl : s.segments.WellLinked) (ho : s.closed = false)
    (ht : s.settings.trackLines = true) (hall : s.allSegments = before ++ (h, g) :: after) :
    s.lineIndex h = .ok (1 + newlineCount (joined before).toList) := by
  -- The handles stand for slots, and the slots before this one are those that are counted back.
  obtain ⟨l₁, l₂, hlist, hbefore, hrest⟩ := List.map_eq_append_iff.1 hall
  obtain ⟨⟨slot, g'⟩, l₃, rfl, hcons, _⟩ := List.map_eq_cons_iff.1 hrest
  obtain ⟨rfl, rfl⟩ := Prod.mk.inj hcons.symm
  have htexts : (l₁.map Prod.snd).map Segment.text = before.map fun x => x.2.text := by
    rw [← hbefore, List.map_map, List.map_map]
    rfl
  have hget : s.segments.get? slot = some g := by
    rw [← hl.mem_toList, hlist]
    exact List.mem_append_right _ List.mem_cons_self
  have hresolve : s.resolve (s.handle slot) = .ok slot :=
    resolve_eq_ok_iff.2 ⟨ho, rfl, Arena.lt_size_of_get? hget⟩
  rw [lineIndex, hresolve, ok_bind, ht, hl.preceding_eq hlist, List.foldr_reverse, foldl_advance,
    htexts]
  rfl

end

end Session

/-! ### The lines of matches -/

namespace Session

variable {s s' : Session} {h : Handle} {g : Segment} {q : Query} {hs : List Handle}
  {captures : List Captures} {c : Captures}

/-- The handle of a match is the one of its number. -/
theorem getElem?_matches {all : List (Handle × Segment)} {before after : List Segment}
    (hall : all.map Prod.snd = before ++ g :: after) (hg : g.isMatch = true) :
    ∃ l₁ h l₂, all = l₁ ++ (h, g) :: l₂ ∧ l₁.map Prod.snd = before ∧
      ((all.filter fun x => x.2.isMatch).map Prod.fst)[before.countP Segment.isMatch]? =
        some h := by
  obtain ⟨l₁, l₂, rfl, rfl, hrest⟩ := List.map_eq_append_iff.1 hall
  obtain ⟨⟨h, _⟩, l₃, rfl, rfl, rfl⟩ := List.map_eq_cons_iff.1 hrest
  refine ⟨l₁, h, l₃, rfl, rfl, ?_⟩
  have hlength : (l₁.filter fun x => x.2.isMatch).length =
      (l₁.map Prod.snd).countP Segment.isMatch := by
    rw [List.countP_map, List.countP_eq_length_filter]
    rfl
  rw [← hlength, List.filter_append, List.map_append, List.getElem?_append_right (by simp)]
  simp [hg]

/-- The segment of a handle begins on the line of a position in the document. -/
def OnLineOf (s : Session) (h : Handle) (position : Nat) : Prop :=
  ∃ before, (ByteRange.mk 0 position).slice? s.document = some before ∧
    s.lineIndex h = .ok (1 + newlineCount before.toList)

/-- In a document that is cut around matches, each of them is on the line on which it begins. -/
theorem forall₂_onLineOf (hl : s.segments.WellLinked) (ho : s.closed = false)
    (ht : s.settings.trackLines = true) (hin : InOrder s.document 0 (captures.map Captures.range))
    (hall : s.allSegments.map Prod.snd = segmentsFrom s.document 0 captures) :
    List.Forall₂ (fun h c => s.OnLineOf h c.range.start)
      ((s.allSegments.filter fun x => x.2.isMatch).map Prod.fst) captures := by
  have hlength : ((s.allSegments.filter fun x => x.2.isMatch).map Prod.fst).length =
      captures.length := by
    rw [List.length_map, ← List.countP_eq_length_filter, ← countP_segmentsFrom, ← hall,
      List.countP_map]
    rfl
  refine List.forall₂_iff_get.2 ⟨hlength, fun i h₁ h₂ => ?_⟩
  -- The handle and the match of one number belong to one segment.
  obtain ⟨before, literal, after, hliteral, heq, hcount, _, _, htext⟩ :=
    segmentsFrom_split s.document 0 (List.getElem?_eq_getElem h₂)
  obtain ⟨hfits, htext⟩ := htext (isBoundary_zero s.document) hin
  rw [← List.append_assoc] at heq
  obtain ⟨l₁, h, l₂, hsplit, hbefore, hget⟩ := getElem?_matches (hall.trans heq) rfl
  rw [List.countP_append, hcount, hliteral, countP_literalSegments] at hget
  obtain ⟨_, rfl⟩ := List.getElem?_eq_some_iff.1 hget
  have hline := lineIndex_of_allSegments hl ho ht hsplit
  rw [joined_eq, hbefore, htext] at hline
  exact ⟨_, slice?_eq_covered hfits, hline⟩

/-- A query that succeeds was asked of an open session, and leaves it so. -/
theorem kept_of_query (h : (query q).run s = (.ok hs, s')) :
    s'.closed = false ∧ s'.settings = s.settings ∧ s'.document = s.document := by
  rw [run_query] at h
  split at h
  next segments r hplan =>
    obtain ⟨hopen, _, hready⟩ := plan_eq_ok hplan
    have hkept : r.closed = false ∧ r.settings = s.settings ∧ r.document = s.document :=
      ⟨(sameRights_of_ready hready).closed.trans (ensureOpen_eq_ok_iff.1 hopen),
        settings_of_ready hready, document_of_ready hready⟩
    split at h <;> cases h <;> exact hkept
  next => cases h

/-- A session shows the segments that its document and settings asked for before the query. -/
theorem segments_of_query (hsound : s.Sound) (h : (query q).run s = (.ok hs, s')) :
    q.segments s.settings s.document = .ok (s'.allSegments.map Prod.snd) := by
  obtain ⟨_, hsettings, hdocument⟩ := kept_of_query h
  rw [← hsettings, ← hdocument]
  exact (allSegments_of_query hsound h).1

/-- Right after a query that has cut the document around matches, each of them is on the line on
    which it begins. -/
theorem forall₂_onLineOf_of_query (hsound : s.Sound) (ht : s.settings.trackLines = true)
    (h : (query q).run s = (.ok hs, s'))
    (hin : InOrder s.document 0 (captures.map Captures.range))
    (hall : s'.allSegments.map Prod.snd = segmentsFrom s.document 0 captures) :
    List.Forall₂ (fun h c => s'.OnLineOf h c.range.start)
      ((s'.allSegments.filter fun x => x.2.isMatch).map Prod.fst) captures := by
  obtain ⟨hopen, hsettings, hdocument⟩ := kept_of_query h
  have hstep := step_query q s
  rw [h] at hstep
  rw [← hdocument] at hin hall
  exact forall₂_onLineOf (hstep.sound hsound).linked hopen (hsettings ▸ ht) hin hall

/-- A search that finds a match has cut the document around it. -/
theorem onLineOf_of_find {pattern : String} (hsound : s.Sound) (ht : s.settings.trackLines = true)
    (hfind : (find pattern).run s = (.ok (some h), s')) :
    ∃ p m, s.settings.compile pattern = .ok p ∧
      (if s.settings.rightToLeft then (p.findAll s.document).getLast? else p.find? s.document) =
        some m ∧
      s'.document = s.document ∧ s'.OnLineOf h m.range.start := by
  have hquery : (query (.find pattern)).run s = (.ok [h], s') := by
    rw [query, run_bind_pure, hfind]
    rfl
  have hpick : [h] = Query.pick s'.allSegments (.find pattern) :=
    (allSegments_of_query hsound hquery).2
  obtain ⟨p, hp, haround⟩ := bind_eq_ok_iff.1 (segments_of_query hsound hquery)
  cases hfound : (if s.settings.rightToLeft then (p.findAll s.document).getLast?
    else p.find? s.document) with
  | none =>
    -- Without a match there would be no segments, and no handle.
    rw [hfound] at haround
    have hnone : s'.allSegments = [] := List.map_eq_nil_iff.1 (Except.ok.inj haround).symm
    rw [hnone] at hpick
    cases hpick
  | some m =>
    rw [hfound] at haround
    have hin : InOrder s.document 0 ([Captures.ofMatch p s.document m].map Captures.range) :=
      inOrder_found hfound
    have hsegments := (segmentsAround_eq hin (List.cons_ne_nil _ _)).symm.trans haround
    have hlines :=
      forall₂_onLineOf_of_query hsound ht hquery hin (Except.ok.inj hsegments).symm
    obtain ⟨h', _, hline, _, heq⟩ := List.forall₂_cons_right_iff.1 hlines
    rw [Query.pick, heq] at hpick
    cases hpick
    exact ⟨p, m, hp, hfound, (kept_of_query hquery).2.2, hline⟩

/-- A search for all matches has cut the document around them. -/
theorem onLineOf_of_findAll {pattern : String} (hsound : s.Sound)
    (ht : s.settings.trackLines = true) (hfind : (findAll pattern).run s = (.ok hs, s')) :
    ∃ p, s.settings.compile pattern = .ok p ∧ s'.document = s.document ∧
      List.Forall₂ (fun h m => s'.OnLineOf h m.range.start) hs (p.findAll s.document) := by
  have hquery : (query (.findAll pattern)).run s = (.ok hs, s') := hfind
  obtain ⟨p, r, _, hp, _, _, hempty, hcases⟩ := findAll_eq_ok hsound hfind
  refine ⟨p, hp, (kept_of_query hquery).2.2, ?_⟩
  rcases hcases with ⟨hnone, rfl, _⟩ | ⟨_, rfl, rfl⟩
  · rw [hnone]
    exact .nil
  · have hall : (r.decompose (segmentsAroundAll p s.document)).allSegments.map Prod.snd =
        segmentsFrom s.document 0 ((p.findAll s.document).map (Captures.ofMatch p s.document)) := by
      rw [allSegments_decompose hempty, map_snd_numbered, segmentsAroundAll]
    have hlines := forall₂_onLineOf_of_query hsound ht hquery (inOrder_captures p s.document) hall
    rw [allSegments_decompose hempty, List.forall₂_map_right_iff] at hlines
    exact hlines

/-! ### Every session -/

/-- With a decomposition, the text of a session is that of its segments. -/
theorem currentText_eq_joined (ha : s.phase = .active) : s.currentText = joined s.allSegments := by
  rw [currentText_of_active ha, Draft.text, draft, List.map_map]
  rfl

/-- What a session that counts lines says of the segment of a handle. -/
structure CountsLines (s : Session) (h : Handle) : Prop where
  listed : ∃ g, (h, g) ∈ s.allSegments
  /-- The segment begins on the line behind the newlines in the text before it, -/
  line : ∀ before g after, s.allSegments = before ++ (h, g) :: after →
    s.currentText = joined before ++ (g.text ++ joined after) ∧
      s.lineIndex h = .ok (1 + newlineCount (joined before).toList)
  /-- and any segment behind it as many lines further down as there are newlines in it and the
      segments between. -/
  below : ∀ before g between y after, s.allSegments = before ++ (h, g) :: (between ++ y :: after) →
    ∃ n, s.lineIndex h = .ok n ∧
      s.lineIndex y.1 = .ok (n + newlineCount (g.text ++ joined between).toList)

theorem countsLines (hsound : s.Sound) (ht : s.settings.trackLines = true) {slot : Nat}
    (hslot : s.resolve h = .ok slot) : s.CountsLines h := by
  obtain ⟨hopen, rfl, hlt⟩ := resolve_eq_ok_iff.1 hslot
  have hline {h g before after} (hall : s.allSegments = before ++ (h, g) :: after) :=
    lineIndex_of_allSegments hsound.linked hopen ht hall
  constructor
  case listed => exact exists_mem_allSegments hsound.linked hlt
  case line =>
    intro before g after hall
    refine ⟨?_, hline hall⟩
    rw [currentText_eq_joined (hsound.active_of_lt hlt), hall, joined_append, joined_cons]
  case below =>
    intro before g between y after hall
    -- The segments before the second one are those before the first, the first and those between.
    have hsplit : s.allSegments = (before ++ (s.handle slot, g) :: between) ++ y :: after := by
      rw [hall, List.append_assoc, List.cons_append]
    refine ⟨_, hline hall, ?_⟩
    rw [hline hsplit, joined_append, joined_cons, String.toList_append, newlineCount_append,
      Nat.add_assoc]

/-- Whatever has been done to a session that counts lines, the line of a segment is that on which it
    begins in the text of the session. Right after a search the line of a match is that on which it
    begins in the document. -/
theorem lineIndex_exact (hr : s.Reachable) (ht : s.settings.trackLines = true) :
    (∀ h slot, s.resolve h = .ok slot → s.CountsLines h) ∧
    (∀ pattern h s', (find pattern).run s = (.ok (some h), s') →
      ∃ p m, s.settings.compile pattern = .ok p ∧
        (if s.settings.rightToLeft then (p.findAll s.document).getLast?
          else p.find? s.document) = some m ∧
        s'.document = s.document ∧ s'.OnLineOf h m.range.start) ∧
    ∀ pattern hs s', (findAll pattern).run s = (.ok hs, s') →
      ∃ p, s.settings.compile pattern = .ok p ∧ s'.document = s.document ∧
        List.Forall₂ (fun h m => s'.OnLineOf h m.range.start) hs (p.findAll s.document) := by
  have hsound := sound_of_reachable hr
  exact ⟨fun _ _ hslot => countsLines hsound ht hslot,
    fun _ _ _ hfind => onLineOf_of_find hsound ht hfind,
    fun _ _ _ hfind => onLineOf_of_findAll hsound ht hfind⟩

/-- A text with a match on its second line, before which another line is added. -/
theorem lineIndex_exact_added :
    let cut := ((findAll "a").run { ofText ⟨1⟩ "b\na" with settings := .withLines }).2
    let s := ((edit (.addFirst "x\n")).run cut).2
    s.currentText = "x\nb\na" ∧ s.lineIndex ⟨⟨1⟩, 0, 1⟩ = .ok 3 := by
  intro cut s
  have hr : s.Reachable :=
    .perform (.edit (.addFirst "x\n")) {} (.perform (.query (.findAll "a")) {}
      (.perform (.changeSettings .withLines) {} (.ofText ⟨1⟩ "b\na")))
  have hslot : s.resolve ⟨⟨1⟩, 0, 1⟩ = .ok 1 := rfl
  obtain ⟨htext, hline⟩ := ((lineIndex_exact hr rfl).1 _ _ hslot).line
    [(⟨⟨1⟩, 0, 2⟩, { text := "x\n" }), (⟨⟨1⟩, 0, 0⟩, { text := "b\n" })] _ [] rfl
  exact ⟨htext, hline⟩

end Session

end ScriptKeeper.Inspection
