import ScriptKeeper.Proofs.Inspection.Commit
import ScriptKeeper.Proofs.Inspection.Handle
import ScriptKeeper.Proofs.Template.Token
import ScriptKeeper.Template.Render

/-!
# Filling in is one pass over the template

A template is filled in by a session: its tokens are found, each is replaced at its handle, and the
edits are committed. All of this comes to a function of the parts of the template: a character
stays, a token becomes its value, and the first token without one makes the whole fail
(`render_eq`). A value is never looked at again, whatever is in it.

* `joined_segmentsFrom`: the segments of the session have the parts between them, the characters
  in a row in one segment;
* `run_fill`: the draft of the session is filled in from the first segment to the last.
-/

namespace ScriptKeeper.Template

open Inspection Pattern Session Text

/-! ### Filling in parts and segments -/

/-- What becomes of a token of the given name. -/
def fillToken (meaning : String → Option String) (name : String) : Except TemplateError String :=
  match meaning name with
  | some value => .ok value
  | none => .error (.missingValue name)

/-- What becomes of a part. -/
def Part.fill (meaning : String → Option String) : Part → Except TemplateError String
  | .char c => .ok (String.singleton c)
  | .token name => fillToken meaning (String.ofList name)

/-- What becomes of a segment: a match is a token. -/
def fillSegment (meaning : String → Option String) (g : Segment) : Except TemplateError String :=
  if g.isMatch then fillToken meaning (tokenName g.text) else .ok g.text

section

variable {ε α : Type} {f : α → Except ε String}

/-- The texts of all members, put together. -/
def joined (f : α → Except ε String) (l : List α) : Except ε String := String.join <$> l.mapM f

theorem joined_nil : joined f [] = .ok "" := rfl

theorem joined_cons (a : α) (l : List α) :
    joined f (a :: l) = do return (← f a) ++ (← joined f l) := by
  rw [joined, List.mapM_cons, joined]
  cases f a with
  | error e => rfl
  | ok s =>
    cases List.mapM f l with
    | error e => rfl
    | ok ss => exact congrArg Except.ok (String.join_cons)

theorem joined_append (l l' : List α) :
    joined f (l ++ l') = do return (← joined f l) ++ (← joined f l') := by
  induction l with
  | nil =>
    rw [List.nil_append, joined_nil, ok_bind]
    cases joined f l' <;> simp
  | cons a l ih =>
    rw [List.cons_append, joined_cons, joined_cons, ih]
    cases f a with
    | error e => rfl
    | ok s =>
      cases joined f l with
      | error e => rfl
      | ok t => cases joined f l' <;> simp [String.append_assoc]

end

/-! ### Segments and parts -/

theorem joined_literalSegments (meaning : String → Option String) (document : String) {m n : Nat}
    (h : m ≤ n) : joined (fillSegment meaning)
      (literalSegments document (byteLength (document.toList.take m))
        (byteLength (document.toList.take n))) =
      .ok (String.ofList ((document.toList.take n).drop m)) := by
  rw [literalSegments]
  split
  next =>
    rw [joined_cons, joined_nil, ← covered_byteRange document h]
    exact congrArg Except.ok String.append_empty
  next hge =>
    -- Characters that take no bytes are none.
    have hlength := congrArg byteLength (take_append_drop_take document.toList h)
    rw [byteLength_append] at hlength
    rw [byteLength_eq_zero_iff.1 (by omega : byteLength ((document.toList.take n).drop m) = 0)]
    rfl

theorem dropWhile_percent {cs : List Char} (h : ∀ c ∈ cs, Inside c) :
    cs.dropWhile (· == '%') = cs := by
  cases cs with
  | nil => rfl
  | cons c cs =>
    rw [List.dropWhile_cons, if_neg (by simpa using (h c List.mem_cons_self).1)]

theorem dropWhile_cons_percent (cs : List Char) :
    ('%' :: cs).dropWhile (· == '%') = cs.dropWhile (· == '%') := rfl

/-- In a token, the name is between the percent signs. -/
theorem tokenName_source {name : List Char} (h : ∀ c ∈ name, Inside c) :
    tokenName (String.ofList (Part.source (.token name))) = String.ofList name := by
  have hreverse : name.reverse.dropWhile (· == '%') = name.reverse :=
    dropWhile_percent fun c hc => h c (List.mem_reverse.1 hc)
  have hfront : (name ++ ['%']).dropWhile (· == '%') = if name = [] then [] else name ++ ['%'] := by
    cases name with
    | nil => rfl
    | cons c name =>
      rw [List.cons_append, List.dropWhile_cons,
        if_neg (by simpa using (h c List.mem_cons_self).1), if_neg (List.cons_ne_nil c name)]
  rw [tokenName, String.toList_ofList, Part.source, dropWhile_cons_percent, hfront]
  split
  next hnil => rw [hnil]; rfl
  next =>
    rw [List.reverse_append, List.reverse_singleton, List.singleton_append,
      dropWhile_cons_percent, hreverse, List.reverse_reverse]

/-- The segments around the tokens are filled in as the parts are. -/
theorem joined_segmentsFrom (meaning : String → Option String) {document : String} {ps : List Part}
    {captures : List Captures} {m n : Nat} (hmn : m ≤ n)
    (hparts : ps.flatMap Part.source = document.toList.drop n)
    (hinside : ∀ name, .token name ∈ ps → ∀ c ∈ name, Inside c)
    (hcaptures : captures.map Captures.range =
      (spans n ps).map fun r => byteRange document.toList r.1 r.2) :
    joined (fillSegment meaning)
        (segmentsFrom document (byteLength (document.toList.take m)) captures) =
      (String.ofList ((document.toList.take n).drop m) ++ ·) <$> joined (Part.fill meaning) ps := by
  induction ps generalizing captures m n with
  | nil =>
    obtain rfl : captures = [] := by simpa [spans] using hcaptures
    have hend : document.toList.take n = document.toList :=
      List.take_of_length_le (List.drop_eq_nil_iff.1 hparts.symm)
    have hsize : document.utf8ByteSize = byteLength (document.toList.take n) := by
      rw [hend, byteLength_toList]
    rw [segmentsFrom, hsize, joined_literalSegments meaning document hmn, joined_nil]
    exact congrArg Except.ok String.append_empty.symm
  | cons p ps ih =>
    rw [List.flatMap_cons] at hparts
    have hrest : ∀ name, .token name ∈ ps → ∀ c ∈ name, Inside c := fun name hname =>
      hinside name (List.mem_cons_of_mem p hname)
    cases p with
    | char c =>
      -- The character joins those between the positions.
      rw [Part.source, List.singleton_append, eq_comm, drop_eq_cons_iff] at hparts
      obtain ⟨hc, hdrop⟩ := hparts
      rw [ih (Nat.le_succ_of_le hmn) hdrop.symm hrest hcaptures, Pattern.drop_take_succ hc hmn,
        joined_cons, Part.fill, ok_bind]
      cases joined (Part.fill meaning) ps with
      | error e => rfl
      | ok text =>
        refine congrArg Except.ok ?_
        rw [String.ofList_append]
        exact String.append_assoc
    | token name =>
      have hopens : Opens (document.toList.drop n) name (ps.flatMap Part.source) :=
        ⟨by rw [← hparts, Part.source]; simp, hinside name List.mem_cons_self⟩
      obtain ⟨hdrop, hlength⟩ := hopens.drop_stop
      cases captures with
      | nil => exact absurd hcaptures (by simp [spans])
      | cons c captures =>
      rw [List.map_cons, spans, List.map_cons, List.cons.injEq] at hcaptures
      obtain ⟨hrange, hcaptures⟩ := hcaptures
      have htoken : (document.toList.take (n + name.length + 2)).drop n =
          Part.source (.token name) := by
        have hsource : n + name.length + 2 - n = (Part.source (.token name)).length := by
          rw [Part.source, List.length_cons, List.length_append, List.length_singleton]
          omega
        rw [List.drop_take, ← hparts, hsource, List.take_left]
      have hnext := ih (Nat.le_refl _) hdrop.symm hrest hcaptures
      rw [segmentsFrom, joined_append, joined_cons, hrange]
      dsimp only [byteRange]
      rw [joined_literalSegments meaning document hmn, hnext]
      have hmatched : fillSegment meaning (matchedSegment document c) =
          fillToken meaning (String.ofList name) := by
        rw [← tokenName_source (hinside name List.mem_cons_self), ← htoken,
          ← covered_byteRange document (by omega), ← hrange]
        rfl
      have hempty : (document.toList.take (n + name.length + 2)).drop (n + name.length + 2) =
          [] := List.drop_eq_nil_iff.2 (List.length_take_le _ _)
      rw [hmatched, hempty, joined_cons, Part.fill, ok_bind]
      cases fillToken meaning (String.ofList name) with
      | error e => rfl
      | ok value =>
        cases joined (Part.fill meaning) ps with
        | error e => rfl
        | ok text => simp

/-! ### The session -/

theorem run_runSession {α : Type} (action : SessionAction α) (s : Session) :
    (runSession action).run s = match action.run s with
      | (.ok a, s') => (.ok a, s')
      | (.error cause, s') => (.error (.inspection cause), s') := by
  rw [runSession, run_bind, run_get]
  dsimp only
  rcases action.run s with ⟨_ | _, _⟩ <;> rfl

section

variable {s : Session}

/-- The text under a handle of the draft can be read. -/
theorem text_of_mem_draft (ho : s.closed = false) (hl : s.segments.WellLinked) {h : Handle}
    {text : String} (hmem : (h, text) ∈ s.draft) : s.text h = .ok text := by
  obtain ⟨slot, hresolve⟩ := (mem_draft_iff hl ho).1 (List.mem_map_of_mem hmem)
  obtain ⟨⟨_, g⟩, hg, heq⟩ := List.mem_map.1 hmem
  cases heq
  obtain ⟨slot', rfl, hget⟩ := (mem_allSegments hl).1 hg
  obtain rfl := s.handle_injective (resolve_eq_ok_iff.1 hresolve).2.1
  rw [Session.text, segment_of_resolve hresolve hget]
  rfl

/-- A new text is set under a handle of the draft. -/
theorem run_setText_of_draft (ho : s.closed = false) (hw : s.isWritable = true)
    (hl : s.segments.WellLinked) {before after : Draft} {h : Handle} {text : String}
    (hd : s.draft = before ++ (h, text) :: after) (value : String) :
    ∃ arena, (setText h value).run s = (.ok (), { s with segments := arena }) ∧
      arena.WellLinked ∧
      draft { s with segments := arena } = before ++ (h, value) :: after := by
  have hwritable : s.ensureWritable = .ok () := ensureWritable_eq_ok_iff.2 ⟨ho, hw⟩
  have hmem : h ∈ s.draft.map Prod.fst := by
    rw [hd]
    simp
  obtain ⟨slot, hresolve⟩ := (mem_draft_iff hl ho).1 hmem
  have hedited : s.edited (.setText h value) = .ok (none, s.segments.setText slot value) := by
    rw [edited, hwritable, ok_bind, hresolve, ok_bind]
    rfl
  obtain ⟨hl', hdraft⟩ := draft_of_edited hl hedited
  refine ⟨_, ?_, hl', ?_⟩
  · simp only [setText, run_bind, run_get, run_lift, hwritable, hresolve, run_set]
  · -- The handles of a draft are all different, so only one text changes.
    have hnodup := nodup_draft hl
    rw [hd, List.map_append, List.map_cons, List.nodup_middle, List.nodup_cons, List.mem_append,
      not_or] at hnodup
    rw [hdraft, Edit.onDraft, hd, change_append_cons hnodup.1.1 hnodup.1.2]

/-- One token is filled in. -/
theorem run_fill_cons {values : List Placeholder} {h : Handle} {rest : List Handle} {text : String}
    (htext : s.text h = .ok text) : (fill values (h :: rest)).run s =
    match valueOf? values (tokenName text) with
    | none => (.error (.missingValue (tokenName text)), s.cancel)
    | some value => match (setText h value).run s with
      | (.ok _, s') => (fill values rest).run s'
      | (.error cause, s') => (.error (.inspection cause), s') := by
  simp only [fill, run_bind, run_runSession, run_get, run_lift, htext]
  cases valueOf? values (tokenName text) with
  | none => rfl
  | some value =>
    simp only [run_bind, run_runSession]
    rcases (setText h value).run s with ⟨_ | _, _⟩ <;> rfl

/-- What filling in a session leads to: the draft has the text, or the failure is reported. -/
def FilledIn (s : Session) (run : Except TemplateError Unit × Session) :
    Except TemplateError String → Prop
  | .ok text => ∃ arena : Arena, run = (.ok (), { s with segments := arena }) ∧ arena.WellLinked ∧
      Draft.text (draft { s with segments := arena }) = text
  | .error e => run.1 = .error e

/-- The draft is filled in from the first segment to the last. -/
theorem run_fill (values : List Placeholder) (ho : s.closed = false) (hw : s.isWritable = true)
    (hl : s.segments.WellLinked) {before : Draft} {segments : List (Handle × Segment)}
    (hd : s.draft = before ++ segments.map fun x => (x.1, x.2.text)) :
    FilledIn s ((fill values ((segments.filter fun x => x.2.isMatch).map Prod.fst)).run s)
      ((before.text ++ ·) <$> joined (fillSegment (valueOf? values)) (segments.map Prod.snd)) := by
  induction segments generalizing s before with
  | nil =>
    refine ⟨s.segments, ?_, hl, ?_⟩
    · rw [List.filter_nil, List.map_nil, fill, run_pure]
    rw [hd, List.map_nil, List.append_nil]
    exact String.append_empty.symm
  | cons x segments ih =>
    obtain ⟨h, g⟩ := x
    rw [List.map_cons] at hd
    dsimp only at hd
    rw [List.map_cons, joined_cons, fillSegment]
    dsimp only
    have hbehind (value : String) (rest : Except TemplateError String) :
        ((before.text ++ ·) <$> do return (← (.ok value)) ++ (← rest)) =
          (Draft.text (before ++ [(h, value)]) ++ ·) <$> rest := by
      cases rest with
      | error e => rfl
      | ok text => exact congrArg Except.ok (by simp [Draft.text, String.append_assoc])
    have hmoved (value : String) (rest : Draft) :
        before ++ (h, value) :: rest = (before ++ [(h, value)]) ++ rest := by simp
    cases hmatch : g.isMatch with
    | false =>
      rw [hmoved] at hd
      rw [List.filter_cons_of_neg (by simp [hmatch]), if_neg Bool.false_ne_true, hbehind]
      exact ih ho hw hl hd
    | true =>
      -- The token is replaced, and the rest is filled in behind it.
      have htext : s.text h = .ok g.text := text_of_mem_draft ho hl (by rw [hd]; simp)
      rw [List.filter_cons_of_pos (by simp [hmatch]), List.map_cons, run_fill_cons htext,
        if_pos rfl, fillToken]
      cases valueOf? values (tokenName g.text) with
      | none => exact rfl
      | some value =>
        obtain ⟨arena, hset, hl', hdraft⟩ := run_setText_of_draft ho hw hl hd value
        rw [hmoved] at hdraft
        dsimp only
        rw [hset, hbehind]
        exact ih (s := { s with segments := arena }) ho hw hl' hdraft

end

/-! ### The whole -/

/-- The captures of the tokens of a text. -/
def tokenCaptures (text : String) : List Captures :=
  (Pattern.findAll ⟨tokenPattern, tokenProgram, [none]⟩ text).map
    (Captures.ofMatch ⟨tokenPattern, tokenProgram, [none]⟩ text)

theorem range_tokenCaptures (text : String) : (tokenCaptures text).map Captures.range =
    (spans 0 (parts text.toList)).map fun r => byteRange text.toList r.1 r.2 := by
  have hspans : (allMatches tokenProgram text.toList.toArray).map (fun f => (f.start, f.stop)) =
      spans 0 (parts (text.toList.drop 0)) :=
    span_matchesFrom (Nat.zero_le _) (by rw [List.size_toArray]; omega)
  rw [List.drop_zero] at hspans
  rw [← hspans, tokenCaptures, Pattern.findAll, List.map_map, List.map_map, List.map_map]
  rfl

theorem plan_tokens (text : String) : (ofText ⟨0⟩ text).plan (.findAll tokenPattern) =
    (segmentsAround text (tokenCaptures text)).map fun segments => (segments, ofText ⟨0⟩ text) := by
  have hcompile : SearchSettings.compile {} tokenPattern =
      .ok ⟨tokenPattern, tokenProgram, [none]⟩ := by
    have hpattern : Pattern.compile (SearchSettings.flags {}) (SearchSettings.sizeLimit {})
        tokenPattern = .ok ⟨tokenPattern, tokenProgram, [none]⟩ := compile_tokenPattern
    rw [SearchSettings.compile, hpattern]
  have hsegments : Query.segments {} text (.findAll tokenPattern) =
      segmentsAround text (tokenCaptures text) := by
    rw [Query.segments, hcompile]
    rfl
  have ho : (ofText ⟨0⟩ text).ensureOpen = .ok () := rfl
  have hready : (ofText ⟨0⟩ text).ready = .ok (ofText ⟨0⟩ text) := rfl
  have hsettings : (ofText ⟨0⟩ text).settings = {} := rfl
  have hdocument : (ofText ⟨0⟩ text).document = text := rfl
  rw [plan, ho, ok_bind, hsettings, hdocument, hsegments, hready]
  cases segmentsAround text (tokenCaptures text) <;> rfl

/-- The search for tokens decomposes a template that has any. -/
theorem run_findAll_tokens (text : String) :
    (findAll tokenPattern).run (ofText ⟨0⟩ text) =
      if tokenCaptures text = [] then (.ok [], ofText ⟨0⟩ text)
      else (.ok ((((ofText ⟨0⟩ text).numbered (segmentsFrom text 0 (tokenCaptures text))).filter
          fun x => x.2.isMatch).map Prod.fst),
        (ofText ⟨0⟩ text).decompose (segmentsFrom text 0 (tokenCaptures text))) := by
  have hrun := run_query_findAll tokenPattern (ofText ⟨0⟩ text) rfl
  rw [query, plan_tokens] at hrun
  rw [hrun]
  by_cases hnone : tokenCaptures text = []
  · rw [if_pos hnone, hnone]
    rfl
  · have hin : InOrder text 0 ((tokenCaptures text).map Captures.range) := inOrder_captures _ text
    rw [if_neg hnone, segmentsAround_eq hin hnone]
    dsimp only [Except.map]
    rw [if_neg (segmentsFrom_ne_nil text 0 hnone)]
    rfl

/-- Committing the edits of a text makes the text of the session its document. -/
theorem run_commitText {s : Session} (ho : s.closed = false) (hs : s.source = .text)
    (ha : s.phase = .active) : ∃ s', commitText.run s = (.ok (), s') ∧
      s'.document = s.currentText := by
  have hw : s.isWritable = true := by rw [isWritable, hs]; rfl
  have hstores := storesText ho hw ha
  rw [commitText, run_bind, run_get]
  dsimp only
  by_cases heq : s.currentText = s.document
  · rw [hstores.unchanged heq]
    exact ⟨_, rfl, heq.symm⟩
  · rw [hstores.ofText heq hs]
    exact ⟨_, rfl, rfl⟩

/-- Where there are matches, there are handles. -/
theorem handles_ne_nil {s : Session} {document : String} {cursor : Nat} {captures : List Captures}
    (h : captures ≠ []) : ((s.numbered (segmentsFrom document cursor captures)).filter fun x =>
      x.2.isMatch).map Prod.fst ≠ [] := by
  obtain ⟨c, captures, rfl⟩ := List.exists_cons_of_ne_nil h
  have hmem : matchedSegment document c ∈ (s.numbered
      (segmentsFrom document cursor (c :: captures))).map Prod.snd := by
    rw [map_snd_numbered, segmentsFrom]
    exact List.mem_append_right _ List.mem_cons_self
  obtain ⟨x, hx, heq⟩ := List.mem_map.1 hmem
  refine List.ne_nil_of_mem (List.mem_map_of_mem (List.mem_filter.2 ⟨hx, ?_⟩))
  rw [heq]
  rfl

/-- Filling in the handles of the tokens and committing gives the text of the filled segments. -/
theorem run_fill_commit (text : String) (values : List Placeholder) {segments : List Segment} :
    ((do
      fill values ((((ofText ⟨0⟩ text).numbered segments).filter fun x => x.2.isMatch).map Prod.fst)
      commitText
      return (← get).document : RenderAction String).run ((ofText ⟨0⟩ text).decompose segments)).1 =
    joined (fillSegment (valueOf? values)) segments := by
  have hempty : (ofText ⟨0⟩ text).segments = .empty := rfl
  have hl : ((ofText ⟨0⟩ text).decompose segments).segments.WellLinked :=
    (Arena.wellLinked_empty.append segments).1
  have hd : ((ofText ⟨0⟩ text).decompose segments).draft =
      [] ++ ((ofText ⟨0⟩ text).numbered segments).map fun x => (x.1, x.2.text) := by
    rw [draft, allSegments_decompose hempty, List.nil_append]
  have hfilled := run_fill values rfl rfl hl hd
  rw [map_snd_numbered] at hfilled
  rw [run_bind]
  cases hjoined : joined (fillSegment (valueOf? values)) segments with
  | error e =>
    rw [hjoined] at hfilled
    rcases hrun : (fill values _).run _ with ⟨result, s'⟩
    rw [hrun] at hfilled
    obtain rfl : result = .error e := hfilled
    rfl
  | ok filled =>
    rw [hjoined] at hfilled
    obtain ⟨arena, hrun, hl', htext⟩ := hfilled
    obtain ⟨s', hcommit, hdocument⟩ := run_commitText
      (s := { (ofText ⟨0⟩ text).decompose segments with segments := arena }) rfl rfl rfl
    rw [hrun]
    dsimp only
    rw [run_bind, hcommit]
    rw [currentText_of_active rfl, htext] at hdocument
    exact congrArg Except.ok (hdocument.trans String.empty_append)

/-- A template is filled in part by part. -/
theorem render_eq (text : String) (values : List Placeholder) :
    render text values = joined (Part.fill (valueOf? values)) (parts text.toList) := by
  have hparts : joined (fillSegment (valueOf? values)) (segmentsFrom text 0 (tokenCaptures text)) =
      joined (Part.fill (valueOf? values)) (parts text.toList) := by
    have hfrom := joined_segmentsFrom (valueOf? values) (Nat.le_refl 0)
      (source_parts text.toList) (fun _ => inside_of_mem_parts) (range_tokenCaptures text)
    rw [List.take_zero, byteLength, List.drop_zero] at hfrom
    rw [hfrom]
    cases joined (Part.fill (valueOf? values)) (parts text.toList) with
    | error e => rfl
    | ok filled => exact congrArg Except.ok String.empty_append
  rw [← hparts, render, fillIn, run_bind, run_runSession, run_findAll_tokens]
  by_cases hnone : tokenCaptures text = []
  · -- Without tokens the whole template is one literal segment, or empty.
    have hwhole : joined (fillSegment (valueOf? values)) (segmentsFrom text 0 []) = .ok text := by
      have hliteral := joined_literalSegments (valueOf? values) text
        (Nat.zero_le text.toList.length)
      rwa [List.take_zero, List.take_length, byteLength_toList, byteLength, List.drop_zero,
        String.ofList_toList] at hliteral
    rw [if_pos hnone, hnone, hwhole]
    rfl
  · rw [if_neg hnone]
    dsimp only
    rw [if_neg]
    · exact run_fill_commit text values
    · rw [List.isEmpty_iff]
      exact handles_ne_nil hnone

end ScriptKeeper.Template
