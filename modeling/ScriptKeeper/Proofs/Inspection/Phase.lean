import ScriptKeeper.Proofs.Inspection.Failure
import ScriptKeeper.Proofs.Inspection.Lifetime

/-!
# The phases of a session

A session is active exactly while it has segments, and a session that is closed is idle for ever.
Each operation changes a few of these things by itself, and none of them apart from the others
(`Consistent`). From the phase one can tell which queries are granted: a session that does not
commit by itself refuses all of them while it is active (`Session.Answers`).

* `Query.fault?`: what is checked of a query before the phase;
* `answers`: what an open session answers to queries and to new settings;
* `Move`: what a request can make of one session, which of its parts change (`Changes`);
* `phases`: all of this in every world that can be reached.
-/

namespace ScriptKeeper.Inspection

open Session

/-! ### What is checked of a query first -/

/-- What is wrong with a pattern, if it does not compile. -/
def SearchSettings.fault? (settings : SearchSettings) (pattern : String) : Option InspectionError :=
  match settings.compile pattern with
  | .error e => some e
  | .ok _ => none

/-- What is wrong with a query in any document: an option that it does not support, or else its
    pattern. -/
def Query.fault? (settings : SearchSettings) : Query → Option InspectionError
  | .find pattern => settings.fault? pattern
  | .findAll pattern =>
    if settings.rightToLeft then some (.unsupportedOption "right_to_left" "find_all")
    else settings.fault? pattern
  | .everything => none

namespace Query

variable {q : Query} {settings : SearchSettings} {pattern : String} {e : InspectionError}

theorem compile_of_fault? (h : settings.fault? pattern = some e) :
    settings.compile pattern = .error e := by
  rw [SearchSettings.fault?] at h
  split at h
  next he => cases h; exact he
  next => cases h

theorem exists_compile (h : settings.fault? pattern = none) :
    ∃ compiled, settings.compile pattern = .ok compiled := by
  rw [SearchSettings.fault?] at h
  split at h
  next => cases h
  next compiled hc => exact ⟨compiled, hc⟩

theorem segments_of_fault? (h : q.fault? settings = some e) (document : String) :
    q.segments settings document = .error e := by
  cases q with
  | find pattern => exact segments_find_error (compile_of_fault? h) document
  | findAll pattern =>
    rw [fault?] at h
    split at h
    next hright => cases h; exact segments_findAll_rightToLeft hright pattern document
    next hleft => exact segments_findAll_error (by simpa using hleft) (compile_of_fault? h) document
  | everything => cases h

/-- A fault is one of the pattern or of an option, and not of the session. -/
theorem fault?_ne_decompositionActive (id : SessionId) :
    q.fault? settings ≠ some (.decompositionActive id) := by
  have hpattern (pattern : String) :
      settings.fault? pattern ≠ some (.decompositionActive id) := fun h => by
    have hc := compile_of_fault? h
    rw [SearchSettings.compile] at hc
    split at hc <;> cases hc
  cases q with
  | find pattern => exact hpattern pattern
  | findAll pattern =>
    rw [fault?]
    split
    · exact nofun
    · exact hpattern pattern
  | everything => exact nofun

theorem exists_match_segmentsAround {document : String} {captures : List Captures}
    (h : Text.InOrder document 0 (captures.map Captures.range)) :
    ∃ segments, segmentsAround document captures = .ok segments ∧
      (segments = [] ∨ ∃ g ∈ segments, g.isMatch = true) := by
  cases captures with
  | nil => exact ⟨[], rfl, .inl rfl⟩
  | cons c captures =>
    refine ⟨_, segmentsAround_eq h (List.cons_ne_nil _ _), .inr ⟨matchedSegment document c, ?_, rfl⟩⟩
    rw [segmentsFrom]
    exact List.mem_append_right _ List.mem_cons_self

/-- A query without a fault makes segments of every document. If there are any, it gives the handle
    of one of them. -/
theorem exists_segments (h : q.fault? settings = none) (document : String) :
    ∃ segments, q.segments settings document = .ok segments ∧
      ∀ s : Session, q.pick (s.numbered segments) = [] ↔ segments = [] := by
  have hpick {segments : List Segment} (s : Session)
      (hm : segments = [] ∨ ∃ g ∈ segments, g.isMatch = true) :
      (s.numbered segments).filter (fun x => x.2.isMatch) = [] ↔ segments = [] := by
    constructor
    · intro hnone
      rcases hm with rfl | ⟨g, hg, hmatch⟩
      · rfl
      obtain ⟨slot, hslot⟩ := List.mem_iff_get.1 hg
      have hx : (s.handle (s.segments.size + slot), g) ∈ s.numbered segments := by
        rw [numbered, List.mem_map]
        refine ⟨(g, s.segments.size + slot), ?_, rfl⟩
        rw [List.mk_add_mem_zipIdx_iff_getElem?, ← hslot]
        simp
      exact absurd hmatch (by simpa using List.filter_eq_nil_iff.1 hnone _ hx)
    · rintro rfl
      rfl
  cases q with
  | find pattern =>
    obtain ⟨compiled, hc⟩ := exists_compile h
    rw [segments, hc, ok_bind]
    have hin : Text.InOrder document 0 (((if settings.rightToLeft then
        (compiled.findAll document).getLast? else compiled.find? document).map
          (Captures.ofMatch compiled document)).toList.map Captures.range) := by
      cases hfound : (if settings.rightToLeft then (compiled.findAll document).getLast?
        else compiled.find? document) with
      | none => trivial
      | some m => exact inOrder_found hfound
    obtain ⟨segments, hsegments, hm⟩ := exists_match_segmentsAround hin
    refine ⟨segments, hsegments, fun s => ?_⟩
    rw [pick, ← hpick s hm]
    simp
  | findAll pattern =>
    rw [fault?] at h
    split at h
    · cases h
    next hleft =>
    obtain ⟨compiled, hc⟩ := exists_compile h
    rw [segments, if_neg hleft, hc]
    obtain ⟨segments, hsegments, hm⟩ :=
      exists_match_segmentsAround (inOrder_captures compiled document)
    refine ⟨segments, hsegments, fun s => ?_⟩
    rw [pick, ← hpick s hm]
    simp
  | everything => exact ⟨_, rfl, fun s => by simp [pick, numbered]⟩

end Query

namespace Session

variable {s s' : Session}

/-! ### What an open session answers -/

/-- What an open session answers to a query. What is wrong with the query itself comes first; after
    that only a decomposition that the session would have to drop makes it refuse. -/
structure Answers (s : Session) (q : Query) : Prop where
  faulty : ∀ e, q.fault? s.settings = some e → (query q).run s = (.error e, s)
  refused : ∀ id s', (query q).run s = (.error (.decompositionActive id), s') ↔
    q.fault? s.settings = none ∧ s.phase = .active ∧ s.autoCommit = false ∧ id = s.id ∧ s' = s
  /-- The session is idle afterwards if and only if the query has found nothing. -/
  granted : q.fault? s.settings = none → s.phase = .idle ∨ s.autoCommit = true →
    ∃ hs s', (query q).run s = (.ok hs, s') ∧ (s'.phase = .idle ↔ hs = [])

/-- What an open session answers to new settings. -/
structure AnswersSettings (s : Session) (settings : SearchSettings) : Prop where
  refused : ∀ id s', (changeSettings settings).run s = (.error (.decompositionActive id), s') ↔
    s.phase = .active ∧ s.autoCommit = false ∧ id = s.id ∧ s' = s
  granted : s.phase = .idle ∨ s.autoCommit = true →
    ∃ s', (changeSettings settings).run s = (.ok (), s') ∧ s'.phase = .idle ∧ s'.settings = settings

theorem ready_of_refusing (hp : s.phase = .active) (ha : s.autoCommit = false) :
    s.ready = .error (.decompositionActive s.id) := by
  rw [ready, hp, ha]

theorem exists_ready (h : s.phase = .idle ∨ s.autoCommit = true) :
    ∃ r, s.ready = .ok r ∧ r.phase = .idle := by
  rw [ready]
  cases hp : s.phase with
  | idle => exact ⟨s, rfl, hp⟩
  | active =>
    rw [h.resolve_left (by simp [hp])]
    exact ⟨s.reset, rfl, rfl⟩

theorem refusing_iff : ¬ (s.phase = .idle ∨ s.autoCommit = true) ↔
    s.phase = .active ∧ s.autoCommit = false := by
  cases s.phase <;> cases s.autoCommit <;> simp

theorem answers (ho : s.closed = false) (q : Query) : s.Answers q := by
  have hopen := ensureOpen_eq_ok_iff.2 ho
  have hfaulty (e : InspectionError) (he : q.fault? s.settings = some e) :
      (query q).run s = (.error e, s) := query_error ho (q.segments_of_fault? he s.document)
  have hgranted (hq : q.fault? s.settings = none) (h : s.phase = .idle ∨ s.autoCommit = true) :
      ∃ hs s', (query q).run s = (.ok hs, s') ∧ (s'.phase = .idle ↔ hs = []) := by
    obtain ⟨segments, hsegments, hpick⟩ := Query.exists_segments hq s.document
    obtain ⟨r, hr, hidle⟩ := exists_ready h
    have hplan : s.plan q = .ok (segments, r) := by
      rw [plan, hopen, ok_bind, hsegments, ok_bind, hr]
      rfl
    rw [run_query, hplan]
    dsimp only
    split
    next => exact ⟨_, _, rfl, by simp [hidle]⟩
    next hne =>
      refine ⟨_, _, rfl, ?_⟩
      rw [hpick r]
      simp [hne, decompose]
  refine ⟨hfaulty, fun id s' => ⟨fun h => ?_, ?_⟩, hgranted⟩
  · have hq : q.fault? s.settings = none := by
      cases he : q.fault? s.settings with
      | none => rfl
      | some e =>
        rw [hfaulty e he] at h
        cases h
        exact absurd he (q.fault?_ne_decompositionActive id)
    obtain ⟨segments, hsegments, _⟩ := Query.exists_segments hq s.document
    by_cases hp : s.phase = .idle ∨ s.autoCommit = true
    · obtain ⟨_, _, hok, _⟩ := hgranted hq hp
      rw [hok] at h
      cases h
    obtain ⟨hactive, hcommit⟩ := refusing_iff.1 hp
    rw [run_query, plan, hopen, ok_bind, hsegments, ok_bind, ready_of_refusing hactive hcommit] at h
    cases h
    exact ⟨hq, hactive, hcommit, rfl, rfl⟩
  · rintro ⟨hq, hactive, hcommit, rfl, rfl⟩
    obtain ⟨segments, hsegments, _⟩ := Query.exists_segments hq s'.document
    rw [run_query, plan, hopen, ok_bind, hsegments, ok_bind, ready_of_refusing hactive hcommit]
    rfl

theorem answersSettings (ho : s.closed = false) (settings : SearchSettings) :
    s.AnswersSettings settings := by
  have hrun := run_changeSettings settings s
  rw [ensureOpen_eq_ok_iff.2 ho, ok_bind] at hrun
  refine ⟨fun id s' => ⟨fun h => ?_, ?_⟩, fun h => ?_⟩
  · by_cases hp : s.phase = .idle ∨ s.autoCommit = true
    · obtain ⟨r, hr, _⟩ := exists_ready hp
      rw [hrun, hr] at h
      cases h
    obtain ⟨hactive, hcommit⟩ := refusing_iff.1 hp
    rw [hrun, ready_of_refusing hactive hcommit] at h
    cases h
    exact ⟨hactive, hcommit, rfl, rfl⟩
  · rintro ⟨hactive, hcommit, rfl, rfl⟩
    rw [hrun, ready_of_refusing hactive hcommit]
  · obtain ⟨r, hr, hidle⟩ := exists_ready h
    rw [hrun, hr]
    exact ⟨_, rfl, hidle, rfl⟩

/-! ### The invariant -/

/-- How the parts of a session go together. -/
structure Consistent (s : Session) : Prop where
  active_iff : s.phase = .active ↔ 0 < s.segments.size
  currentText : s.phase = .idle → s.currentText = s.document
  idle_of_closed : s.closed = true → s.phase = .idle
  autoCommit_iff : s.autoCommit = true ↔ s.mode = .read
  text : s.source = .text → s.isWritable = true ∧ s.mode = .readWrite ∧ s.closed = false

/-- What an invariant needs to say of the phase: an active session is open and has segments. -/
structure Populated (s : Session) : Prop where
  pos : s.phase = .active → 0 < s.segments.size ∧ s.closed = false
  opened : s.source = .text → s.closed = false

theorem consistent_of_populated (hs : s.Sound) (hr : s.Regular) (h : s.Populated) :
    s.Consistent where
  active_iff := by
    refine ⟨fun hactive => (h.pos hactive).1, fun hpos => ?_⟩
    cases hp : s.phase with
    | active => rfl
    | idle =>
      rw [hs.idle hp] at hpos
      cases hpos
  currentText hidle := by rw [Session.currentText, hidle]
  idle_of_closed hclosed := by
    cases hp : s.phase with
    | idle => rfl
    | active =>
      rw [(h.pos hp).2] at hclosed
      cases hclosed
  autoCommit_iff := by rw [hr.autoCommit, beq_iff_eq]
  text hsource := ⟨by rw [isWritable, hsource]; rfl, hr.text hsource, h.opened hsource⟩

/-- A session without a decomposition, whatever else has been done to it. -/
theorem populated_of_idle (hidle : s.phase = .idle) (hopen : s.source = .text → s.closed = false) :
    s.Populated where
  pos hactive := by rw [hidle] at hactive; cases hactive
  opened := hopen

end Session

theorem Arena.size_append (a : Arena) (segments : List Segment) :
    (a.append segments).size = a.size + segments.length := by
  induction segments generalizing a with
  | nil => rfl
  | cons segment segments ih =>
    rw [Arena.append, List.foldl_cons, ← Arena.append, ih, Arena.pushBack, size_insertBetween,
      List.length_cons]
    omega

namespace Session

variable {s s' : Session}

theorem size_le_of_edited {e : Edit} {slot : Option Nat} {arena : Arena}
    (he : s.edited e = .ok (slot, arena)) : s.segments.size ≤ arena.size := by
  have hinsert (previous next : Option Nat) (segment : Segment) :
      s.segments.size ≤ (s.segments.insertBetween previous next segment).2.size := by
    rw [Arena.size_insertBetween]
    exact Nat.le_succ _
  cases edited_eq_ok he with
  | setText | delete => exact Nat.le_of_eq (Arena.size_setText _ _ _).symm
  | addFirst | addLast => exact hinsert _ _ _
  | addBefore _ hadded | addAfter _ hadded =>
    obtain ⟨_, _, hadded⟩ := Option.map_eq_some_iff.1 hadded
    cases hadded
    exact hinsert _ _ _

theorem Step.populated (hp : s.Populated) (h : s.Step s') : s'.Populated := by
  cases h with
  | stay => exact hp
  | drop => exact populated_of_idle rfl hp.opened
  | settings settings hr hopen =>
    have hsame := sameRights_of_ready hr
    refine populated_of_idle ?_ fun _ => hsame.closed.trans hopen
    rcases ready_cases hr with ⟨hidle, rfl⟩ | ⟨_, _, rfl⟩
    · exact hidle
    · rfl
  | @decompose r segments hr hopen hne =>
    have hclosed := (sameRights_of_ready hr).closed.trans hopen
    refine ⟨fun _ => ⟨?_, hclosed⟩, fun _ => hclosed⟩
    have hlength := List.length_pos_iff.2 hne
    rw [Session.decompose, Arena.size_append]
    omega
  | edit e he =>
    refine ⟨fun hactive => ?_, hp.opened⟩
    obtain ⟨hpos, hopen⟩ := hp.pos hactive
    exact ⟨Nat.lt_of_lt_of_le hpos (size_le_of_edited he), hopen⟩

theorem populated_of_effect {files files' : FileTree} (hp : s.Populated)
    (h : Effect s files s' files') : s'.Populated := by
  cases h with
  | step h => exact h.populated hp
  | replace | write => exact populated_of_idle rfl hp.opened

/-! ### What changes in a session -/

/-- What a request can make of one session: most requests leave it as it is, one to itself has it
    perform the operation, and its registry closes it or lets it write. -/
inductive Move (s : Session) (files : FileTree) :
    Request → Except InspectionError Answer → Session → Prop
  | stay (req : Request) (answer : Except InspectionError Answer) : Move s files req answer s
  | perform (op : Operation) : Move s files (.ask s.id op) (op.perform.run (s, files)).1
      (op.perform.run (s, files)).2.1
  | close (i : Nat) : s.closed = false → s.source ≠ .text →
      Move s files (.close i s.id) (.ok .done) s.close
  | grantWrite (i : Nat) : s.closed = false → s.source ≠ .text →
      Move s files (.grantWrite i s.id) (.ok .done) s.upgraded

/-- What changes in a session with a request, and what has to be asked of it for that. -/
structure Changes (s : Session) (req : Request) (answer : Except InspectionError Answer)
    (s' : Session) : Prop where
  id : s'.id = s.id
  source : s'.source = s.source
  document : s'.document ≠ s.document → answer.isOk = true ∧
    ((∃ fault, req = .ask s.id (.commit fault)) ∨ ∃ text, req = .ask s.id (.setEverything text))
  settings : s'.settings ≠ s.settings → answer.isOk = true ∧
    req = .ask s.id (.changeSettings s'.settings)
  /-- A session that is closed stays closed, with the same document. -/
  closed : s.closed = true → s'.closed = true ∧ s'.document = s.document

/-- An operation that changes anything has succeeded. -/
theorem isOk_of_changed {op : Operation} {files : FileTree}
    (h : (op.perform.run (s, files)).2.1 ≠ s) : (op.perform.run (s, files)).1.isOk = true := by
  cases hr : op.perform.run (s, files) with
  | mk result t =>
  cases result with
  | ok answer => rfl
  | error e =>
    rw [hr, allOrNothing_perform op _ _ _ hr] at h
    exact absurd rfl h

theorem document_perform {op : Operation} {files : FileTree}
    (h : (op.perform.run (s, files)).2.1.document ≠ s.document) :
    (∃ fault, op = .commit fault) ∨ ∃ text, op = .setEverything text := by
  cases op with
  | changeSettings settings =>
    rw [Operation.perform, run_bind_pure, run_filed] at h
    exact absurd (step_changeSettings settings s).document h
  | query q =>
    rw [Operation.perform, run_bind_pure, run_filed] at h
    exact absurd (step_query q s).document h
  | edit e =>
    rw [Operation.perform, run_bind_pure, run_filed] at h
    exact absurd (step_edit e s).document h
  | look | cancel => exact absurd rfl h
  | setEverything text => exact .inr ⟨text, rfl⟩
  | commit fault => exact .inl ⟨fault, rfl⟩

theorem settings_query (q : Query) (s : Session) :
    ((query q).run s).2.settings = s.settings := by
  rw [run_query]
  cases hp : s.plan q with
  | error e => rfl
  | ok p =>
    obtain ⟨segments, r⟩ := p
    obtain ⟨_, _, hr⟩ := plan_eq_ok hp
    have hsame := settings_of_ready hr
    dsimp only
    split <;> exact hsame

theorem settings_edit (e : Edit) (s : Session) : ((edit e).run s).2.settings = s.settings := by
  rw [run_edit]
  cases s.edited e <;> rfl

theorem settings_setEverything (text : String) (s : Session) :
    ((setEverything text).run s).2.settings = s.settings := by
  rw [run_setEverything]
  cases s.ensureOpen with
  | error e => rfl
  | ok _ => dsimp only; split <;> rfl

theorem settings_commit (fault : Option WriteFault) (s : Session) (files : FileTree) :
    ((commit fault).run (s, files)).2.1.settings = s.settings := by
  rw [run_commit]
  split
  · rfl
  split
  · rfl
  split
  · rfl
  split
  · rfl
  · dsimp only
    split <;> rfl

theorem settings_perform {op : Operation} {files : FileTree}
    (h : (op.perform.run (s, files)).2.1.settings ≠ s.settings) :
    op = .changeSettings (op.perform.run (s, files)).2.1.settings := by
  cases op with
  | changeSettings settings =>
    rw [Operation.perform, run_bind_pure, run_filed, run_changeSettings] at h ⊢
    cases hr : s.ensureOpen >>= fun _ => s.ready with
    | error e => rw [hr] at h; exact absurd rfl h
    | ok r => rfl
  | query q =>
    rw [Operation.perform, run_bind_pure, run_filed] at h
    exact absurd (settings_query q s) h
  | edit e =>
    rw [Operation.perform, run_bind_pure, run_filed] at h
    exact absurd (settings_edit e s) h
  | setEverything text =>
    rw [Operation.perform, run_bind_pure, run_filed] at h
    exact absurd (settings_setEverything text s) h
  | commit fault =>
    rw [Operation.perform, run_bind_pure] at h
    exact absurd (settings_commit fault s files) h
  | look | cancel => exact absurd rfl h

theorem document_of_closed {files files' : FileTree} (hc : s.closed = true)
    (h : Effect s files s' files') : s'.document = s.document := by
  cases h with
  | step h => exact h.document
  | replace _ hopen | write hopen => rw [hc] at hopen; cases hopen

theorem Move.changes {files : FileTree} {req : Request} {answer : Except InspectionError Answer}
    (h : s.Move files req answer s') : s.Changes req answer s' := by
  cases h with
  | stay =>
    exact ⟨rfl, rfl, fun h => absurd rfl h, fun h => absurd rfl h, fun hc => ⟨hc, rfl⟩⟩
  | perform op =>
    have heffect := effect_perform op s files
    have hsame := heffect.sameRights
    refine ⟨hsame.id, hsame.source, fun h => ⟨isOk_of_changed fun heq => h (by rw [heq]), ?_⟩,
      fun h => ⟨isOk_of_changed fun heq => h (by rw [heq]), ?_⟩,
      fun hc => ⟨hsame.closed.trans hc, document_of_closed hc heffect⟩⟩
    · rcases document_perform h with ⟨fault, rfl⟩ | ⟨text, rfl⟩
      · exact .inl ⟨fault, rfl⟩
      · exact .inr ⟨text, rfl⟩
    · exact congrArg _ (settings_perform h)
  | close =>
    exact ⟨rfl, rfl, fun h => absurd rfl h, fun h => absurd rfl h, fun _ => ⟨rfl, rfl⟩⟩
  | grantWrite =>
    exact ⟨rfl, rfl, fun h => absurd rfl h, fun h => absurd rfl h, fun hc => ⟨hc, rfl⟩⟩

theorem source_ne_text {path : CanonicalPath} (h : s.path? = some path) : s.source ≠ .text := by
  rintro htext
  rw [path?, htext] at h
  cases h

theorem move_close (r : Registry) (s : Session) (files : FileTree) (i : Nat) :
    s.Move files (.close i s.id) ((Registry.close.run (r, s)).1.map fun _ => .done)
      (Registry.close.run (r, s)).2.2 := by
  rw [Registry.run_close]
  split
  · exact .stay _ _
  next hopen =>
  split
  · exact .stay _ _
  next hpath =>
  split
  · exact .close i (by simpa using hopen) (source_ne_text hpath)
  · exact .stay _ _

theorem move_grantWrite (r : Registry) (s : Session) (files : FileTree) (i : Nat) :
    s.Move files (.grantWrite i s.id) ((Registry.grantWrite.run (r, s)).1.map fun _ => .done)
      (Registry.grantWrite.run (r, s)).2.2 := by
  rw [Registry.run_grantWrite]
  split
  · exact .stay _ _
  next hopen =>
  split
  · exact .stay _ _
  split
  · exact .stay _ _
  next hpath =>
  split
  · exact .stay _ _
  split
  · exact .grantWrite i (by simpa using hopen) (source_ne_text hpath)
  · exact .stay _ _

end Session

namespace World

variable {w : World} {o : Opened}

/-! ### All sessions of a world -/

/-- What a request makes of a session that has been opened. -/
theorem exists_move (hn : w.Numbered) (ho : o ∈ w.opened) (req : Request) :
    ∃ o' ∈ (w.request req).2.opened,
      o.session.Move w.workspace.files req (w.request req).1 o'.session := by
  by_cases hreq : req.session? = some o.session.id
  case neg => exact ⟨o, mem_request_of_session?_ne hn ho hreq, .stay _ _⟩
  cases hfind : w.find? o.session.id with
  | none =>
    cases req with
    | openText | openFile | disturb => cases hreq
    | ask | close | grantWrite =>
      cases hreq
      simp only [request, atRegistry, hfind]
      exact ⟨o, ho, .stay _ _⟩
    | drop id =>
      cases hreq
      exact ⟨{ o with dropped := true }, List.mem_map.2 ⟨o, ho, if_pos rfl⟩, .stay _ _⟩
  | some x =>
    obtain rfl := hn.eq_of_id (of_find? hfind).1 ho (of_find? hfind).2
    cases req with
    | openText | openFile | disturb => cases hreq
    | ask id op =>
      cases hreq
      rw [request, hfind]
      have hid := (effect_perform op x.session w.workspace.files).sameRights.id
      exact ⟨_, mem_setSession_self ho hid, .perform op⟩
    | close i id =>
      cases hreq
      have hmove := move_close (w.registries i) x.session w.workspace.files i
      rw [request, atRegistry, hfind]
      exact ⟨_, mem_setSession_self ho hmove.changes.id, hmove⟩
    | grantWrite i id =>
      cases hreq
      have hmove := move_grantWrite (w.registries i) x.session w.workspace.files i
      rw [request, atRegistry, hfind]
      exact ⟨_, mem_setSession_self ho hmove.changes.id, hmove⟩
    | drop id =>
      cases hreq
      exact ⟨{ x with dropped := true }, List.mem_map.2 ⟨x, ho, if_pos rfl⟩, .stay _ _⟩

theorem populated_of_reachable (hw : w.Reachable) (ho : o ∈ w.opened) : o.session.Populated := by
  induction hw generalizing o with
  | start => cases ho
  | @request w req hw ih =>
  have hs := (numbered_of_reachable hw).step_request req
  generalize (w.request req).2 = w' at hs ho
  -- A session of the new world is one of the old world, or the one that the request is about.
  have hset (s : Session) (hs : s.Populated) (ho : o ∈ (w.setSession s).opened) :
      o.session.Populated := by
    obtain ⟨y, hy, ⟨_, rfl⟩ | ⟨_, rfl⟩⟩ := mem_setSession ho
    · exact hs
    · exact ih hy
  cases hs with
  | stay | unread | disturb => exact ih ho
  | openText | openFile =>
    rcases List.mem_append.1 ho with ho | ho
    · exact ih ho
    · rw [List.mem_singleton.1 ho]
      exact populated_of_idle rfl fun _ => rfl
  | ask hfind heffect => exact hset _ (populated_of_effect (ih (of_find? hfind).1) heffect) ho
  | @close _ _ x _ _ _ hpath =>
    have hfile := source_ne_text hpath
    exact hset x.session.close (populated_of_idle rfl fun htext => absurd htext hfile) ho
  | @grantWrite _ _ x _ _ hopen =>
    exact hset x.session.upgraded (populated_of_idle rfl fun _ => hopen) ho
  | drop =>
    obtain ⟨y, hy, rfl⟩ := List.mem_map.1 ho
    have hsame := ih hy
    split <;> exact hsame

theorem consistent_of_reachable (hw : w.Reachable) (ho : o ∈ w.opened) : o.session.Consistent :=
  let ⟨hsound, hregular⟩ := sound_and_regular hw ho
  consistent_of_populated hsound hregular (populated_of_reachable hw ho)

/-- A session that is closed stays closed and idle, whatever is asked. -/
theorem closed_run (hw : w.Reachable) (ho : o ∈ w.opened) (hc : o.session.closed = true)
    (reqs : List Request) : ∃ o' ∈ (w.run reqs).opened, o'.session.id = o.session.id ∧
      o'.session.closed = true ∧ o'.session.phase = .idle ∧
      o'.session.document = o.session.document := by
  induction reqs generalizing w o with
  | nil => exact ⟨o, ho, rfl, hc, (consistent_of_reachable hw ho).idle_of_closed hc, rfl⟩
  | cons req reqs ih =>
    obtain ⟨o₁, ho₁, hmove⟩ := exists_move (numbered_of_reachable hw) ho req
    obtain ⟨hc₁, hdocument₁⟩ := hmove.changes.closed hc
    obtain ⟨o₂, ho₂, hid, hclosed, hidle, hdocument⟩ := ih (.request req hw) ho₁ hc₁
    exact ⟨o₂, ho₂, hid.trans hmove.changes.id, hclosed, hidle, hdocument.trans hdocument₁⟩

/-- In every world that can be reached, the parts of every session go together. A request changes
    the document only by a commit or another text, and the settings only by new ones; a session that
    is closed is so for ever. An open session refuses queries and new settings exactly while it has a
    decomposition that it does not give up by itself. -/
theorem phases (hw : w.Reachable) (ho : o ∈ w.opened) :
    o.session.Consistent ∧
    (∀ req, ∃ o' ∈ (w.request req).2.opened,
      o.session.Changes req (w.request req).1 o'.session) ∧
    (o.session.closed = true → ∀ reqs, ∃ o' ∈ (w.run reqs).opened,
      o'.session.id = o.session.id ∧ o'.session.closed = true ∧ o'.session.phase = .idle ∧
      o'.session.document = o.session.document) ∧
    (o.session.closed = false →
      (∀ q, o.session.Answers q) ∧ ∀ settings, o.session.AnswersSettings settings) := by
  refine ⟨consistent_of_reachable hw ho, fun req => ?_, closed_run hw ho,
    fun hopen => ⟨answers hopen, answersSettings hopen⟩⟩
  obtain ⟨o', ho', hmove⟩ := exists_move (numbered_of_reachable hw) ho req
  exact ⟨o', ho', hmove.changes⟩

/-- A session that writes its file, and has decomposed it, refuses to do so again. -/
theorem phases_refused :
    (Session.query (.everything)).run ((writer "x").decompose [{ text := "x" }]) =
      (.error (.decompositionActive ⟨1⟩), (writer "x").decompose [{ text := "x" }]) := by
  have hw : (solo "x" ((writer "x").decompose [{ text := "x" }])).Reachable :=
    .request (.ask ⟨1⟩ (.query .everything)) (.request (.openFile 0 "a" .readWrite)
      (.start ⟨(solo "x" (writer "x")).workspace.files, 0⟩))
  obtain ⟨_, _, _, hanswers⟩ := phases hw (List.mem_singleton_self _)
  exact (((hanswers rfl).1 .everything).refused ⟨1⟩ _).2 ⟨rfl, rfl, rfl, rfl, rfl⟩

end World

end ScriptKeeper.Inspection
