import ScriptKeeper.Proofs.Action
import ScriptKeeper.Proofs.Inspection.Cut
import ScriptKeeper.Proofs.Inspection.Operation
import ScriptKeeper.Proofs.Pattern.Order

/-!
# What a query does

The segments that a query makes depend on the settings and the document only (`Query.segments`),
and put together they are the document (`Query.join_segments`). All that can be wrong with a query
is wrong before it touches the session: once the pattern is compiled, the matches come in order, so
the document can be cut around them. Thus a query fails and changes nothing, or makes the session
ready, and decomposes it if there are segments (`run_query`).
-/

namespace ScriptKeeper.Inspection

open Text Session

/-! ### Segments -/

/-- The segments of a document that is cut around matches. Without a match there are none. -/
def segmentsAround (document : String) (captures : List Captures) :
    Except InspectionError (List Segment) :=
  if captures.isEmpty then .ok []
  else do
    let pieces ← liftCut (cutAll document (captures.map Captures.range))
    segmentsOf document captures pieces

/-- The segments that a query makes of a document. -/
def Query.segments (settings : SearchSettings) (document : String) :
    Query → Except InspectionError (List Segment)
  | .find pattern => do
    let compiled ← settings.compile pattern
    let found :=
      if settings.rightToLeft then (compiled.findAll document).getLast?
      else compiled.find? document
    segmentsAround document (found.map (Captures.ofMatch compiled document)).toList
  | .findAll pattern => do
    if settings.rightToLeft then throw (.unsupportedOption "right_to_left" "find_all")
    let compiled ← settings.compile pattern
    segmentsAround document ((compiled.findAll document).map (Captures.ofMatch compiled document))
  | .everything => .ok [{ text := document }]

/-- A document can be cut around matches in order. -/
theorem segmentsAround_eq {document : String} {captures : List Captures}
    (h : InOrder document 0 (captures.map Captures.range)) (hne : captures ≠ []) :
    segmentsAround document captures = .ok (segmentsFrom document 0 captures) := by
  obtain ⟨pieces, hpieces, hsegments⟩ := cutAll_ok h
  rw [segmentsAround, if_neg (by simpa using hne), hpieces]
  exact hsegments

theorem inOrder_captures (pattern : Pattern) (document : String) : InOrder document 0
    (((pattern.findAll document).map (Captures.ofMatch pattern document)).map Captures.range) := by
  rw [List.map_map]
  exact pattern.inOrder_findAll document

/-- The matches of a query come in order. -/
theorem inOrder_found {pattern : Pattern} {document : String} {m : Pattern.Match}
    {rightToLeft : Bool}
    (h : (if rightToLeft then (pattern.findAll document).getLast? else pattern.find? document) =
      some m) : InOrder document 0 [m.range] := by
  refine ⟨Nat.zero_le _, ?_, trivial⟩
  split at h
  · exact Pattern.fits_of_mem_findAll (List.mem_of_getLast? h)
  · exact Pattern.fits_of_find? h

theorem join_segmentsAround {document : String} {captures : List Captures}
    {segments : List Segment} (h : segmentsAround document captures = .ok segments)
    (hne : segments ≠ []) (hin : InOrder document 0 (captures.map Captures.range)) :
    String.join (segments.map Segment.text) = document := by
  by_cases hc : captures = []
  · rw [hc] at h
    cases h
    exact absurd rfl hne
  · rw [segmentsAround_eq hin hc] at h
    cases h
    rw [join_segmentsFrom (isBoundary_zero document) hin, covered_all]

/-- The segments that a query makes, put together, are the document. -/
theorem Query.join_segments {q : Query} {settings : SearchSettings} {document : String}
    {segments : List Segment} (h : q.segments settings document = .ok segments)
    (hne : segments ≠ []) : String.join (segments.map Segment.text) = document := by
  cases q with
  | find pattern =>
    rw [Query.segments] at h
    cases hc : settings.compile pattern with
    | error e => rw [hc] at h; cases h
    | ok compiled =>
      rw [hc, ok_bind] at h
      refine join_segmentsAround h hne ?_
      cases hfound : (if settings.rightToLeft then (compiled.findAll document).getLast?
        else compiled.find? document) with
      | none => trivial
      | some m => exact inOrder_found hfound
  | findAll pattern =>
    rw [Query.segments] at h
    split at h
    · cases h
    · cases hc : settings.compile pattern with
      | error e => rw [hc] at h; cases h
      | ok compiled =>
        rw [hc] at h
        exact join_segmentsAround h hne (inOrder_captures compiled document)
  | everything =>
    cases h
    simp

/-! ### Runs -/

/-- The arena with more segments behind all others. -/
def Arena.append (a : Arena) (segments : List Segment) : Arena :=
  segments.foldl (fun a segment => (a.pushBack segment).2) a

/-- The handles that a query gives, of the segments that it made. -/
def Query.pick (segments : List (Handle × Segment)) : Query → List Handle
  | .find _ => ((segments.filter fun x => x.2.isMatch).map Prod.fst).head?.toList
  | .findAll _ => (segments.filter fun x => x.2.isMatch).map Prod.fst
  | .everything => segments.map Prod.fst

namespace Session

/-- The session with its document decomposed into segments. -/
def decompose (s : Session) (segments : List Segment) : Session :=
  { s with segments := s.segments.append segments, phase := .active }

/-- The handles of segments that are added behind all others. -/
def numbered (s : Session) (segments : List Segment) : List (Handle × Segment) :=
  (segments.zipIdx s.segments.size).map fun (segment, slot) => (s.handle slot, segment)

theorem map_snd_numbered (s : Session) (segments : List Segment) :
    (s.numbered segments).map Prod.snd = segments := by
  rw [numbered, List.map_map]
  exact List.zipIdx_map_fst _ _

/-- The session made ready for a query, or why it cannot be. -/
def ready (s : Session) : Except InspectionError Session :=
  match s.phase, s.autoCommit with
  | .idle, _ => .ok s
  | .active, true => .ok s.reset
  | .active, false => .error (.decompositionActive s.id)

theorem run_beginQuery (s : Session) : beginQuery.run s = match s.ready with
    | .ok s' => (.ok (), s')
    | .error e => (.error e, s) := by
  rw [beginQuery, ready, run_bind, run_get]
  dsimp only
  rcases s.phase <;> cases s.autoCommit <;> rfl

/-- Getting ready leaves the document as it is. -/
theorem document_of_ready {s s' : Session} (h : s.ready = .ok s') : s'.document = s.document := by
  rw [ready] at h
  split at h <;> cases h <;> rfl

theorem settings_of_ready {s s' : Session} (h : s.ready = .ok s') : s'.settings = s.settings := by
  rw [ready] at h
  split at h <;> cases h <;> rfl

theorem foldl_pushBack (segments : List Segment) (a : Arena) (slots : List Nat) :
    segments.foldl (fun (arena, slots) segment =>
      let (slot, arena) := arena.pushBack segment
      (arena, if segment.isMatch then slots ++ [slot] else slots)) (a, slots) =
    (a.append segments,
      slots ++ ((segments.zipIdx a.size).filter fun x => x.1.isMatch).map Prod.snd) := by
  induction segments generalizing a slots with
  | nil => simp [Arena.append]
  | cons segment segments ih =>
    rw [List.foldl_cons]
    dsimp only
    rw [ih, Arena.pushBack, Arena.insertBetween_fst, Arena.size_insertBetween, List.zipIdx_cons]
    cases hm : segment.isMatch <;> simp [hm, Arena.append, Arena.pushBack]

theorem run_install (s : Session) (pieces : List Piece) (captures : List Captures) :
    (install pieces captures).run s = match segmentsOf s.document captures pieces with
      | .ok segments => (.ok (((s.numbered segments).filter fun x => x.2.isMatch).map Prod.fst),
          s.decompose segments)
      | .error e => (.error e, s) := by
  rw [install, run_bind, run_get]
  dsimp only
  rw [run_bind, run_lift]
  cases segmentsOf s.document captures pieces with
  | error e => rfl
  | ok segments =>
    dsimp only
    rw [foldl_pushBack, run_bind, run_set]
    dsimp only
    rw [run_pure, List.nil_append, numbered, List.filter_map, List.map_map, List.map_map]
    rfl

/-- What a query makes of a session: the segments, and the session ready for them. -/
def plan (s : Session) (q : Query) : Except InspectionError (List Segment × Session) := do
  s.ensureOpen
  let segments ← q.segments s.settings s.document
  return (segments, ← s.ready)

theorem plan_eq_ok {s r : Session} {q : Query} {segments : List Segment}
    (h : s.plan q = .ok (segments, r)) : s.ensureOpen = .ok () ∧
      q.segments s.settings s.document = .ok segments ∧ s.ready = .ok r := by
  obtain ⟨_, ho, h⟩ := bind_eq_ok_iff.1 h
  obtain ⟨_, hsegments, h⟩ := bind_eq_ok_iff.1 h
  obtain ⟨_, hr, h⟩ := bind_eq_ok_iff.1 h
  cases h
  exact ⟨ho, hsegments, hr⟩

/-- A document can be cut around matches in order, and installing the pieces decomposes it. -/
theorem run_install_cut {document : String} {captures : List Captures} (hne : captures ≠ [])
    (h : InOrder document 0 (captures.map Captures.range)) :
    ∃ pieces segments, liftCut (cutAll document (captures.map Captures.range)) = .ok pieces ∧
      segmentsAround document captures = .ok segments ∧ segments ≠ [] ∧
      ∀ s : Session, s.document = document → (install pieces captures).run s =
        (.ok (((s.numbered segments).filter fun x => x.2.isMatch).map Prod.fst),
          s.decompose segments) := by
  obtain ⟨pieces, hpieces, hsegments⟩ := cutAll_ok h
  refine ⟨pieces, _, by rw [hpieces]; rfl, segmentsAround_eq h hne, segmentsFrom_ne_nil _ _ hne,
    fun s hs => ?_⟩
  rw [run_install, hs, hsegments]

theorem run_query_find (pattern : String) (s : Session) (ho : s.ensureOpen = .ok ()) :
    (query (.find pattern)).run s = match s.plan (.find pattern) with
      | .ok (segments, s') =>
        if segments = [] then (.ok [], s')
        else (.ok (Query.pick (s'.numbered segments) (.find pattern)), s'.decompose segments)
      | .error e => (.error e, s) := by
  simp only [plan, query, find, run_bind, run_get, run_lift, run_beginQuery, Query.segments, ho,
    ok_bind]
  cases s.settings.compile pattern with
  | error e => rfl
  | ok compiled =>
    cases hfound : (if s.settings.rightToLeft then (compiled.findAll s.document).getLast?
      else compiled.find? s.document) with
    | none =>
      simp only [ok_bind, hfound]
      cases s.ready <;> rfl
    | some m =>
      have hinOrder : InOrder s.document 0
        ([Captures.ofMatch compiled s.document m].map Captures.range) := inOrder_found hfound
      -- From here on nothing can fail but getting ready, which is checked first.
      obtain ⟨pieces, segments, hpieces, haround, hne, hinstall⟩ :=
        run_install_cut (by simp) hinOrder
      rw [List.map_cons, List.map_nil] at hpieces
      simp only [ok_bind, hfound, Option.map_some, Option.toList_some, haround, cutSingle]
      cases hr : s.ready with
      | error e => rfl
      | ok s' =>
        simp only [ok_bind, run_bind, run_lift, hpieces, hinstall s' (document_of_ready hr),
          pure, Except.pure]
        rw [if_neg hne]
        rfl

theorem run_query_findAll (pattern : String) (s : Session) (ho : s.ensureOpen = .ok ()) :
    (query (.findAll pattern)).run s = match s.plan (.findAll pattern) with
      | .ok (segments, s') =>
        if segments = [] then (.ok [], s')
        else (.ok (Query.pick (s'.numbered segments) (.findAll pattern)), s'.decompose segments)
      | .error e => (.error e, s) := by
  simp only [plan, query, findAll, run_bind, run_get, run_lift, Query.segments, ho, ok_bind,
    ExceptT.bind_throw]
  cases s.settings.rightToLeft with
  | true => rfl
  | false =>
    cases s.settings.compile pattern with
    | error e => simp [run_bind]
    | ok compiled =>
      simp only [Bool.false_eq_true, if_false, run_bind, run_lift, ok_bind, run_beginQuery]
      have hinOrder := inOrder_captures compiled s.document
      by_cases hne : (compiled.findAll s.document).map (Captures.ofMatch compiled s.document) = []
      · rw [hne]
        cases s.ready <;> rfl
      · obtain ⟨pieces, segments, hpieces, haround, hsegments, hinstall⟩ :=
          run_install_cut hne hinOrder
        rw [haround, if_neg (by simpa using hne)]
        cases hr : s.ready with
        | error e => rfl
        | ok s' =>
          simp only [ok_bind, run_bind, run_lift, hpieces, hinstall s' (document_of_ready hr),
            pure, Except.pure]
          rw [if_neg hsegments]
          rfl

/-- A query fails and changes nothing, or makes the session ready and decomposes its document,
    if there are segments. -/
theorem run_query (q : Query) (s : Session) : (query q).run s =
    match s.plan q with
    | .ok (segments, s') =>
      if segments = [] then (.ok [], s')
      else (.ok (q.pick (s'.numbered segments)), s'.decompose segments)
    | .error e => (.error e, s) := by
  cases ho : s.ensureOpen with
  | error e => cases q <;> simp [plan, query, find, findAll, everything, run_bind, ho]
  | ok _ =>
  cases q with
  | find pattern => exact run_query_find pattern s ho
  | findAll pattern => exact run_query_findAll pattern s ho
  | everything =>
    simp only [plan, query, everything, run_bind, run_get, run_lift, ho, run_beginQuery,
      Query.segments, ok_bind]
    cases hr : s.ready with
    | error e => rfl
    | ok s' =>
      rw [← document_of_ready hr]
      rfl

end Session

end ScriptKeeper.Inspection
