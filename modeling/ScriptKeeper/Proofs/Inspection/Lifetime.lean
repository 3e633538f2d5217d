import ScriptKeeper.Proofs.Inspection.Generation
import ScriptKeeper.Proofs.Inspection.Handle

/-!
# Handles are exact

A handle is given out for a segment (`IssuedFor`), and from then on it names that segment until its
session is closed or reset, and no segment of any session afterwards. Meanwhile the text of the
segment is the one that was last given through the handle, whatever happens to other segments, other
sessions, the registries and the files.

* `resets`, `given?`: what a request means for a handle, told from the request, the state in which
  it finds the session, and whether it is granted;
* `turn_request`: what one request does to a session that has been opened;
* `tracks_run`: what a handle names after any number of requests;
* `handles_exact`: what every session answers to whoever presents the handle then.
-/

namespace ScriptKeeper.Inspection

open Session

/-- The text that a request gives to the segment of a handle. -/
def Request.gives? (h : Handle) : Request → Option String
  | .ask _ op => op.gives? h
  | _ => none

namespace World

variable {w : World} {id : SessionId} {o : Opened}

/-! ### Requests in a row -/

/-- The session of the number, if the request is made to it and is granted. -/
def granting? (w : World) (id : SessionId) (req : Request) : Option Session :=
  if req.session? = some id ∧ (w.request req).1.isOk then (w.find? id).map Opened.session else none

/-- Whether a request resets the session of the number. -/
def resets (w : World) (id : SessionId) (req : Request) : Bool :=
  (w.granting? id req).any fun s => s.resetBy req

/-- The text that a request gives, through a handle, to the segment of the handle. -/
def given? (w : World) (h : Handle) (req : Request) : Option String :=
  (w.granting? h.session req).bind fun _ => req.gives? h

/-- The requests in a row, each with the world that it finds. -/
def history (w : World) : List Request → List (World × Request)
  | [] => []
  | req :: reqs => (w, req) :: history (w.request req).2 reqs

/-- The world after the requests in a row. -/
def run (w : World) : List Request → World
  | [] => w
  | req :: reqs => run (w.request req).2 reqs

/-- How often the session of the number is reset in the course of the requests. -/
def resetCount (w : World) (id : SessionId) (reqs : List Request) : Nat :=
  (w.history reqs).countP fun (w, req) => w.resets id req

/-- The texts given through a handle in the course of the requests, the last one last. -/
def given (w : World) (h : Handle) (reqs : List Request) : List String :=
  (w.history reqs).filterMap fun (w, req) => w.given? h req

theorem reachable_run (hw : w.Reachable) (reqs : List Request) : (w.run reqs).Reachable := by
  induction reqs generalizing w with
  | nil => exact hw
  | cons req reqs ih => exact ih (.request req hw)

theorem resetCount_cons (w : World) (id : SessionId) (req : Request) (reqs : List Request) :
    w.resetCount id (req :: reqs) =
      (if w.resets id req then 1 else 0) + (w.request req).2.resetCount id reqs := by
  rw [resetCount, history, List.countP_cons, Nat.add_comm, resetCount]

theorem getLast?_given_cons (w : World) (h : Handle) (req : Request) (reqs : List Request) :
    (w.given h (req :: reqs)).getLast? =
      ((w.request req).2.given h reqs).getLast?.or (w.given? h req) := by
  rw [given, history, List.filterMap_cons, given]
  dsimp only
  cases w.given? h req with
  | none => simp
  | some text => rw [List.getLast?_cons]; cases List.getLast? _ <;> rfl

/-! ### One request -/

theorem mem_request_of_session?_ne (hn : w.Numbered) (ho : o ∈ w.opened) {req : Request}
    (h : req.session? ≠ some o.session.id) : o ∈ (w.request req).2.opened := by
  have hs := hn.step_request req
  generalize (w.request req).2 = w' at hs ⊢
  have hother {s : Session} {id : SessionId} (hs : s.id = id) (hid : req.session? = some id) :
      o.session.id ≠ s.id := by
    rintro heq
    exact h (by rw [hid, heq, hs])
  cases hs with
  | stay | unread | disturb => exact ho
  | openText | openFile => exact List.mem_append_left _ ho
  | ask hfind heffect =>
    exact mem_setSession_of_ne ho (hother (heffect.sameRights.id.trans (of_find? hfind).2) rfl)
  | close hfind | grantWrite hfind =>
    exact mem_setSession_of_ne ho (hother (of_find? hfind).2 rfl)
  | drop id =>
    exact List.mem_map.2 ⟨o, ho, if_neg fun heq => h (congrArg some heq.symm)⟩

/-- Every session is sound, and commits by itself only if it may not write. -/
theorem sound_and_regular (hw : w.Reachable) (ho : o ∈ w.opened) :
    o.session.Sound ∧ o.session.Regular := by
  induction hw generalizing o with
  | start => cases ho
  | @request w req hw ih =>
  have hs := (numbered_of_reachable hw).step_request req
  generalize (w.request req).2 = w' at hs ho
  -- A session of the new world is one of the old world, or the one that the request is about.
  have hset (s : Session) (hs : s.Sound ∧ s.Regular) (ho : o ∈ (w.setSession s).opened) :
      o.session.Sound ∧ o.session.Regular := by
    obtain ⟨y, hy, ⟨_, rfl⟩ | ⟨_, rfl⟩⟩ := mem_setSession ho
    · exact hs
    · exact ih hy
  cases hs with
  | stay | unread | disturb => exact ih ho
  | openText text =>
    rcases List.mem_append.1 ho with ho | ho
    · exact ih ho
    · rw [List.mem_singleton.1 ho]
      exact ⟨sound_of_empty rfl, rfl, fun _ => rfl⟩
  | openFile =>
    rcases List.mem_append.1 ho with ho | ho
    · exact ih ho
    · rw [List.mem_singleton.1 ho]
      exact ⟨sound_of_empty rfl, regular_start _ _ _ _⟩
  | ask hfind heffect =>
    obtain ⟨hsound, hregular⟩ := ih (of_find? hfind).1
    exact hset _ ⟨sound_of_effect hsound heffect, hregular.effect heffect⟩ ho
  | @close _ _ x _ hfind =>
    obtain ⟨_, hregular⟩ := ih (of_find? hfind).1
    exact hset x.session.close ⟨sound_of_empty rfl, hregular.autoCommit, hregular.text⟩ ho
  | @grantWrite _ _ x =>
    exact hset x.session.upgraded ⟨sound_of_empty rfl, rfl, fun _ => rfl⟩ ho
  | drop =>
    obtain ⟨y, hy, rfl⟩ := List.mem_map.1 ho
    have hsame := ih hy
    split <;> exact hsame

/-- A session that is granted nothing keeps what it has. -/
theorem turn_of_granting?_eq_none {s : Session} {req : Request}
    (h : w.granting? s.id req = none) :
    s.Turn s (w.resets s.id req) fun slot => w.given? (s.handle slot) req := by
  have hreset : w.resets s.id req = false := by rw [resets, h]; rfl
  have hgiven : (fun slot => w.given? (s.handle slot) req) = fun _ => none := by
    funext slot
    have hbind : w.given? (s.handle slot) req = (w.granting? s.id req).bind _ := rfl
    rw [hbind, h, Option.bind_none]
  rw [hreset, hgiven]
  exact .refl s

/-- A session that a request is made to is found, unless it has been dropped. -/
theorem turn_of_session? (hn : w.Numbered) (ho : o ∈ w.opened) {req : Request}
    (hreq : req.session? = some o.session.id)
    (hdropped : w.find? o.session.id = none →
      ∃ o' ∈ (w.request req).2.opened, o'.session = o.session)
    (hfound : w.find? o.session.id = some o → ∃ o' ∈ (w.request req).2.opened,
      o.session.Turn o'.session ((w.request req).1.isOk && o.session.resetBy req) fun slot =>
        if (w.request req).1.isOk then req.gives? (o.session.handle slot) else none) :
    ∃ o' ∈ (w.request req).2.opened, o.session.Turn o'.session (w.resets o.session.id req)
      fun slot => w.given? (o.session.handle slot) req := by
  cases hfind : w.find? o.session.id with
  | none =>
    obtain ⟨o', ho', hsame⟩ := hdropped hfind
    refine ⟨o', ho', ?_⟩
    rw [hsame]
    exact turn_of_granting?_eq_none (by rw [granting?, hfind, Option.map_none, ite_self])
  | some x =>
  obtain rfl := hn.eq_of_id (of_find? hfind).1 ho (of_find? hfind).2
  obtain ⟨x', hx', hturn⟩ := hfound hfind
  have hgranting : w.granting? x.session.id req =
      if (w.request req).1.isOk then some x.session else none := by
    rw [granting?, hfind]
    simp [hreq]
  have hreset : w.resets x.session.id req =
      ((w.request req).1.isOk && x.session.resetBy req) := by
    rw [resets, hgranting]
    cases (w.request req).1.isOk <;> rfl
  have hgiven : (fun slot => w.given? (x.session.handle slot) req) = fun slot =>
      if (w.request req).1.isOk then req.gives? (x.session.handle slot) else none := by
    funext slot
    have hbind : w.given? (x.session.handle slot) req =
      (w.granting? x.session.id req).bind fun _ => req.gives? (x.session.handle slot) := rfl
    rw [hbind, hgranting]
    cases (w.request req).1.isOk <;> rfl
  rw [hreset, hgiven]
  exact ⟨x', hx', hturn⟩

theorem isOk_map {ε α β : Type} (f : α → β) (x : Except ε α) : (x.map f).isOk = x.isOk := by
  cases x <;> rfl

/-- What a registry does with a session that is found. -/
theorem turn_atRegistry (ho : o ∈ w.opened) (hfind : w.find? o.session.id = some o) {i : Nat}
    {reset : Bool} {action : ExceptT InspectionError (StateM (Registry × Session)) Unit}
    (h : o.session.Turn (action.run (w.registries i, o.session)).2.2
      ((action.run (w.registries i, o.session)).1.isOk && reset) fun _ => none) :
    ∃ o' ∈ (w.atRegistry i o.session.id action).2.opened, o.session.Turn o'.session
      ((w.atRegistry i o.session.id action).1.isOk && reset) fun _ =>
        if (w.atRegistry i o.session.id action).1.isOk then none else none := by
  have hok : (w.atRegistry i o.session.id action).1.isOk =
      (action.run (w.registries i, o.session)).1.isOk := by
    rw [atRegistry, hfind]
    exact isOk_map _ _
  rw [hok]
  simp only [ite_self]
  rw [atRegistry, hfind]
  exact ⟨_, mem_setSession_self ho h.id, h⟩

/-- What one request does to a session that has been opened. -/
theorem turn_request (hw : w.Reachable) (ho : o ∈ w.opened) (req : Request) :
    ∃ o' ∈ (w.request req).2.opened, o.session.Turn o'.session (w.resets o.session.id req)
      fun slot => w.given? (o.session.handle slot) req := by
  have hn := numbered_of_reachable hw
  obtain ⟨hs, hm⟩ := sound_and_regular hw ho
  by_cases hreq : req.session? = some o.session.id
  case neg =>
    have hnone : w.granting? o.session.id req = none := by rw [granting?, if_neg fun h => hreq h.1]
    exact ⟨o, mem_request_of_session?_ne hn ho hreq, turn_of_granting?_eq_none hnone⟩
  refine turn_of_session? hn ho hreq (fun hfind => ?_) fun hfind => ?_
  · cases req with
    | openText | openFile | disturb => cases hreq
    | ask | close | grantWrite =>
      cases hreq
      refine ⟨o, ?_, rfl⟩
      simpa only [request, atRegistry, hfind] using ho
    | drop id =>
      cases hreq
      exact ⟨{ o with dropped := true }, List.mem_map.2 ⟨o, ho, if_pos rfl⟩, rfl⟩
  · cases req with
    | openText | openFile | disturb => cases hreq
    | ask id op =>
      cases hreq
      have hturn := turn_perform op hs hm w.workspace.files o.session.id
      rw [request, hfind]
      exact ⟨_, mem_setSession_self ho hturn.id, hturn⟩
    | close i id =>
      cases hreq
      exact turn_atRegistry ho hfind (turn_close (w.registries i) o.session i o.session.id)
    | grantWrite i id =>
      cases hreq
      exact turn_atRegistry ho hfind (turn_grantWrite (w.registries i) hm i o.session.id)
    | drop id =>
      cases hreq
      exact ⟨{ o with dropped := true }, List.mem_map.2 ⟨o, ho, if_pos rfl⟩, .refl o.session⟩

/-! ### Many requests -/

/-- Generations are counted in a machine word, so they are the same after no steps, and then not
    before the word has been gone through. -/
theorem generation_eq_iff (generation : UInt64) {n : Nat} (hn : n < UInt64.size) :
    generation + UInt64.ofNat n = generation ↔ n = 0 := by
  rw [← UInt64.toNat_inj, UInt64.toNat_add, UInt64.toNat_ofNat']
  have := generation.toNat_lt
  rw [UInt64.size] at hn
  omega

/-- What a handle names after its session has been reset `n` times: the segment `g`, and if the
    number is not zero, nothing. -/
structure Tracks (w : World) (h : Handle) (n : Nat) (g : Segment) (o : Opened) : Prop where
  mem : o ∈ w.opened
  id : o.session.id = h.session
  generation : o.session.generation = h.generation + UInt64.ofNat n
  kept : n = 0 → o.session.segments.get? h.slot = some g

variable {h : Handle} {n : Nat} {g : Segment}

theorem Tracks.request (ht : w.Tracks h n g o) (hw : w.Reachable) (req : Request) :
    ∃ o', (w.request req).2.Tracks h (n + if w.resets h.session req then 1 else 0)
      (g.rewritten (w.given? h req)) o' := by
  obtain ⟨o', ho', hturn⟩ := turn_request hw ht.mem req
  rw [ht.id] at hturn
  refine ⟨o', ho', hturn.id.trans ht.id, ?_, fun hn => ?_⟩
  · rw [hturn.generation, ht.generation]
    split
    · rw [UInt64.ofNat_add, ← UInt64.add_assoc]
      rfl
    · rfl
  · obtain ⟨rfl, hreset⟩ := Nat.add_eq_zero_iff.1 hn
    have hkept := hturn.kept (by simpa using hreset) h.slot g (ht.kept rfl)
    -- Without a reset, the handle is that of the slot still.
    have hhandle : o.session.handle h.slot = h := by
      rw [handle, ht.id, ht.generation]
      exact congrArg (Handle.mk h.session · h.slot) ((generation_eq_iff _ (by decide)).2 rfl)
    rw [hkept, hhandle]

theorem tracks_run (hw : w.Reachable) (ht : w.Tracks h n g o) (reqs : List Request) :
    ∃ o', (w.run reqs).Tracks h (n + w.resetCount h.session reqs)
      (g.rewritten (w.given h reqs).getLast?) o' := by
  induction reqs generalizing w n g o with
  | nil => exact ⟨o, ht⟩
  | cons req reqs ih =>
    obtain ⟨o', ht'⟩ := ht.request hw req
    obtain ⟨o'', ht''⟩ := ih (.request req hw) ht'
    refine ⟨o'', ?_⟩
    rw [resetCount_cons, getLast?_given_cons, ← Segment.rewritten_rewritten, ← Nat.add_assoc]
    exact ht''

/-- What is made of a handle that is tracked. -/
theorem Tracks.presented (ht : w.Tracks h n g o) (hw : w.Reachable) (hn : n < UInt64.size) {x : Opened}
    (hx : x ∈ w.opened) : x.session.Presented h n g := by
  have hissuer (hid : x.session.id = h.session) : x = o :=
    (numbered_of_reachable hw).eq_of_id hx ht.mem (hid.trans ht.id.symm)
  have hgeneration (hid : x.session.id = h.session) :
      x.session.generation = h.generation ↔ n = 0 := by
    rw [hissuer hid, ht.generation, generation_eq_iff _ hn]
  have hkept (hid : x.session.id = h.session) (hzero : n = 0) :
      x.session.segments.get? h.slot = some g := by
    rw [hissuer hid, ht.kept hzero]
  refine ⟨fun hid => ⟨fun ⟨slot, hslot⟩ => ?_, fun ⟨hopen, hzero⟩ => ⟨h.slot, ?_⟩⟩,
    fun ⟨slot, hslot⟩ => ?_, fun hclosed => ?_, fun hopen hid => ?_, fun hopen hid hne => ?_,
    edit_readOnly⟩
  · obtain ⟨hopen, hhandle, _⟩ := resolve_eq_ok_iff.1 hslot
    exact ⟨hopen, (hgeneration hid).1 (by rw [hhandle]; rfl)⟩
  · refine resolve_eq_ok_iff.2 ⟨hopen, ?_, Arena.lt_size_of_get? (hkept hid hzero)⟩
    rw [handle, hid, (hgeneration hid).2 hzero]
  · obtain ⟨hopen, hhandle, _⟩ := resolve_eq_ok_iff.1 hslot
    have hid : x.session.id = h.session := by rw [hhandle]; rfl
    have hzero : n = 0 := (hgeneration hid).1 (by rw [hhandle]; rfl)
    obtain rfl : slot = h.slot := by rw [hhandle]; rfl
    have hsegment := segment_of_resolve hslot (hkept hid hzero)
    exact ⟨hsegment, by rw [text, hsegment, ok_bind]; rfl⟩
  · exact refuses_of_resolve (resolve_of_closed hclosed h)
  · exact refuses_of_resolve (resolve_of_foreign hopen hid)
  · have hg : h.generation ≠ x.session.generation := fun heq =>
      hne ((hgeneration hid).1 heq.symm)
    exact ⟨hg, refuses_of_resolve (resolve_of_stale hopen hid hg)⟩

/-! ### Handles that are given out -/

/-- At a request, the session of the number gives out a handle: in its answer, or among the handles
    that it shows then. -/
inductive Issues (w : World) (req : Request) : SessionId → Handle → Prop
  | answered {id : SessionId} {op : Operation} {hs : List Handle} {h : Handle} :
      req = .ask id op → (w.request req).1 = .ok (.handles hs) → h ∈ hs → Issues w req id h
  | shown {o : Opened} {h : Handle} :
      o ∈ (w.request req).2.opened → h ∈ o.session.shown → Issues w req o.session.id h

/-- The segment for which a handle is given out. That of an edit has been added, and that of a query
    is one of those into which the document has been cut. -/
structure IssuedFor (w : World) (req : Request) (id : SessionId) (h : Handle) (g : Segment)
    (o : Opened) : Prop where
  mem : o ∈ (w.request req).2.opened
  issuer : o.session.id = id
  session : h.session = id
  shown : (h, g) ∈ o.session.allSegments
  added : ∀ e, req = .ask id (.edit e) → (w.request req).1 = .ok (.handles [h]) →
    ∃ text, e.added? = some text ∧ g = { text }
  queried : ∀ q hs, req = .ask id (.query q) → (w.request req).1 = .ok (.handles hs) →
    q.segments o.session.settings o.session.document = .ok (o.session.allSegments.map Prod.snd) ∧
      hs = q.pick o.session.allSegments

/-- A session that answers has been found, and is there still. -/
theorem exists_run_of_answer {op : Operation} {hs : List Handle}
    (h : (w.request (.ask id op)).1 = .ok (.handles hs)) : ∃ x ∈ w.opened, ∃ s files,
      op.perform.run (x.session, w.workspace.files) = (.ok (.handles hs), (s, files)) ∧
      s.id = id ∧ { x with session := s } ∈ (w.request (.ask id op)).2.opened := by
  rw [request] at h ⊢
  cases hfind : w.find? id with
  | none => rw [hfind] at h; cases h
  | some x =>
  rw [hfind] at h
  obtain ⟨hx, rfl⟩ := of_find? hfind
  have hid := (effect_perform op x.session w.workspace.files).sameRights.id
  exact ⟨x, hx, _, _, Prod.ext h rfl, hid, mem_setSession_self hx hid⟩

/-- Whatever gives out a handle gives it out for a segment. -/
theorem issuedFor_of_issues {req : Request} (hw : w.Reachable) (hi : w.Issues req id h) :
    ∃ g o, w.IssuedFor req id h g o := by
  have hw' : (w.request req).2.Reachable := .request req hw
  have hn' := numbered_of_reachable hw'
  -- The session shows the segment of the handle, however it has given out the handle.
  obtain ⟨o, ho, rfl, g, hg⟩ : ∃ o ∈ (w.request req).2.opened, o.session.id = id ∧
      ∃ g, (h, g) ∈ o.session.allSegments := by
    cases hi with
    | @answered _ op _ _ hreq hanswer hmem =>
      subst hreq
      obtain ⟨x, hx, s, files, hrun, hid, ho⟩ := exists_run_of_answer hanswer
      exact ⟨_, ho, hid, exists_of_answer (sound_and_regular hw hx).1 hrun hmem⟩
    | @shown o _ ho hshown =>
      exact ⟨o, ho, rfl, exists_of_shown (sound_and_regular hw' ho).1.linked hshown⟩
  have hl := (sound_and_regular hw' ho).1.linked
  refine ⟨g, o, ho, rfl, ?_, hg, fun e hreq hanswer => ?_, fun q hs hreq hanswer => ?_⟩
  · obtain ⟨slot, rfl, _⟩ := (mem_allSegments hl).1 hg
    rfl
  · subst hreq
    obtain ⟨x, hx, s, files, hrun, hid, ho'⟩ := exists_run_of_answer hanswer
    obtain rfl := hn'.eq_of_id ho ho' hid.symm
    obtain ⟨new, hedit, hnew⟩ := edit_of_perform hrun
    obtain rfl : new = some h := by cases new <;> cases hnew; rfl
    obtain ⟨text, hadded, htext⟩ := allSegments_of_edit (sound_and_regular hw hx).1.linked hedit
    exact ⟨text, hadded, segment_unique hl hg htext⟩
  · subst hreq
    obtain ⟨x, hx, s, files, hrun, hid, ho'⟩ := exists_run_of_answer hanswer
    obtain rfl := hn'.eq_of_id ho ho' hid.symm
    exact allSegments_of_query (sound_and_regular hw hx).1 (query_of_perform hrun)

/-- A handle names the segment for which it was given out until its session is closed or reset, and
    the text of the segment is the one that was last given through the handle. -/
theorem handles_exact {req : Request} (hw : w.Reachable) (hi : w.Issues req id h) :
    ∃ g o, w.IssuedFor req id h g o ∧ ∀ reqs,
      (w.request req).2.resetCount id reqs < UInt64.size →
      ∀ x ∈ ((w.request req).2.run reqs).opened, x.session.Presented h
        ((w.request req).2.resetCount id reqs)
        (g.rewritten ((w.request req).2.given h reqs).getLast?) := by
  have hw' : (w.request req).2.Reachable := .request req hw
  obtain ⟨g, o, hissued⟩ := issuedFor_of_issues hw hi
  refine ⟨g, o, hissued, fun reqs hcount x hx => ?_⟩
  obtain ⟨slot, hslot, hget⟩ :=
    (mem_allSegments (sound_and_regular hw' hissued.mem).1.linked).1 hissued.shown
  have ht : (w.request req).2.Tracks h 0 g o := by
    refine ⟨hissued.mem, hissued.issuer.trans hissued.session.symm, ?_, fun _ => ?_⟩
    · rw [hslot]
      exact ((generation_eq_iff _ (by decide)).2 rfl).symm
    · rw [hslot, ← hget]
      rfl
  obtain ⟨o', ht'⟩ := tracks_run hw' ht reqs
  rw [Nat.zero_add, hissued.session] at ht'
  exact ht'.presented (reachable_run hw' reqs) hcount hx

/-- The segment of a file gets another text while a text is added before it. -/
theorem handles_exact_edited :
    (∀ x ∈ ((solo "x" ((writer "x").decompose [{ text := "x" }])).run
      [.ask ⟨1⟩ (.edit (.setText ⟨⟨1⟩, 0, 0⟩ "y")), .ask ⟨1⟩ (.edit (.addFirst "z"))]).opened,
      x.session.text ⟨⟨1⟩, 0, 0⟩ = .ok "y") ∧
    ∀ x ∈ ((solo "x" ((writer "x").decompose [{ text := "x" }])).run
      [.ask ⟨1⟩ (.edit (.setText ⟨⟨1⟩, 0, 0⟩ "y")), .ask ⟨1⟩ .cancel]).opened,
      x.session.resolve ⟨⟨1⟩, 0, 0⟩ = .error (.staleHandle 0 1) := by
  have h₀ : (solo "x" (writer "x")).Reachable :=
    .request (.openFile 0 "a" .readWrite) (.start ⟨(solo "x" (writer "x")).workspace.files, 0⟩)
  have hi : (solo "x" (writer "x")).Issues (.ask ⟨1⟩ (.query .everything)) ⟨1⟩ ⟨⟨1⟩, 0, 0⟩ :=
    .answered rfl rfl (List.mem_singleton_self _)
  obtain ⟨g, _, _, hruns⟩ := handles_exact h₀ hi
  refine ⟨fun x hx => ?_, fun x hx => ?_⟩
  · have hpresented := hruns _ (by decide) x hx
    obtain rfl := List.mem_singleton.1 hx
    exact (hpresented.names ((hpresented.resolves rfl).2 ⟨rfl, rfl⟩)).2
  · have hpresented := hruns _ (by decide) x hx
    obtain rfl := List.mem_singleton.1 hx
    exact (hpresented.stale rfl rfl (by decide)).2.resolve

end World

end ScriptKeeper.Inspection
