import ScriptKeeper.Proofs.Inspection.Commit
import ScriptKeeper.Proofs.Inspection.World

/-!
# Generations

The generation of a session goes up when its decomposition is given up, and at no other time. What
gives it up is said from the outside, by the request and the state of the session that it finds
(`resetBy`). A request that is granted and does not reset the session leaves every segment in its
slot; only an edit through the handle of a segment gives it another text (`gives?`).

* `Turn`: what a request does to the generation and the slots of a session;
* `turn_perform`: every operation is such a turn, with one case per operation;
* `Regular`: sessions that commit by themselves are those that may only read.
-/

namespace ScriptKeeper.Inspection

/-- The segment with a text that it has been given, if it has been given one. -/
def Segment.rewritten (g : Segment) (text? : Option String) : Segment :=
  { g with text := text?.getD g.text }

@[simp] theorem Segment.rewritten_none (g : Segment) : g.rewritten none = g := rfl

/-- Of two texts, the later one stays. -/
theorem Segment.rewritten_rewritten (g : Segment) (earlier? later? : Option String) :
    (g.rewritten earlier?).rewritten later? = g.rewritten (later?.or earlier?) := by
  cases later? <;> rfl

/-- The text that an edit gives to the segment of a handle. -/
def Edit.gives? (h : Handle) : Edit → Option String
  | .setText anchor text => if anchor = h then some text else none
  | .delete anchor => if anchor = h then some "" else none
  | .addFirst _ | .addLast _ | .addBefore .. | .addAfter .. => none

/-- The text that an operation gives to the segment of a handle. -/
def Operation.gives? (h : Handle) : Operation → Option String
  | .edit e => e.gives? h
  | _ => none

namespace Session

variable {s s' : Session}

/-- Whether a request that is granted makes the session give up its decomposition, or whatever else
    its handles name: a commit while there is a decomposition, every cancel, another document,
    permission to write where there was none, the end of the session, and a query or new settings
    if the session may only read and has a decomposition. -/
def resetBy (s : Session) : Request → Bool
  | .ask _ (.commit _) => s.phase == .active
  | .ask _ .cancel | .ask _ (.setEverything _) => true
  | .ask _ (.query _) | .ask _ (.changeSettings _) => s.mode == .read && s.phase == .active
  | .grantWrite .. => s.mode == .read
  | .close .. => !s.closed && s.path?.isSome
  | _ => false

/-! ### Who commits by itself -/

/-- A session commits by itself if it may only read, and a text may always be edited. -/
structure Regular (s : Session) : Prop where
  autoCommit : s.autoCommit = (s.mode == .read)
  text : s.source = .text → s.mode = .readWrite

theorem regular_start (id : SessionId) (path : CanonicalPath) (mode : Mode) (document : String) :
    (start id (.file path) mode document).Regular where
  autoCommit := rfl
  text h := by cases h

theorem autoCommit_of_ready {r : Session} (h : s.ready = .ok r) : r.autoCommit = s.autoCommit := by
  rcases ready_cases h with ⟨_, rfl⟩ | ⟨_, _, rfl⟩ <;> rfl

theorem autoCommit_of_effect {files files' : FileTree} (h : Effect s files s' files') :
    s'.autoCommit = s.autoCommit := by
  cases h with
  | replace | write => rfl
  | step h =>
    cases h with
    | stay | drop | edit => rfl
    | settings _ hr | decompose _ hr =>
      have hsame := autoCommit_of_ready hr
      exact hsame

theorem Regular.effect {files files' : FileTree} (hs : s.Regular)
    (h : Effect s files s' files') : s'.Regular where
  autoCommit := by rw [autoCommit_of_effect h, h.sameRights.mode, hs.autoCommit]
  text htext := by rw [h.sameRights.mode, hs.text (h.sameRights.source ▸ htext)]

/-! ### Turns -/

/-- What becomes of the handles of a session. If it is reset, the generation goes up. Otherwise the
    generation stays, and each segment stays in its slot, with the text that it is given there. -/
structure Turn (s s' : Session) (reset : Bool) (given? : Nat → Option String) : Prop where
  id : s'.id = s.id
  generation : s'.generation = if reset then s.generation + 1 else s.generation
  kept : reset = false → ∀ slot g, s.segments.get? slot = some g →
    s'.segments.get? slot = some (g.rewritten (given? slot))

theorem Turn.refl (s : Session) : s.Turn s false fun _ => none where
  id := rfl
  generation := rfl
  kept _ _ _ hg := hg

/-- A session that has been reset, whatever else has been done to it. -/
theorem turn_of_reset {given? : Nat → Option String} (hid : s'.id = s.id)
    (hgeneration : s'.generation = s.generation + 1) : s.Turn s' true given? where
  id := hid
  generation := hgeneration
  kept h := by cases h

/-- Getting ready resets the session if it has a decomposition, and otherwise there are no segments
    to keep. -/
theorem turn_of_ready {r : Session} {given? : Nat → Option String} (hs : s.Sound)
    (hm : s.Regular) (hr : s.ready = .ok r) (hid : s'.id = r.id)
    (hgeneration : s'.generation = r.generation) :
    s.Turn s' (s.mode == .read && s.phase == .active) given? := by
  rcases ready_cases hr with ⟨hp, hrs⟩ | ⟨hp, ha, rfl⟩
  · have hidle : (s.mode == .read && s.phase == .active) = false := by simp [hp]
    rw [hrs] at hid hgeneration
    rw [hidle]
    refine ⟨hid, hgeneration, fun _ slot g hg => ?_⟩
    rw [hs.idle hp] at hg
    cases hg
  · have hactive : (s.mode == .read && s.phase == .active) = true := by
      rw [← hm.autoCommit, ha, hp]
      rfl
    rw [hactive]
    exact turn_of_reset hid hgeneration

/-- An edit leaves every segment in its slot, and changes its text only through its handle. -/
theorem get?_edited {e : Edit} {added : Option Nat} {arena : Arena}
    (he : s.edited e = .ok (added, arena)) {slot : Nat} {g : Segment}
    (hg : s.segments.get? slot = some g) :
    arena.get? slot = some (g.rewritten (e.gives? (s.handle slot))) := by
  have hold : slot ≠ s.segments.size := by
    rintro rfl
    simp [Arena.get?, Arena.size] at hg
  have hkept (previous next : Option Nat) (segment : Segment) :
      (s.segments.insertBetween previous next segment).2.get? slot = some g := by
    rw [Arena.get?_insertBetween, if_neg hold, hg]
  cases edited_eq_ok he with
  | @setText x | @delete x =>
    rw [Arena.get?_setText, Edit.gives?, hg]
    by_cases hslot : x = slot
    · simp [hslot, Segment.rewritten]
    · simp [hslot, s.handle_injective.eq_iff]
  | addFirst | addLast => exact hkept _ _ _
  | addBefore _ hinsert | addAfter _ hinsert =>
    obtain ⟨_, _, hinsert⟩ := Option.map_eq_some_iff.1 hinsert
    cases hinsert
    exact hkept _ _ _

theorem turn_edit {e : Edit} {new : Option Handle} (h : (edit e).run s = (.ok new, s')) :
    s.Turn s' false fun slot => e.gives? (s.handle slot) := by
  obtain ⟨_, _, he, _, rfl⟩ := edit_eq_ok h
  exact ⟨rfl, rfl, fun _ _ _ hg => get?_edited he hg⟩

theorem turn_query {q : Query} {hs : List Handle} {given? : Nat → Option String}
    (hsound : s.Sound) (hm : s.Regular) (h : (query q).run s = (.ok hs, s')) :
    s.Turn s' (s.mode == .read && s.phase == .active) given? := by
  rw [run_query] at h
  split at h
  next segments r hp =>
    obtain ⟨_, _, hr⟩ := plan_eq_ok hp
    split at h <;> cases h <;> exact turn_of_ready hsound hm hr rfl rfl
  next => cases h

theorem turn_changeSettings {settings : SearchSettings} {given? : Nat → Option String}
    (hs : s.Sound) (hm : s.Regular) (h : (changeSettings settings).run s = (.ok (), s')) :
    s.Turn s' (s.mode == .read && s.phase == .active) given? := by
  rw [run_changeSettings] at h
  split at h
  next r hr =>
    cases h
    obtain ⟨_, _, hr⟩ := bind_eq_ok_iff.1 hr
    exact turn_of_ready hs hm hr rfl rfl
  next => cases h

theorem turn_setEverything {text : String} {given? : Nat → Option String}
    (h : (setEverything text).run s = (.ok (), s')) : s.Turn s' true given? := by
  rw [run_setEverything] at h
  split at h
  · split at h <;> cases h
    exact turn_of_reset rfl rfl
  · cases h

theorem turn_commit {fault : Option WriteFault} {files files' : FileTree}
    {outcome : CommitOutcome} (h : (commit fault).run (s, files) = (.ok outcome, (s', files'))) :
    s.Turn s' (s.phase == .active) fun _ => none := by
  rw [run_commit] at h
  split at h
  · cases h
  split at h
  next hp =>
    cases h
    rw [hp]
    exact .refl s
  next hp =>
  -- Whatever is stored, and wherever, the decomposition has ended.
  have hactive : (s.phase == .active) = true := by cases hphase : s.phase <;> simp_all
  rw [hactive]
  split at h
  · cases h
    exact turn_of_reset rfl rfl
  split at h
  · cases h
    exact turn_of_reset rfl rfl
  · dsimp only at h
    split at h <;> cases h
    exact turn_of_reset rfl rfl

/-- What an operation that is granted does to the handles of its session. -/
theorem turn_of_ok {op : Operation} {files files' : FileTree} {answer : Answer} (hs : s.Sound)
    (hm : s.Regular) (h : op.perform.run (s, files) = (.ok answer, (s', files')))
    (id : SessionId) :
    s.Turn s' (s.resetBy (.ask id op)) fun slot => op.gives? (s.handle slot) := by
  cases op with
  | look l h' =>
    obtain rfl : s = s' := (Prod.mk.inj (Prod.mk.inj h).2).1
    exact .refl s
  | cancel =>
    cases h
    exact turn_of_reset rfl rfl
  | changeSettings settings =>
    obtain ⟨_, hchange, _⟩ := bind_pure_eq_ok h
    exact turn_changeSettings hs hm (filed_eq_ok hchange)
  | query q =>
    obtain ⟨_, hq, _⟩ := bind_pure_eq_ok h
    exact turn_query hs hm (filed_eq_ok hq)
  | edit e =>
    obtain ⟨_, hedit, _⟩ := bind_pure_eq_ok h
    exact turn_edit (filed_eq_ok hedit)
  | setEverything text =>
    obtain ⟨_, hset, _⟩ := bind_pure_eq_ok h
    exact turn_setEverything (filed_eq_ok hset)
  | commit fault =>
    obtain ⟨_, hc, _⟩ := bind_pure_eq_ok h
    exact turn_commit hc

/-- What an operation does to the handles of its session: if it fails, nothing. -/
theorem turn_perform (op : Operation) (hs : s.Sound) (hm : s.Regular) (files : FileTree)
    (id : SessionId) :
    s.Turn (op.perform.run (s, files)).2.1
      ((op.perform.run (s, files)).1.isOk && s.resetBy (.ask id op))
      fun slot =>
        if (op.perform.run (s, files)).1.isOk then op.gives? (s.handle slot) else none := by
  cases h : op.perform.run (s, files) with
  | mk result t =>
  cases result with
  | error e =>
    rw [allOrNothing_perform op _ _ _ h]
    exact .refl s
  | ok answer => exact turn_of_ok hs hm h id

/-! ### What a registry does -/

theorem turn_close (r : Registry) (s : Session) (i : Nat) (id : SessionId) :
    s.Turn (Registry.close.run (r, s)).2.2
      ((Registry.close.run (r, s)).1.isOk && s.resetBy (.close i id)) fun _ => none := by
  rw [Registry.run_close, resetBy]
  cases s.closed with
  | true => exact .refl s
  | false =>
  cases s.path? with
  | none => exact .refl s
  | some path =>
    simp only [Bool.false_eq_true, if_false]
    split
    · exact turn_of_reset rfl rfl
    · exact .refl s

theorem turn_grantWrite (r : Registry) (hm : s.Regular) (i : Nat) (id : SessionId) :
    s.Turn (Registry.grantWrite.run (r, s)).2.2
      ((Registry.grantWrite.run (r, s)).1.isOk && s.resetBy (.grantWrite i id)) fun _ => none := by
  rw [Registry.run_grantWrite, resetBy]
  split
  · exact .refl s
  split
  next hmode =>
    rw [hmode]
    exact .refl s
  next hmode =>
  have hread : s.mode = .read := by cases hs : s.mode <;> simp_all
  rw [hread]
  split
  next hpath =>
    -- A session without a file may write already.
    have htext : s.source = .text := by
      rw [path?] at hpath
      split at hpath
      · assumption
      · cases hpath
    exact absurd (hm.text htext) hmode
  next =>
    split
    · exact .refl s
    split
    · exact turn_of_reset rfl rfl
    · exact .refl s

end Session

end ScriptKeeper.Inspection
