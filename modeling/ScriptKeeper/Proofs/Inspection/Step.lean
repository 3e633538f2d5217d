import ScriptKeeper.Proofs.Files.Write
import ScriptKeeper.Proofs.Inspection.Edit
import ScriptKeeper.Proofs.Inspection.Query

/-!
# What an operation does

Whatever is asked of a session, one of few things happens to it (`Step`): it stays as it is, makes
way for new settings or a new decomposition, has a segment edited, or ends its decomposition with
some document. The files stay with it, unless the operation is a commit that saves
(`effect_perform`). An operation that fails has changed neither the session nor a file
(`allOrNothing_perform`).

* `run_changeSettings`, `run_setEverything`, `run_commit`, `run_upgrade`: the runs of the
  operations that are neither queries nor edits.
-/

namespace ScriptKeeper.Inspection.Session

variable {s s' : Session}

/-! ### Runs -/

theorem run_changeSettings (settings : SearchSettings) (s : Session) :
    (changeSettings settings).run s = match s.ensureOpen >>= fun _ => s.ready with
      | .ok r => (.ok (), { r with settings })
      | .error e => (.error e, s) := by
  rw [changeSettings, run_bind, run_get]
  dsimp only
  rw [run_bind, run_lift]
  cases s.ensureOpen with
  | error e => rfl
  | ok _ =>
    dsimp only
    rw [run_bind, run_beginQuery, ok_bind]
    cases s.ready <;> rfl

theorem run_setEverything (text : String) (s : Session) :
    (setEverything text).run s = match s.ensureOpen with
      | .ok _ =>
        if s.source = .text then (.ok (), { s.reset with document := text })
        else (.error (.textOnly s.id), s)
      | .error e => (.error e, s) := by
  rw [setEverything, run_bind, run_get]
  dsimp only
  rw [run_bind, run_lift]
  cases s.ensureOpen with
  | error e => rfl
  | ok _ =>
    dsimp only
    by_cases hs : s.source = .text
    · simp [hs]
    · rw [if_pos hs, if_neg hs, ExceptT.bind_throw]
      rfl

/-- A commit is refused by a closed session, and does nothing without a decomposition. A session
    that may not write, or has nothing new, only drops its decomposition. -/
theorem run_commit (fault : Option WriteFault) (s : Session) (files : FileTree) :
    (commit fault).run (s, files) =
    if s.closed then (.error (.closed s.id), (s, files))
    else if s.phase = .idle then (.ok .noChanges, (s, files))
    else if !s.isWritable ∨ s.segments.reconstruct = s.document then
      (.ok .noChanges, (s.reset, files))
    else match s.source with
      | .text => (.ok (.committed s.segments.reconstruct.utf8ByteSize),
          ({ s.reset with document := s.segments.reconstruct }, files))
      | .file path =>
        let stored := Text.normalize Text.hostNewline s.segments.reconstruct
        match (FileTree.writeAt path.location stored fault).run files with
        | (.ok _, files') =>
          (.ok (.committed stored.utf8ByteSize), ({ s.reset with document := stored }, files'))
        | (.error cause, files') => (.error (.fileWrite path.text cause), (s, files')) := by
  rw [commit, run_bind, run_get]
  dsimp only
  rw [run_bind, run_lift, ensureOpen]
  cases s.closed with
  | true => rfl
  | false =>
    rw [if_neg Bool.false_ne_true, if_neg Bool.false_ne_true]
    dsimp only
    split
    · rfl
    split
    · rfl
    cases s.source with
    | text => rfl
    | file path =>
      dsimp only
      rcases (FileTree.writeAt path.location _ fault).run files with ⟨_ | _, _⟩ <;> rfl

/-- The session with permission to edit its document. -/
def upgraded (s : Session) : Session := { s.reset with mode := .readWrite, autoCommit := false }

theorem run_upgrade (s : Session) : upgrade.run s =
    if s.closed then (.error (.closed s.id), s)
    else if s.mode = .readWrite then (.ok (), s)
    else (.ok (), s.upgraded) := by
  rw [upgrade, run_bind, run_get]
  dsimp only
  rw [run_bind, run_lift, ensureOpen]
  cases s.closed with
  | true => rfl
  | false => cases hm : s.mode <;> simp [upgraded]

/-! ### Failures -/

theorem allOrNothing_changeSettings (settings : SearchSettings) :
    AllOrNothing (changeSettings settings) := by
  intro s e t h
  rw [run_changeSettings] at h
  split at h
  · cases h
  · cases h; rfl

theorem allOrNothing_query (q : Query) : AllOrNothing (query q) := by
  intro s e t h
  rw [run_query] at h
  split at h
  · split at h <;> cases h
  · cases h; rfl

theorem allOrNothing_edit (e : Edit) : AllOrNothing (edit e) := by
  intro s e t h
  rw [run_edit] at h
  split at h
  · cases h
  · cases h; rfl

theorem allOrNothing_setEverything (text : String) : AllOrNothing (setEverything text) := by
  intro s e t h
  rw [run_setEverything] at h
  split at h
  · split at h
    · cases h
    · cases h; rfl
  · cases h; rfl

/-! ### Steps -/

/-- What can happen to a session that keeps its document. -/
inductive Step (s : Session) : Session → Prop
  | stay : Step s s
  | drop : Step s s.reset
  | settings {r : Session} (settings : SearchSettings) : s.ready = .ok r → s.closed = false →
      Step s { r with settings }
  | decompose {r : Session} (segments : List Segment) : s.ready = .ok r → s.closed = false →
      segments ≠ [] → Step s (r.decompose segments)
  | edit {slot : Option Nat} {arena : Arena} (e : Edit) : s.edited e = .ok (slot, arena) →
      Step s { s with segments := arena }

theorem ready_cases {r : Session} (h : s.ready = .ok r) :
    s.phase = .idle ∧ r = s ∨ s.phase = .active ∧ s.autoCommit = true ∧ r = s.reset := by
  rw [ready] at h
  split at h
  next hp => cases h; exact .inl ⟨hp, rfl⟩
  next hp ha => cases h; exact .inr ⟨hp, ha, rfl⟩
  next => cases h

theorem Step.document (h : s.Step s') : s'.document = s.document := by
  cases h with
  | stay | drop | edit => rfl
  | settings _ hr | decompose _ hr =>
    have hsame := document_of_ready hr
    exact hsame

/-- What no operation changes: the session, where its document comes from, and what it may do with
    it. -/
structure SameRights (s s' : Session) : Prop where
  id : s'.id = s.id
  source : s'.source = s.source
  mode : s'.mode = s.mode
  closed : s'.closed = s.closed

theorem sameRights_of_ready {r : Session} (h : s.ready = .ok r) : s.SameRights r := by
  rcases ready_cases h with ⟨_, rfl⟩ | ⟨_, _, rfl⟩ <;> exact ⟨rfl, rfl, rfl, rfl⟩

theorem Step.sameRights (h : s.Step s') : s.SameRights s' := by
  cases h with
  | stay | drop | edit => exact ⟨rfl, rfl, rfl, rfl⟩
  | settings _ hr | decompose _ hr =>
    have hsame := sameRights_of_ready hr
    exact ⟨hsame.id, hsame.source, hsame.mode, hsame.closed⟩

theorem step_changeSettings (settings : SearchSettings) (s : Session) :
    s.Step ((changeSettings settings).run s).2 := by
  rw [run_changeSettings]
  cases hr : s.ensureOpen >>= fun _ => s.ready with
  | error e => exact .stay
  | ok r =>
    obtain ⟨_, ho, hr⟩ := bind_eq_ok_iff.1 hr
    exact .settings settings hr (ensureOpen_eq_ok_iff.1 ho)

theorem step_query (q : Query) (s : Session) : s.Step ((query q).run s).2 := by
  rw [run_query]
  cases hp : s.plan q with
  | error e => exact .stay
  | ok p =>
    obtain ⟨segments, r⟩ := p
    obtain ⟨ho, _, hr⟩ := plan_eq_ok hp
    have hopen := ensureOpen_eq_ok_iff.1 ho
    dsimp only
    split
    next => exact .settings r.settings hr hopen
    next hne => exact .decompose segments hr hopen hne

theorem step_edit (e : Edit) (s : Session) : s.Step ((edit e).run s).2 := by
  rw [run_edit]
  cases he : s.edited e with
  | error e => exact .stay
  | ok p => exact .edit e he

end Session

open Session

/-! ### Effects -/

/-- What an operation does to its session and the files: the session takes a step, or it gets
    another document. That of a file is what has been written. -/
inductive Effect (s : Session) (files : FileTree) : Session → FileTree → Prop
  | step {s' : Session} : s.Step s' → Effect s files s' files
  | replace (text : String) : s.closed = false → s.source = .text →
      Effect s files { s.reset with document := text } files
  | write {path : CanonicalPath} {stored : String} {files' : FileTree} : s.closed = false →
      s.phase = .active → s.isWritable = true → s.source = .file path →
      (FileTree.writeAt path.location stored).run files = (.ok (), files') →
      Effect s files { s.reset with document := stored } files'

theorem Effect.sameRights {s s' : Session} {files files' : FileTree}
    (h : Effect s files s' files') : s.SameRights s' := by
  cases h with
  | step h => exact h.sameRights
  | replace | write => exact ⟨rfl, rfl, rfl, rfl⟩

/-- A commit that fails has changed nothing. -/
theorem allOrNothing_commit (fault : Option WriteFault) : AllOrNothing (commit fault) := by
  rintro ⟨s, files⟩ e t h
  rw [run_commit] at h
  split at h
  · cases h; rfl
  split at h
  · cases h
  split at h
  · cases h
  split at h
  · cases h
  next path _ =>
  dsimp only at h
  split at h
  · cases h
  next cause files' hwrite =>
  cases h
  rw [FileTree.writeAt_error hwrite]

theorem effect_commit (fault : Option WriteFault) (s : Session) (files : FileTree) :
    Effect s files ((commit fault).run (s, files)).2.1 ((commit fault).run (s, files)).2.2 := by
  cases hr : (commit fault).run (s, files) with
  | mk result t =>
  cases result with
  | error e => rw [allOrNothing_commit fault _ _ _ hr]; exact .step .stay
  | ok outcome =>
  rw [run_commit] at hr
  split at hr
  · cases hr
  next hopen =>
  split at hr
  · cases hr; exact .step .stay
  next hactive =>
  -- Without permission, or with nothing new, the decomposition is only dropped.
  split at hr
  · cases hr; exact .step .drop
  next hnew =>
  have hopen : s.closed = false := by simpa using hopen
  split at hr
  next hs => cases hr; exact .replace _ hopen hs
  next path hs =>
  dsimp only at hr
  split at hr
  next hwrite =>
    cases hr
    have hactive : s.phase = .active := by cases hp : s.phase <;> simp_all
    obtain rfl := FileTree.fault_eq_none_of_writeAt hwrite
    exact .write hopen hactive (by simpa using (not_or.1 hnew).1) hs hwrite
  next => cases hr

theorem run_filed {α : Type} (action : SessionAction α) (s : Session) (files : FileTree) :
    action.filed.run (s, files) = ((action.run s).1, ((action.run s).2, files)) := rfl

theorem filed_eq_ok {α : Type} {action : SessionAction α} {s s' : Session}
    {files files' : FileTree} {a : α}
    (h : action.filed.run (s, files) = (.ok a, (s', files'))) : action.run s = (.ok a, s') := by
  rw [run_filed] at h
  obtain ⟨hresult, hstate⟩ := Prod.mk.inj h
  exact Prod.ext hresult (Prod.mk.inj hstate).1

theorem allOrNothing_filed {α : Type} {action : SessionAction α} (h : AllOrNothing action) :
    AllOrNothing action.filed := by
  rintro ⟨s, files⟩ e t hr
  rw [run_filed] at hr
  obtain ⟨he, rfl⟩ := Prod.mk.inj hr
  rw [h s e (action.run s).2 (Prod.ext he rfl)]

/-- Every operation has one of the effects. -/
theorem effect_perform (op : Operation) (s : Session) (files : FileTree) :
    Effect s files (op.perform.run (s, files)).2.1 (op.perform.run (s, files)).2.2 := by
  cases op with
  | changeSettings settings =>
    rw [Operation.perform, run_bind_pure, run_filed]
    exact .step (step_changeSettings settings s)
  | query q =>
    rw [Operation.perform, run_bind_pure, run_filed]
    exact .step (step_query q s)
  | look l h => exact .step .stay
  | edit e =>
    rw [Operation.perform, run_bind_pure, run_filed]
    exact .step (step_edit e s)
  | setEverything text =>
    rw [Operation.perform, run_bind_pure, run_filed, run_setEverything]
    cases ho : s.ensureOpen with
    | error e => exact .step .stay
    | ok _ =>
      dsimp only
      split
      next hs => exact .replace text (ensureOpen_eq_ok_iff.1 ho) hs
      next => exact .step .stay
  | cancel => exact .step .drop
  | commit fault =>
    rw [Operation.perform, run_bind_pure]
    exact effect_commit fault s files

/-- An operation that fails has changed neither its session nor a file. -/
theorem allOrNothing_perform (op : Operation) : AllOrNothing op.perform := by
  cases op with
  | changeSettings settings =>
    exact (allOrNothing_filed (allOrNothing_changeSettings settings)).bind_pure _
  | query q => exact (allOrNothing_filed (allOrNothing_query q)).bind_pure _
  | look l h =>
    intro t e t' hr
    exact (Prod.mk.inj hr).2.symm
  | edit e => exact (allOrNothing_filed (allOrNothing_edit e)).bind_pure _
  | setEverything text => exact (allOrNothing_filed (allOrNothing_setEverything text)).bind_pure _
  | cancel =>
    rintro ⟨s, files⟩ e t h
    cases h
  | commit fault => exact (allOrNothing_commit fault).bind_pure _

end ScriptKeeper.Inspection
