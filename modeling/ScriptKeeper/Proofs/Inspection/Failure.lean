import ScriptKeeper.Proofs.Inspection.World

/-!
# Failures leave no trace

Every operation checks all that can be wrong before it changes anything, and a file that cannot be
written is as it was. So a request that fails leaves the sessions, the tables of locks and the files
as they were; only a number may be used up by a file that is found and cannot be read.

* `query_error`: a query that cannot be made leaves even a decomposition that it would have ended;
* `request_error`: the world after a request that failed;
* `failures_leave_no_trace`: what this means for what comes next.
-/

namespace ScriptKeeper.Inspection

/-- A query whose segments cannot be made leaves the session as it is. -/
theorem query_error {q : Query} {s : Session} {e : InspectionError} (hopen : s.closed = false)
    (h : q.segments s.settings s.document = .error e) :
    (Session.query q).run s = (.error e, s) := by
  have ho : s.ensureOpen = .ok () := Session.ensureOpen_eq_ok_iff.2 hopen
  rw [Session.run_query, Session.plan, ho, ok_bind, h, error_bind]

/-- A pattern that does not compile, or one that is searched for from right to left, has no
    segments. -/
theorem segments_find_error {settings : SearchSettings} {pattern : String} {e : InspectionError}
    (h : settings.compile pattern = .error e) (document : String) :
    (Query.find pattern).segments settings document = .error e := by
  rw [Query.segments, h, error_bind]

theorem segments_findAll_error {settings : SearchSettings} {pattern : String}
    {e : InspectionError} (hl : settings.rightToLeft = false)
    (h : settings.compile pattern = .error e) (document : String) :
    (Query.findAll pattern).segments settings document = .error e := by
  rw [Query.segments, hl, h]
  rfl

theorem segments_findAll_rightToLeft {settings : SearchSettings} (h : settings.rightToLeft = true)
    (pattern document : String) : (Query.findAll pattern).segments settings document =
      .error (.unsupportedOption "right_to_left" "find_all") := by
  rw [Query.segments, h]
  rfl

namespace World

variable {w : World} {req : Request} {e : InspectionError}

theorem Numbered.atRegistry_error (h : w.Numbered) {i : Nat} {id : SessionId}
    {action : ExceptT InspectionError (StateM (Registry × Session)) Unit}
    (ha : AllOrNothing action) (he : (w.atRegistry i id action).1 = .error e) :
    (w.atRegistry i id action).2 = w := by
  rw [atRegistry] at he ⊢
  cases ho : w.find? id with
  | none => rfl
  | some o =>
  rw [ho] at he
  dsimp only at he ⊢
  cases hr : action.run (w.registries i, o.session) with
  | mk result t =>
  rw [hr] at he
  cases result with
  | ok _ => cases he
  | error e' =>
    rw [ha _ _ _ hr]
    dsimp only
    rw [setRegistry_self]
    exact h.setSession_self (of_find? ho).1

/-- A request that fails changes nothing, except that it may use up a number. -/
theorem Numbered.request_error (h : w.Numbered) (he : (w.request req).1 = .error e) :
    (w.request req).2 = w ∨
      (∃ i path mode, req = .openFile i path mode) ∧
        (w.request req).2 = { w with workspace := w.workspace.takeId } := by
  cases req with
  | openText | drop | disturb => cases he
  | openFile i path mode =>
    rw [request] at he ⊢
    cases hr : (Registry.openFile path mode).run (w.registries i, w.workspace) with
    | mk result t =>
    obtain ⟨r, workspace⟩ := t
    rw [hr] at he
    cases result with
    | ok s => cases he
    | error e' =>
      obtain ⟨rfl, rfl | rfl⟩ := Registry.openFile_error hr
      · exact .inl (setRegistry_self w i)
      · exact .inr ⟨⟨i, path, mode, rfl⟩,
          setRegistry_self { w with workspace := w.workspace.takeId } i⟩
  | ask id op =>
    rw [request] at he ⊢
    cases ho : w.find? id with
    | none => exact .inl rfl
    | some o =>
    rw [ho] at he
    dsimp only at he ⊢
    cases hr : op.perform.run (o.session, w.workspace.files) with
    | mk result t =>
    rw [hr] at he
    obtain rfl : result = .error e := he
    rw [allOrNothing_perform op _ _ _ hr]
    exact .inl (h.setSession_self (of_find? ho).1)
  | close i id => exact .inl (h.atRegistry_error Registry.allOrNothing_close he)
  | grantWrite i id => exact .inl (h.atRegistry_error Registry.allOrNothing_grantWrite he)

/-- A request that fails leaves every session, every table and every file as it was. A query that
    fails does not even end the decomposition of a session that commits by itself, and a commit
    that fails can be made again as if it had not been tried. -/
theorem failures_leave_no_trace (h : w.Reachable) :
    (∀ req e, (w.request req).1 = .error e → (w.request req).2.opened = w.opened ∧
      (w.request req).2.registries = w.registries ∧
      (w.request req).2.workspace.files = w.workspace.files) ∧
    (∀ id o pattern e, w.find? id = some o → o.session.closed = false →
      o.session.settings.compile pattern = .error e →
      w.request (.ask id (.query (.find pattern))) = (.error e, w) ∧
      (o.session.settings.rightToLeft = false →
        w.request (.ask id (.query (.findAll pattern))) = (.error e, w))) ∧
    (∀ id o pattern, w.find? id = some o → o.session.closed = false →
      o.session.settings.rightToLeft = true →
      w.request (.ask id (.query (.findAll pattern))) =
        (.error (.unsupportedOption "right_to_left" "find_all"), w)) ∧
    ∀ id fault e, (w.request (.ask id (.commit fault))).1 = .error e →
      ∀ req, (w.request (.ask id (.commit fault))).2.request req = w.request req := by
  have hn := numbered_of_reachable h
  have hquery {id : SessionId} {o : Opened} {q : Query} {e : InspectionError}
      (hfind : w.find? id = some o) (hopen : o.session.closed = false)
      (hq : q.segments o.session.settings o.session.document = .error e) :
      w.request (.ask id (.query q)) = (.error e, w) := by
    rw [request, hfind]
    dsimp only
    rw [Operation.perform, run_bind_pure, run_filed, query_error hopen hq]
    exact Prod.ext rfl (hn.setSession_self (of_find? hfind).1)
  refine ⟨fun req e he => ?_, fun id o pattern e hfind hopen hc => ⟨?_, fun hl => ?_⟩,
    fun id o pattern hfind hopen hr => ?_, fun id fault e he req => ?_⟩
  · rcases hn.request_error he with hsame | ⟨_, hsame⟩ <;> rw [hsame] <;> exact ⟨rfl, rfl, rfl⟩
  · exact hquery hfind hopen (segments_find_error hc _)
  · exact hquery hfind hopen (segments_findAll_error hl hc _)
  · exact hquery hfind hopen (segments_findAll_rightToLeft hr _ _)
  · rcases hn.request_error he with hsame | ⟨⟨_, _, _, hreq⟩, _⟩
    · rw [hsame]
    · cases hreq

/-- A file that could not be written as a whole is written later. -/
theorem failures_leave_no_trace_retried :
    (((solo "x" ((writer "x").decompose [{ text := "y" }])).request
      (.ask ⟨1⟩ (.commit (some (.write (.text "") "No space left on device"))))).2.request
        (.ask ⟨1⟩ (.commit none))).1 = .ok (.outcome (.committed 1)) := by
  have h₀ : (solo "x" (writer "x")).Reachable :=
    .request (.openFile 0 "a" .readWrite) (.start ⟨(solo "x" (writer "x")).workspace.files, 0⟩)
  have h₁ : (solo "x" ((writer "x").decompose [{ text := "x" }])).Reachable :=
    .request (.ask ⟨1⟩ (.query .everything)) h₀
  have h₂ : (solo "x" ((writer "x").decompose [{ text := "y" }])).Reachable :=
    .request (.ask ⟨1⟩ (.edit (.setText ⟨⟨1⟩, 0, 0⟩ "y"))) h₁
  rw [(failures_leave_no_trace h₂).2.2.2 ⟨1⟩ _
    (.fileWrite "/home/a" (.system "No space left on device")) rfl]
  rfl

end World

end ScriptKeeper.Inspection
