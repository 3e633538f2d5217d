import ScriptKeeper.Proofs.Inspection.Commit
import ScriptKeeper.Settings.File
import ScriptKeeper.Template.Script

/-!
# Writers are atomic

Five operations write files: the commit of a session, the saving and the creation of settings, and
the creation of templates and of scripts. Each of them writes a whole text or nothing (`Atomic`),
whatever is in the files and wherever the system fails: its checks come before the temporary file is
made, and from there on all of them go the same way.

* `atomic_commit`, `Settings.atomic_save`, `Settings.atomic_create`, `Template.atomic_create`,
  `Template.atomic_createScript`: what each of them writes, and where;
* `writers_atomic`: all of them together.
-/

namespace ScriptKeeper

variable {ε α : Type}

namespace FileTree

/-- The second tree is the first with a file of the given text at a location where no folder was,
    and nothing else is different. -/
structure Written (t : FileTree) (loc : Location) (text : String) (t' : FileTree) : Prop where
  notFolder : t.get? loc ≠ some .folder
  content : t'.get? loc = some (.file (.text text))
  others : ∀ other, other ≠ loc → t'.get? other = t.get? other
  base : t'.base = t.base

/-- What an atomic writer has made of a tree: nothing, if it has failed, or if there was nothing to
    write, which is what `idle` says of its result. Otherwise the system has not failed, and the only
    change is a file with the whole text at the right place. -/
inductive Atomic (t : FileTree) (fault : Option WriteFault) (idle : α → Prop)
    (place : Location → Prop) (content : String → Prop) : Except ε α × FileTree → Prop
  | failed (e : ε) : Atomic t fault idle place content (.error e, t)
  | idle {a : α} : idle a → Atomic t fault idle place content (.ok a, t)
  | written {a : α} {loc : Location} {text : String} {t' : FileTree} : fault = none → place loc →
      content text → t.Written loc text t' → Atomic t fault idle place content (.ok a, t')

/-- A writer that is atomic in every tree leaves a tree as it is if it fails. -/
theorem allOrNothing_of_atomic {x : ExceptT ε (StateM FileTree) α} {fault : Option WriteFault}
    {idle : FileTree → α → Prop} {place : FileTree → Location → Prop}
    {content : FileTree → String → Prop}
    (h : ∀ t, Atomic t fault (idle t) (place t) (content t) (x.run t)) : AllOrNothing x := by
  intro t e t' hrun
  have hatomic := h t
  rw [hrun] at hatomic
  cases hatomic
  rfl

/-- Writing in place is not atomic: what the file has got before the system fails stays in it. -/
example : ¬ ∀ t, Atomic t (some (.write (.text "ne") "No space left")) (fun _ => False)
    (· = ["a"]) (· = "new")
    ((writeText ["a"] "new" (some (.write (.text "ne") "No space left"))).run t) :=
  fun h => absurd (allOrNothing_of_atomic h ⟨"", [(["a"], .file (.text "old"))]⟩ _ _ rfl)
    (by decide)

theorem written_put {t : FileTree} {loc : Location} (hne : loc ≠ [])
    (hno : t.get? loc ≠ some .folder) (text : String) :
    t.Written loc text (t.put loc (.file (.text text))) where
  notFolder := hno
  content := get?_put_self t hne _
  others _ h := get?_put_of_ne t h _
  base := base_put t loc _

theorem TargetOf.ne_nil {t : FileTree} {path : String} {loc : Location} (h : t.TargetOf path loc) :
    loc ≠ [] :=
  let ⟨_, _, htarget⟩ := h.names
  htarget.ne_nil

theorem written_new {t : FileTree} {path : String} {loc : Location} (htarget : t.TargetOf path loc)
    (hnew : t.get? loc = none) (text : String) :
    t.Written loc text (t.put loc (.file (.text text))) :=
  written_put htarget.ne_nil (by rw [hnew]; exact nofun) text

end FileTree

open FileTree

/-! ### Sessions -/

namespace Inspection

open Session

/-- A commit writes the text of the session to its file, with the line endings of the platform. It
    writes nothing for a text, and if there is nothing that it may store. -/
theorem atomic_commit (s : Session) (t : FileTree) (fault : Option WriteFault) :
    Atomic t fault
      (fun outcome => s.source = .text ∨ outcome = .noChanges ∧
        (s.phase = .idle ∨ s.isWritable = false ∨ s.currentText = s.document))
      (fun loc => ∃ path, s.source = .file path ∧ t.Target path.location loc)
      (fun text => text = Text.normalize Text.hostNewline s.currentText)
      (((commit fault).run (s, t)).1, ((commit fault).run (s, t)).2.2) := by
  rw [run_commit]
  split
  · exact .failed _
  split
  next hidle => exact .idle (.inr ⟨rfl, .inl hidle⟩)
  next hactive =>
  have hactive : s.phase = .active := by cases hp : s.phase <;> simp_all
  have hcurrent : s.segments.reconstruct = s.currentText := by rw [currentText, hactive]
  rw [hcurrent]
  split
  next hnothing =>
    rw [Bool.not_eq_true'] at hnothing
    exact .idle (.inr ⟨rfl, .inr hnothing⟩)
  split
  next hsource => exact .idle (.inl hsource)
  next path hsource =>
  dsimp only
  rcases writeAt_target_cases t path.location (Text.normalize Text.hostNewline s.currentText)
    fault with ⟨e, he⟩ | ⟨loc, hnone, htarget, hno, hok⟩
  · rw [he]
    exact .failed _
  · rw [hok]
    exact .written hnone ⟨path, hsource, htarget⟩ rfl (written_put htarget.ne_nil hno _)

end Inspection

/-! ### Settings -/

namespace Settings

theorem run_save (s : Settings) (path : String) (t : FileTree) (fault : Option WriteFault) :
    (∃ e, (s.save path fault).run t = (.error e, t)) ∨
      ∃ loc, fault = none ∧ t.TargetOf path loc ∧ t.get? loc ≠ some .folder ∧
        (s.save path fault).run t = (.ok (), t.put loc (.file (.text s.print))) := by
  rw [save, run_bind, run_get]
  dsimp only
  rcases writePathIn_cases t (Path.folder path) path true s.print fault with
    ⟨e, he⟩ | ⟨_, loc, hnone, _, ⟨htarget, _, hno⟩, hok⟩
  · rw [writePath, he]
    exact .inl ⟨_, rfl⟩
  · rw [writePath, hok]
    exact .inr ⟨loc, hnone, htarget, hno, rfl⟩

theorem run_create (s : Settings) (path : String) (t : FileTree) (fault : Option WriteFault) :
    (∃ e, (s.create path fault).run t = (.error e, t)) ∨
      ∃ loc, fault = none ∧ t.TargetOf path loc ∧ t.get? loc = none ∧
        (s.create path fault).run t = (.ok (), t.put loc (.file (.text s.print))) := by
  rw [create, run_bind, run_get]
  dsimp only
  rcases writePathIn_cases t (Path.folder path) path false s.print fault with
    ⟨e, he⟩ | ⟨_, loc, hnone, _, ⟨htarget, hnew, _⟩, hok⟩
  · rw [writePath, he]
    cases e <;> exact .inl ⟨_, rfl⟩
  · rw [writePath, hok]
    exact .inr ⟨loc, hnone, htarget, hnew rfl, rfl⟩

theorem atomic_save (s : Settings) (path : String) (t : FileTree) (fault : Option WriteFault) :
    Atomic t fault (fun _ => False) (t.TargetOf path) (· = s.print)
      ((s.save path fault).run t) := by
  rcases s.run_save path t fault with ⟨e, he⟩ | ⟨loc, hnone, htarget, hno, hok⟩
  · rw [he]
    exact .failed _
  · rw [hok]
    exact .written hnone htarget rfl (written_put htarget.ne_nil hno _)

theorem atomic_create (s : Settings) (path : String) (t : FileTree) (fault : Option WriteFault) :
    Atomic t fault (fun _ => False) (fun loc => t.TargetOf path loc ∧ t.get? loc = none)
      (· = s.print) ((s.create path fault).run t) := by
  rcases s.run_create path t fault with ⟨e, he⟩ | ⟨loc, hnone, htarget, hnew, hok⟩
  · rw [he]
    exact .failed _
  · rw [hok]
    exact .written hnone ⟨htarget, hnew⟩ rfl (written_new htarget hnew _)

end Settings

/-! ### Templates and scripts -/

namespace Template

/-- A file is created where nothing was, or not at all. -/
theorem run_createFile (folder path text : String) (t : FileTree) (fault : Option WriteFault) :
    (∃ cause, (createFile folder path text fault).run t = (.error (.create path cause), t)) ∨
      ∃ dir loc, fault = none ∧ t.LeadsToFolder folder dir ∧ t.TargetOf path loc ∧
        t.get? loc = none ∧
        (createFile folder path text fault).run t = (.ok (), t.put loc (.file (.text text))) := by
  rw [createFile, run_bind, run_get]
  dsimp only
  rcases writePathIn_cases t folder path false text fault with
    ⟨e, he⟩ | ⟨dir, loc, hnone, hdir, ⟨htarget, hnew, _⟩, hok⟩
  · rw [he]
    exact .inl ⟨e, rfl⟩
  · rw [hok]
    exact .inr ⟨dir, loc, hnone, hdir, htarget, hnew rfl, rfl⟩

theorem atomic_create (path : String) (t : FileTree) (fault : Option WriteFault) :
    Atomic t fault (fun _ => False) (fun loc => t.TargetOf path loc ∧ t.get? loc = none)
      (· = stockText) ((create path fault).run t) := by
  rw [create, run_bind, run_lift]
  cases ofPath path with
  | error e => exact .failed _
  | ok template =>
    dsimp only
    rw [run_bind]
    rcases run_createFile (Path.folder path) path stockText t fault with
      ⟨e, he⟩ | ⟨_, loc, hnone, _, htarget, hnew, hok⟩
    · rw [he]
      exact .failed _
    · rw [hok]
      exact .written hnone ⟨htarget, hnew⟩ rfl (written_new htarget hnew _)

theorem scriptText_eq_ok {template : Template} {t : FileTree} {user : List Placeholder}
    {name text : String} (h : template.scriptText t user name = .ok text) :
    ∃ source rendered, template.load t = .ok source ∧
      render source (resolve user name template.name) = .ok rendered ∧ text = rendered ++ "\n" := by
  obtain ⟨source, hsource, h⟩ := bind_eq_ok_iff.1 h
  obtain ⟨rendered, hrendered, h⟩ := bind_eq_ok_iff.1 h
  cases h
  exact ⟨source, rendered, hsource, hrendered, rfl⟩

theorem atomic_createScript (template : Template) (user : List Placeholder) (folder name : String)
    (t : FileTree) (fault : Option WriteFault) :
    Atomic t fault (fun _ => False)
      (fun loc => t.TargetOf (scriptPath folder name) loc ∧ t.get? loc = none)
      (fun text => ∃ source rendered, template.load t = .ok source ∧
        render source (resolve user name template.name) = .ok rendered ∧ text = rendered ++ "\n")
      ((createScript template user folder name fault).run t) := by
  rw [createScript]
  split
  · exact .failed _
  rw [run_bind, run_get]
  dsimp only
  split
  · exact .failed _
  rw [run_bind, run_lift]
  cases htext : template.scriptText t user name with
  | error e => exact .failed _
  | ok text =>
    dsimp only
    rw [run_bind]
    rcases run_createFile folder (scriptPath folder name) text t fault with
      ⟨e, he⟩ | ⟨_, loc, hnone, _, htarget, hnew, hok⟩
    · rw [he]
      exact .failed _
    · rw [hok]
      exact .written hnone ⟨htarget, hnew⟩ (scriptText_eq_ok htext) (written_new htarget hnew _)

end Template

/-! ### All of them -/

/-- Every writer changes nothing, or writes its whole text to one place, wherever the system fails
    and whatever it has written by then. Those that create files succeed only where nothing was. -/
theorem writers_atomic (t : FileTree) (fault : Option WriteFault) :
    (∀ s : Inspection.Session, Atomic t fault
      (fun outcome => s.source = .text ∨ outcome = .noChanges ∧
        (s.phase = .idle ∨ s.isWritable = false ∨ s.currentText = s.document))
      (fun loc => ∃ path, s.source = .file path ∧ t.Target path.location loc)
      (fun text => text = Text.normalize Text.hostNewline s.currentText)
      (((Inspection.Session.commit fault).run (s, t)).1,
        ((Inspection.Session.commit fault).run (s, t)).2.2)) ∧
    (∀ (s : Settings) path,
      Atomic t fault (fun _ => False) (t.TargetOf path) (· = s.print)
        ((s.save path fault).run t)) ∧
    (∀ (s : Settings) path,
      Atomic t fault (fun _ => False) (fun loc => t.TargetOf path loc ∧ t.get? loc = none)
        (· = s.print) ((s.create path fault).run t)) ∧
    (∀ path,
      Atomic t fault (fun _ => False) (fun loc => t.TargetOf path loc ∧ t.get? loc = none)
        (· = Template.stockText) ((Template.create path fault).run t)) ∧
    ∀ (template : Template) user folder name,
      Atomic t fault (fun _ => False)
        (fun loc => t.TargetOf (Template.scriptPath folder name) loc ∧ t.get? loc = none)
        (fun text => ∃ source rendered, template.load t = .ok source ∧
          Template.render source (Template.resolve user name template.name) = .ok rendered ∧
          text = rendered ++ "\n")
        ((Template.createScript template user folder name fault).run t) :=
  ⟨fun s => Inspection.atomic_commit s t fault, fun s path => s.atomic_save path t fault,
    fun s path => s.atomic_create path t fault, fun path => Template.atomic_create path t fault,
    fun template user folder name => template.atomic_createScript user folder name t fault⟩

end ScriptKeeper
