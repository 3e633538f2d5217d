import ScriptKeeper.Proofs.Scan.Script

/-!
# Scans leave no trace

A scan opens one script after the other and closes each of them again before it goes on. So the
table of locks is the same before every script and after the last one, whoever else holds files, and
no file is changed. What is found can therefore be told in advance, from the table and the files at
the beginning (`Scanner.violationsInFolder`), and each folder has the violations that it would have
if it were scanned alone.

* `Registry.readable?`: the text of a script, if it can be opened for reading;
* `Scanner.Undisturbed`: the states between scripts;
* `yields_checkScript`, `yields_checkFolder`: what is found, and that the next state is one of them;
* `run_scanFolder`: what a new scanner finds in a folder.
-/

namespace ScriptKeeper

open Inspection Scan

/-- The text of the file at a path, if it can be opened for reading. -/
def Inspection.Registry.readable? (r : Registry) (files : FileTree) (path : String) :
    Option String :=
  if path.isEmpty then none
  else match files.canonical path with
  | .error _ => none
  | .ok file =>
    if Lock.refusal (r.locksOf file) .read = none then (files.textAt file.location).toOption
    else none

theorem Inspection.Registry.readable?_eq (r : Registry) (w : Workspace) (path : String) :
    r.readable? w.files path =
      (((Registry.openFile path .read).run (r, w)).1.toOption).map Session.document := by
  rw [Registry.readable?, Registry.run_openFile]
  cases path.isEmpty with
  | true => rfl
  | false =>
  simp only [Bool.false_eq_true, if_false]
  cases w.files.canonical path with
  | error cause => rfl
  | ok file =>
  dsimp only [Mode.lock]
  cases Lock.refusal (r.locksOf file) .read with
  | some held => rfl
  | none => cases w.files.textAt file.location <;> rfl

namespace Scan.Scanner

variable (scanner : Scanner) (r : Registry) (files : FileTree)

/-- The violations in the script at a path, which has none if it cannot be opened. -/
def violationsInScript (rules : List Rule) (path : String) : Except ScanError (List Violation) :=
  match r.readable? files path with
  | none => .ok []
  | some document => scanner.violationsIn path document rules

/-- The violations in the scripts of a folder, as the registry and the files are. -/
def violationsInFolder (folder : ScriptFolder) : Except ScanError (List Violation) :=
  if (scanner.folderRules folder).isEmpty then .ok []
  else match listScripts files folder.path folder.includeSubdirectories with
  | .error cause => .error (.readFolder folder.path cause)
  | .ok scripts => do
    let rules := scanner.folderRules folder
    return (← scripts.mapM (scanner.violationsInScript r files rules)).flatten

/-- A state between scripts: nothing has become of the table and of the files, and the patterns that
    are kept are right. -/
structure Undisturbed (state : Compiled × Registry × Workspace) : Prop where
  faithful : scanner.Faithful state.1
  registry : state.2.1 = r
  files : state.2.2.files = files
  counted : r.Counted state.2.2.sessions

variable {scanner r files}

theorem undisturbed_start (scanner : Scanner) (files : FileTree) :
    scanner.Undisturbed {} files ([], {}, { files }) where
  faithful := faithful_nil scanner
  registry := rfl
  files := rfl
  counted := fun _ _ hl => by cases hl

/-- The number that an attempt to open a file may take is all that is left of it in the end. -/
theorem Remains.undisturbed (htidy : r.Tidy) {compiled : Compiled}
    (hfaithful : scanner.Faithful compiled) {w : Workspace} (hcounted : r.Counted w.sessions)
    {path : String} {state : Registry × Workspace}
    (h : Remains ((Registry.openFile path .read).run (r, w)) state) :
    scanner.Undisturbed r w.files (compiled, state) := by
  have hworkspace := Registry.workspace_openFile r w path .read
  cases hopen : (Registry.openFile path .read).run (r, w) with
  | mk opened opening =>
  obtain ⟨r', w'⟩ := opening
  rw [hopen] at h hworkspace
  have hfiles : w'.files = w.files ∧ w.sessions ≤ w'.sessions := by
    rcases hworkspace with rfl | rfl
    · exact ⟨rfl, Nat.le_refl _⟩
    · exact ⟨rfl, Nat.le_succ _⟩
  cases h with
  | unopened e state =>
    obtain ⟨rfl, _⟩ := Registry.openFile_error hopen
    exact ⟨hfaithful, rfl, hfiles.1, hcounted.mono hfiles.2⟩
  | closed w' hchecking hclose =>
    have hrestored := Registry.run_close_openFile htidy hcounted hopen hchecking.rights
      hchecking.opened
    rw [hclose] at hrestored
    cases hrestored
    exact ⟨hfaithful, rfl, hfiles.1, hcounted.mono hfiles.2⟩

/-- In a script is found what can be told in advance. -/
theorem yields_checkScript (htidy : r.Tidy) (rules : List Rule) (path : String) :
    Yields (scanner.Undisturbed r files) (scanner.checkScript path rules)
      (scanner.violationsInScript r files rules path) := by
  rintro ⟨compiled, _, w⟩ ⟨hfaithful, rfl, rfl, hcounted⟩
  dsimp only at hfaithful htidy hcounted ⊢
  obtain ⟨compiled', state, hrun, hfaithful', hremains⟩ :=
    run_checkScript path rules hfaithful _ w
  rw [hrun]
  -- An attempt to open the script tells whether it is readable, and leaves the table as it was.
  refine ⟨?_, hremains.undisturbed htidy hfaithful' hcounted⟩
  rw [violationsInScript, Registry.readable?_eq]
  generalize ((Registry.openFile path .read).run _).1 = opened
  cases opened <;> rfl

/-- In a folder is found what can be told in advance, whatever has been scanned before. -/
theorem yields_checkFolder (htidy : r.Tidy) (folder : ScriptFolder) :
    Yields (scanner.Undisturbed r files) (scanner.checkFolder folder)
      (scanner.violationsInFolder r files folder) := by
  rw [checkFolder, violationsInFolder]
  split
  · exact yields_pure _
  · intro state h
    rw [run_bind, run_get]
    dsimp only
    rw [h.files]
    cases listScripts files folder.path folder.includeSubdirectories with
    | error cause => exact yields_throw _ state h
    | ok scripts =>
      exact ((yields_mapM (fun path => yields_checkScript htidy _ path) scripts).bind
        fun _ => yields_pure _) state h

theorem run_afresh {α : Type} (action : ScannerAction α) (state : Registry × Workspace) :
    action.afresh.run state =
      ((action.run ([], state)).1, (action.run ([], state)).2.2) := rfl

/-- A new scanner with a registry of its own finds in a folder what can be told in advance. -/
theorem run_scanFolder (scanner : Scanner) (files : FileTree) (folder : ScriptFolder) :
    ((scanner.scanFolder folder).run ({}, { files })).1 =
      scanner.violationsInFolder {} files folder :=
  (yields_checkFolder Registry.tidy_empty folder _ (undisturbed_start scanner files)).1

end Scan.Scanner

end ScriptKeeper
