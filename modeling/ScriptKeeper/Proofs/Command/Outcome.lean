import ScriptKeeper.Command.Run
import ScriptKeeper.Proofs.Files.Atomic
import ScriptKeeper.Proofs.Scan.Trace

/-!
# How runs end

The exit status tells a scan that has found violations from a failure: the first is 1, the second 2,
and everything else is 0. A command that fails has changed no file and printed nothing, since
whatever does one of these comes after the last step that can fail (`Command.allOrNothing_perform`).
That holds also where the system fails to write a file. A scan changes no file at all. It prints what
it has found only if all of its folders could be scanned, and what it prints is what each folder has
if it is scanned alone.

* `Command.ScanCompletes`: the scans that come to their end, and what they find;
* `Command.run_runScan_of_completes`, `Command.completes_of_run`: these are the scans that do not
  fail;
* `Command.allOrNothing_perform`, `Command.ensures_perform`: what all commands have in common;
* `outcomeLaw_run`: the outcome of a run, whatever it is asked to do.
-/

namespace ScriptKeeper

open Inspection Scan

namespace Command

variable {ε α : Type} {files : FileTree} {p : Progress} {settingsFile : String}
  {folders : List String}

/-! ### Failures of parts -/

theorem run_liftFailure (wrap : ε → CommandError) (result : Except ε α) (p : Progress) :
    (liftFailure wrap result).run p = (result.mapError wrap, p) := by
  cases result <;> rfl

theorem readOnly_liftFailure (wrap : ε → CommandError) (result : Except ε α) :
    ReadOnly (liftFailure wrap result) := by
  intro p
  rw [run_liftFailure]

theorem run_liftAction (wrap : ε → CommandError) (action : ExceptT ε (StateM FileTree) α)
    (p : Progress) : (liftAction wrap action).run p =
      ((action.run p.files).1.mapError wrap, { p with files := (action.run p.files).2 }) := by
  rw [liftAction, run_bind, run_get]
  dsimp only
  cases action.run p.files with
  | mk result after =>
  rw [run_bind, run_set]
  exact run_liftFailure wrap result { p with files := after }

theorem allOrNothing_liftAction (wrap : ε → CommandError)
    {action : ExceptT ε (StateM FileTree) α} (h : AllOrNothing action) :
    AllOrNothing (liftAction wrap action) := by
  intro p e p' hrun
  rw [run_liftAction] at hrun
  cases haction : action.run p.files with
  | mk result after =>
  rw [haction] at hrun
  cases result <;> cases hrun
  cases h p.files _ _ haction
  rfl

theorem run_settingsOf (settingsFile : String) (p : Progress) :
    (settingsOf settingsFile).run p =
      ((Settings.loadOrStock p.files settingsFile).mapError .settings, p) := by
  rw [settingsOf, run_bind, run_get]
  exact run_liftFailure _ _ _

theorem readOnly_settingsOf (settingsFile : String) : ReadOnly (settingsOf settingsFile) := by
  intro p
  rw [run_settingsOf]

/-! ### Printing -/

/-- Lines, each with a newline at its end. -/
def linesText (lines : List String) : String := String.join (lines.map fun line => line ++ "\n")

theorem run_printLine (line : String) (p : Progress) :
    (printLine line).run p = (.ok (), { p with output := p.output ++ (line ++ "\n") }) := by
  rw [printLine, run_modify, String.append_assoc]

/-- Lines that are printed in turn come behind what has been printed before. -/
theorem run_printLines (lines : List String) (p : Progress) :
    (printLines lines).run p = (.ok (), { p with output := p.output ++ linesText lines }) := by
  induction lines generalizing p with
  | nil =>
    rw [linesText, List.map_nil, String.join_nil, String.append_empty]
    rfl
  | cons line lines ih =>
    rw [printLines, List.forM, run_bind, run_printLine]
    dsimp only
    rw [← printLines, ih, linesText, linesText, List.map_cons, String.join_cons,
      String.append_assoc]

theorem total_printLine (line : String) : Total (printLine line) :=
  fun p => ⟨_, _, run_printLine line p⟩

theorem total_printLines (lines : List String) : Total (printLines lines) :=
  fun p => ⟨_, _, run_printLines lines p⟩

/-! ### Scans -/

/-- A scan that comes to its end: the folders that it scans, and the violations that are found in
    each of them, scanned alone. -/
inductive ScanCompletes (files : FileTree) (settingsFile : String) (folders : List String) :
    List ScriptFolder → List (List Violation) → Prop
  | nothing {settings : Settings} : Settings.loadOrStock files settingsFile = .ok settings →
      scanTargets settings folders = [] → ScanCompletes files settingsFile folders [] []
  | scanned {settings : Settings} {scanner : Scanner} {targets : List ScriptFolder}
      {found : List (List Violation)} : Settings.loadOrStock files settingsFile = .ok settings →
      scanTargets settings folders = targets → targets ≠ [] →
      Scanner.ofSettings settings = .ok scanner →
      List.Forall₂ (fun target violations =>
        ((scanner.scanFolder target).run ({}, { files })).1 = .ok violations) targets found →
      ScanCompletes files settingsFile folders targets found

/-- What a scan prints at its end: a line for every violation, and how many there are in how many
    folders. -/
def reportText (targets : List ScriptFolder) (found : List (List Violation)) : String :=
  if targets.isEmpty then "no script folders to scan\n"
  else String.join (found.flatten.map fun v => v.text ++ "\n") ++
    toString found.flatten.length ++ " violation(s) in " ++ toString targets.length ++
      " folder(s)\n"

/-- The folders are scanned as if each of them were scanned alone, and no file is changed. -/
theorem run_scanFolders (scanner : Scanner) (targets : List ScriptFolder) (p : Progress) :
    (scanFolders scanner targets).run p =
      (((targets.mapM (scanner.violationsInFolder {} p.files)).mapError .scan).map
        fun found => ⟨found.flatten⟩, p) := by
  -- One scanner goes from folder to folder, but what it has met before does not show.
  obtain ⟨hresult, hstate⟩ :=
    yields_mapM (fun target => Scanner.yields_checkFolder Registry.tidy_empty target) targets
      ([], {}, { files := p.files }) (Scanner.undisturbed_start scanner p.files)
  rw [scanFolders, run_bind, run_get]
  dsimp only
  rw [Scanner.run_afresh, hresult]
  dsimp only
  rw [run_bind, run_set, hstate.files]
  dsimp only
  rw [run_bind, run_liftFailure]
  cases targets.mapM (scanner.violationsInFolder {} p.files) <;> rfl

theorem mapM_violationsInFolder_eq_ok_iff {scanner : Scanner} {targets : List ScriptFolder}
    {found : List (List Violation)} :
    targets.mapM (scanner.violationsInFolder {} files) = .ok found ↔
      List.Forall₂ (fun target violations =>
        ((scanner.scanFolder target).run ({}, { files })).1 = .ok violations) targets found := by
  rw [mapM_eq_ok_iff]
  simp only [Scanner.run_scanFolder]

/-- What a scan of some folders prints at its end. -/
theorem reportText_eq (found : List (List Violation)) {targets : List ScriptFolder}
    (hne : targets ≠ []) : reportText targets found =
      linesText (found.flatten.map Violation.text) ++ (toString found.flatten.length ++
        " violation(s) in " ++ toString targets.length ++ " folder(s)" ++ "\n") := by
  have hlines : String.join (found.flatten.map fun v => v.text ++ "\n") =
      linesText (found.flatten.map Violation.text) := by
    rw [linesText, List.map_map]
    rfl
  rw [reportText, if_neg (by simpa using hne), hlines]
  simp [String.append_assoc]

/-- A scan that comes to its end prints its report, and its status says whether anything has been
    found. -/
theorem run_runScan_of_completes {targets : List ScriptFolder} {found : List (List Violation)}
    (h : ScanCompletes p.files settingsFile folders targets found) :
    (runScan settingsFile folders).run p =
      (.ok (if found.flatten = [] then 0 else 1),
        { p with output := p.output ++ reportText targets found }) := by
  rw [runScan, run_bind, run_settingsOf]
  cases h with
  | nothing hload htargets =>
    rw [hload]
    dsimp only [Except.mapError]
    rw [htargets, List.isEmpty_nil, if_pos rfl, run_bind, run_printLine]
    rfl
  | scanned hload htargets hne hscanner hfound =>
    have hmapM := mapM_violationsInFolder_eq_ok_iff.2 hfound
    rw [hload]
    dsimp only [Except.mapError]
    rw [htargets, if_neg (by simpa using hne), run_bind, run_liftFailure, hscanner]
    dsimp only [Except.mapError]
    rw [run_bind, run_scanFolders, hmapM]
    dsimp only [Except.mapError, Except.map]
    rw [run_bind, run_printLines]
    dsimp only
    rw [run_bind, run_printLine, reportText_eq found hne]
    dsimp only
    rw [String.append_assoc]
    cases found.flatten <;> rfl

/-- A scan that does not fail comes to its end. -/
theorem completes_of_run {status : Nat} {after : Progress}
    (h : (runScan settingsFile folders).run p = (.ok status, after)) :
    ∃ targets found, ScanCompletes p.files settingsFile folders targets found := by
  rw [runScan, run_bind, run_settingsOf] at h
  cases hload : Settings.loadOrStock p.files settingsFile with
  | error cause => rw [hload] at h; cases h
  | ok settings =>
  by_cases htargets : scanTargets settings folders = []
  · exact ⟨_, _, .nothing hload htargets⟩
  rw [hload] at h
  dsimp only [Except.mapError] at h
  rw [if_neg (by simpa using htargets), run_bind, run_liftFailure] at h
  cases hscanner : Scanner.ofSettings settings with
  | error cause => rw [hscanner] at h; cases h
  | ok scanner =>
  rw [hscanner] at h
  dsimp only [Except.mapError] at h
  rw [run_bind, run_scanFolders] at h
  cases hfound : (scanTargets settings folders).mapM (scanner.violationsInFolder {} p.files) with
  | error cause => rw [hfound] at h; cases h
  | ok found =>
    exact ⟨_, found, .scanned hload rfl htargets hscanner
      (mapM_violationsInFolder_eq_ok_iff.1 hfound)⟩

/-! ### All commands -/

theorem total_printLine_pure (line : String) (status : Nat) :
    Total (printLine line >>= fun _ => (pure status : Command.Action Nat)) :=
  (total_printLine line).bind fun _ => total_pure status

theorem total_printLines_pure (lines : List String) (status : Nat) :
    Total (printLines lines >>= fun _ => (pure status : Command.Action Nat)) :=
  (total_printLines lines).bind fun _ => total_pure status

theorem allOrNothing_runScan (settingsFile : String) (folders : List String) :
    AllOrNothing (runScan settingsFile folders) := by
  refine (readOnly_settingsOf settingsFile).bind_allOrNothing fun settings => ?_
  dsimp only
  split
  · exact (total_printLine_pure _ _).allOrNothing
  refine (readOnly_liftFailure _ _).bind_allOrNothing fun scanner => ?_
  have hscan : ReadOnly (scanFolders scanner (scanTargets settings folders)) := by
    intro p
    rw [run_scanFolders]
  exact hscan.bind_allOrNothing fun report =>
    ((total_printLines _).bind fun _ => total_printLine_pure _ _).allOrNothing

/-- A command that fails has changed no file and printed nothing: all of this comes after the last
    step that can fail, or with it. -/
theorem allOrNothing_perform (settingsFile : String) (fault : Option WriteFault)
    (command : Command) : AllOrNothing (command.perform settingsFile fault) := by
  cases command with
  | init =>
    have hcreate := FileTree.allOrNothing_of_atomic fun t =>
      Settings.stock.atomic_create settingsFile t fault
    exact (allOrNothing_liftAction _ hcreate).bind fun _ => total_printLine_pure _ _
  | scan folders => exact allOrNothing_runScan settingsFile folders
  | testRegex pattern text ignoreCase multiLine =>
    refine (readOnly_liftFailure _ _).bind_allOrNothing fun trials => ?_
    split
    · exact ((total_printLine _).bind fun _ => total_printLines_pure _ _).allOrNothing
    · exact (total_printLines_pure _ _).allOrNothing
  | templates =>
    exact (readOnly_settingsOf _).bind_allOrNothing fun _ => readOnly_get.bind_allOrNothing fun _ =>
      (readOnly_liftFailure _ _).bind_allOrNothing fun _ =>
      (total_printLines_pure _ _).allOrNothing
  | newTemplate path =>
    have hcreate := FileTree.allOrNothing_of_atomic fun t => Template.atomic_create path t fault
    exact (allOrNothing_liftAction _ hcreate).bind fun _ => total_printLine_pure _ _
  | newScript name template folder =>
    refine (readOnly_settingsOf _).bind_allOrNothing fun settings =>
      readOnly_get.bind_allOrNothing fun p =>
      (readOnly_liftFailure _ _).bind_allOrNothing fun template => ?_
    have hcreate := FileTree.allOrNothing_of_atomic fun t =>
      template.atomic_createScript settings.placeholders folder name t fault
    exact (allOrNothing_liftAction _ hcreate).bind fun _ => total_printLine_pure _ _

theorem ensures_succeeded : Ensures (· = 0) (pure succeeded : Command.Action Nat) :=
  ensures_pure rfl

/-- A command that does not fail has status 0, unless it is a scan. -/
theorem ensures_perform {command : Command} (h : ∀ folders, command ≠ .scan folders)
    (settingsFile : String) (fault : Option WriteFault) :
    Ensures (· = 0) (command.perform settingsFile fault) := by
  cases command with
  | init => exact .bind (fun _ => .bind (fun _ => ensures_succeeded) _) _
  | scan folders => exact absurd rfl (h folders)
  | testRegex pattern text ignoreCase multiLine =>
    refine .bind (fun trials => ?_) _
    split
    · exact .bind (fun _ => .bind (fun _ => ensures_succeeded) _) _
    · exact .bind (fun _ => ensures_succeeded) _
  | templates =>
    exact .bind (fun _ => .bind (fun _ => .bind (fun _ =>
      .bind (fun _ => ensures_succeeded) _) _) _) _
  | newTemplate path => exact .bind (fun _ => .bind (fun _ => ensures_succeeded) _) _
  | newScript name template folder =>
    exact .bind (fun _ => .bind (fun _ => .bind (fun _ => .bind (fun _ =>
      .bind (fun _ => ensures_succeeded) _) _) _) _) _

end Command

/-! ### Runs -/

variable {environment : Environment} {words : List String} {fault : Option WriteFault}
  {files : FileTree}

theorem run_run (diagnostics : Diagnostics) (environment : Environment) (words : List String)
    (fault : Option WriteFault) (files : FileTree) :
    (run diagnostics environment words fault).run files =
      match Invocation.ofArguments environment words with
      | .error .help => ({ output := diagnostics.usage }, files)
      | .error .version => ({ output := Command.versionText }, files)
      | .error .misuse => ({ status := 2, errors := diagnostics.usage }, files)
      | .ok invocation =>
        match (invocation.command.perform invocation.settingsFile fault).run { files } with
        | (.ok status, p) => ({ status, output := p.output }, p.files)
        | (.error cause, p) => ({
            status := 2
            output := p.output
            errors := "codemanager: " ++ cause.message diagnostics ++ "\n" }, p.files) := by
  rw [run]
  cases Invocation.ofArguments environment words with
  | error halt => cases halt <;> rfl
  | ok invocation =>
    dsimp only
    rw [StateT.run_bind, StateT.run_get, pure_bind]
    dsimp only
    rcases (invocation.command.perform invocation.settingsFile fault).run { files } with
      ⟨_ | _, _⟩ <;> rfl

/-- The command line does not fit, or the command fails. -/
def Fails (environment : Environment) (words : List String) (fault : Option WriteFault)
    (files : FileTree) : Prop :=
  Invocation.ofArguments environment words = .error .misuse ∨ ∃ invocation cause,
    Invocation.ofArguments environment words = .ok invocation ∧
      ((invocation.command.perform invocation.settingsFile fault).run { files }).1 = .error cause

/-- The command line asks for a scan of the folders, by the settings of the file. -/
def AsksForScan (environment : Environment) (words : List String) (settingsFile : String)
    (folders : List String) : Prop :=
  ∃ invocation, Invocation.ofArguments environment words = .ok invocation ∧
    invocation.settingsFile = settingsFile ∧ invocation.command = .scan folders

/-- How a run ends, by what it is asked to do, where the system fails and the files that it finds. -/
structure OutcomeLaw (environment : Environment) (words : List String)
    (fault : Option WriteFault) (files : FileTree) (outcome : Outcome) (after : FileTree) :
    Prop where
  /-- The status tells of violations exactly if a scan has come to its end and found any. -/
  violations : outcome.status = 1 ↔ ∃ settingsFile folders targets found,
    AsksForScan environment words settingsFile folders ∧
      Command.ScanCompletes files settingsFile folders targets found ∧ found.flatten ≠ []
  /-- The status tells of a failure exactly if there is one. -/
  failure : outcome.status = 2 ↔ Fails environment words fault files
  /-- A failure prints nothing and changes no file. -/
  untouched : outcome.status = 2 → outcome.output = "" ∧ after = files
  /-- There is no other status. -/
  otherwise : outcome.status ≠ 1 → outcome.status ≠ 2 → outcome.status = 0
  /-- A scan changes no file. -/
  unchanged : ∀ settingsFile folders,
    AsksForScan environment words settingsFile folders → after = files
  /-- The scans that do not fail are those that come to their end. -/
  completes : ∀ settingsFile folders, AsksForScan environment words settingsFile folders →
    (outcome.status ≠ 2 ↔
      ∃ targets found, Command.ScanCompletes files settingsFile folders targets found)
  /-- A scan that comes to its end prints its report. -/
  report : ∀ settingsFile folders targets found,
    AsksForScan environment words settingsFile folders →
      Command.ScanCompletes files settingsFile folders targets found →
        outcome.output = Command.reportText targets found

/-- Where no scan is asked for, all that counts is whether the run fails. -/
theorem outcomeLaw_of_not_asksForScan {outcome : Outcome} {after : FileTree}
    (hasks : ∀ settingsFile folders, ¬ AsksForScan environment words settingsFile folders)
    (hstatus : outcome.status = 0 ∧ ¬ Fails environment words fault files ∨
      outcome.status = 2 ∧ Fails environment words fault files ∧ outcome.output = "" ∧ after = files) :
    OutcomeLaw environment words fault files outcome after := by
  constructor
  case violations =>
    constructor
    · intro hone
      rcases hstatus with ⟨hzero, _⟩ | ⟨htwo, _⟩ <;> omega
    · rintro ⟨settingsFile, folders, _, _, hscan, _⟩
      exact absurd hscan (hasks settingsFile folders)
  case failure =>
    rcases hstatus with ⟨hzero, hfails⟩ | ⟨htwo, hfails, _⟩
    · rw [hzero]
      exact ⟨nofun, fun h => absurd h hfails⟩
    · exact ⟨fun _ => hfails, fun _ => htwo⟩
  case untouched =>
    intro htwo
    rcases hstatus with ⟨hzero, _⟩ | ⟨_, _, huntouched⟩
    · omega
    · exact huntouched
  case otherwise =>
    intro _ htwo
    rcases hstatus with ⟨hzero, _⟩ | ⟨h, _⟩
    · exact hzero
    · exact absurd h htwo
  case unchanged => exact fun _ _ hscan => absurd hscan (hasks _ _)
  case completes => exact fun _ _ hscan => absurd hscan (hasks _ _)
  case report => exact fun _ _ _ _ hscan => absurd hscan (hasks _ _)

variable {invocation : Invocation}

/-- The invocation decides whether the run fails. -/
theorem fails_iff (h : Invocation.ofArguments environment words = .ok invocation) :
    Fails environment words fault files ↔ ∃ cause,
      ((invocation.command.perform invocation.settingsFile fault).run { files }).1 =
        .error cause := by
  rw [Fails, h]
  constructor
  · rintro (hmisuse | ⟨_, cause, hok, herror⟩)
    · cases hmisuse
    · cases hok
      exact ⟨cause, herror⟩
  · exact fun ⟨cause, herror⟩ => .inr ⟨invocation, cause, rfl, herror⟩

theorem asksForScan_iff (h : Invocation.ofArguments environment words = .ok invocation)
    {settingsFile : String} {folders : List String} :
    AsksForScan environment words settingsFile folders ↔
      invocation.settingsFile = settingsFile ∧ invocation.command = .scan folders := by
  rw [AsksForScan, h]
  constructor
  · rintro ⟨_, hok, hasked⟩
    cases hok
    exact hasked
  · exact fun hasked => ⟨invocation, rfl, hasked⟩

/-- A scan that fails does not come to its end. -/
theorem outcomeLaw_of_not_completes {outcome : Outcome}
    (h : Invocation.ofArguments environment words = .ok invocation)
    (hfails : Fails environment words fault files) (hstatus : outcome.status = 2)
    (houtput : outcome.output = "") : OutcomeLaw environment words fault files outcome files := by
  have hnever : ∀ {settingsFile folders targets found},
      AsksForScan environment words settingsFile folders →
      ¬ Command.ScanCompletes files settingsFile folders targets found := by
    intro settingsFile folders' targets found hasks hcompletes
    obtain ⟨rfl, hscan'⟩ := (asksForScan_iff h).1 hasks
    obtain ⟨cause, herror⟩ := (fails_iff h).1 hfails
    rw [hscan', Command.perform, Command.run_runScan_of_completes hcompletes] at herror
    cases herror
  constructor
  case violations =>
    refine ⟨fun hone => absurd (hstatus.symm.trans hone) (by decide), ?_⟩
    exact fun ⟨_, _, _, _, hasks, hcompletes, _⟩ => absurd hcompletes (hnever hasks)
  case failure => exact ⟨fun _ => hfails, fun _ => hstatus⟩
  case untouched => exact fun _ => ⟨houtput, rfl⟩
  case otherwise => exact fun _ htwo => absurd hstatus htwo
  case unchanged => exact fun _ _ _ => rfl
  case completes =>
    intro _ _ hasks
    exact ⟨fun htwo => absurd hstatus htwo,
      fun ⟨_, _, hcompletes⟩ => absurd hcompletes (hnever hasks)⟩
  case report => exact fun _ _ _ _ hasks hcompletes => absurd hcompletes (hnever hasks)

/-- A scan that comes to its end has status 0 or 1, by what it has found, and prints its report. -/
theorem outcomeLaw_of_completes {folders : List String} {targets : List ScriptFolder}
    {found : List (List Violation)}
    (h : Invocation.ofArguments environment words = .ok invocation)
    (hscan : invocation.command = .scan folders)
    (hcompletes : Command.ScanCompletes files invocation.settingsFile folders targets found) :
    OutcomeLaw environment words fault files
      { status := if found.flatten = [] then 0 else 1
        output := Command.reportText targets found } files := by
  have hrun : ∀ {settingsFile folders targets found},
      AsksForScan environment words settingsFile folders →
      Command.ScanCompletes files settingsFile folders targets found →
      (invocation.command.perform invocation.settingsFile fault).run { files } =
        (.ok (if found.flatten = [] then 0 else 1),
          { files, output := Command.reportText targets found }) := by
    intro settingsFile folders' targets found hasks hcompletes
    obtain ⟨rfl, hscan'⟩ := (asksForScan_iff h).1 hasks
    rw [hscan', Command.perform, Command.run_runScan_of_completes hcompletes]
    rw [String.empty_append]
  have hasks : AsksForScan environment words invocation.settingsFile folders :=
    (asksForScan_iff h).2 ⟨rfl, hscan⟩
  -- All accounts of what the scan finds agree, since it ends in one way.
  have hsame : ∀ {settingsFile folders targets' found'},
      AsksForScan environment words settingsFile folders →
      Command.ScanCompletes files settingsFile folders targets' found' →
      (if found'.flatten = [] then 0 else 1) = (if found.flatten = [] then 0 else 1) ∧
        Command.reportText targets' found' = Command.reportText targets found := by
    intro settingsFile folders' targets' found' hasks' hcompletes'
    have hends := (hrun hasks' hcompletes').symm.trans (hrun hasks hcompletes)
    simpa using hends
  have hstatus : (if found.flatten = [] then 0 else 1) ≠ 2 := by split <;> decide
  have hfails : ¬ Fails environment words fault files := by
    rw [fails_iff h, hrun hasks hcompletes]
    exact nofun
  constructor
  case violations =>
    constructor
    · intro hone
      refine ⟨_, folders, targets, found, hasks, hcompletes, fun hnil => ?_⟩
      rw [if_pos hnil] at hone
      cases hone
    · rintro ⟨_, _, _, _, hasks', hcompletes', hne⟩
      rw [← (hsame hasks' hcompletes').1, if_neg hne]
  case failure => exact ⟨fun htwo => absurd htwo hstatus, fun hf => absurd hf hfails⟩
  case untouched => exact fun htwo => absurd htwo hstatus
  case otherwise =>
    intro hone _
    exact if_pos (not_not.1 fun hne => hone (if_neg hne))
  case unchanged => exact fun _ _ _ => rfl
  case completes =>
    intro _ _ hasks'
    obtain ⟨rfl, hscan'⟩ := (asksForScan_iff h).1 hasks'
    cases hscan.symm.trans hscan'
    exact ⟨fun _ => ⟨targets, found, hcompletes⟩, fun _ => hstatus⟩
  case report => exact fun _ _ _ _ hasks' hcompletes' => (hsame hasks' hcompletes').2.symm

/-- Every run keeps to the law, whatever it is asked to do and wherever the system fails. -/
theorem outcomeLaw_run (diagnostics : Diagnostics) (environment : Environment)
    (words : List String) (fault : Option WriteFault) (files : FileTree) :
    OutcomeLaw environment words fault files
      ((run diagnostics environment words fault).run files).1
      ((run diagnostics environment words fault).run files).2 := by
  rw [run_run]
  cases h : Invocation.ofArguments environment words with
  | error halt =>
    have hasks : ∀ settingsFile folders,
        ¬ AsksForScan environment words settingsFile folders := by
      rintro settingsFile folders ⟨_, hok, _⟩
      cases h.symm.trans hok
    have hfails : Fails environment words fault files ↔ halt = .misuse := by
      rw [Fails, h]
      simp
    refine outcomeLaw_of_not_asksForScan hasks ?_
    rw [hfails]
    cases halt with
    | help => exact .inl ⟨rfl, nofun⟩
    | version => exact .inl ⟨rfl, nofun⟩
    | misuse => exact .inr ⟨rfl, rfl, rfl, rfl⟩
  | ok invocation =>
    cases hrun : (invocation.command.perform invocation.settingsFile fault).run { files } with
    | mk result p =>
    dsimp only
    rw [hrun]
    by_cases hscan : ∃ folders, invocation.command = .scan folders
    · obtain ⟨folders, hscan⟩ := hscan
      cases result with
      | error cause =>
        cases Command.allOrNothing_perform _ _ _ _ _ _ hrun
        exact outcomeLaw_of_not_completes h ((fails_iff h).2 ⟨cause, by rw [hrun]⟩) rfl rfl
      | ok status =>
        rw [hscan] at hrun
        obtain ⟨targets, found, hcompletes⟩ := Command.completes_of_run hrun
        rw [Command.perform, Command.run_runScan_of_completes hcompletes] at hrun
        cases hrun
        rw [String.empty_append]
        exact outcomeLaw_of_completes h hscan hcompletes
    · have hasks : ∀ settingsFile folders,
          ¬ AsksForScan environment words settingsFile folders :=
        fun _ folders hasks => hscan ⟨folders, ((asksForScan_iff h).1 hasks).2⟩
      refine outcomeLaw_of_not_asksForScan hasks ?_
      rw [fails_iff h, hrun]
      cases result with
      | error cause =>
        cases Command.allOrNothing_perform _ _ _ _ _ _ hrun
        exact .inr ⟨rfl, ⟨cause, rfl⟩, rfl, rfl⟩
      | ok status =>
        exact .inl ⟨Command.ensures_perform (not_exists.1 hscan) _ _ _ _ _ hrun, nofun⟩

/-- One script is scanned by one rule, to which it does not keep. -/
example :
    let settings := "[\"\",[],[],[[\"\",\"a\"]],\"/\",[[0,\"u\",0,\"no a\"]],[],[]]"
    let files : FileTree :=
      ⟨"", [(["codemanager.json"], .file (.text settings)), (["s.cs"], .file (.text "a"))]⟩
    ((run {} (fun _ => none) ["scan", "s.cs"]).run files).1 = {
      status := 1
      output := "s.cs:1: [unwanted_code] no a - Unwanted Code found in: s.cs: 1\n" ++
        "1 violation(s) in 1 folder(s)\n" } := by decide +kernel

end ScriptKeeper
