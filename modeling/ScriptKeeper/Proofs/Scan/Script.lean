import ScriptKeeper.Proofs.Inspection.Generation
import ScriptKeeper.Proofs.Scan.Reading
import ScriptKeeper.Scan.Folder

/-!
# What a scanner finds in a script

The scanner reads a script through one session: every search drops the segments of the one before,
and what a search has found is kept for the rules that look for the same pattern. None of that shows
in the violations, which are those that can be read off the document (`Scanner.violationsIn`), and
neither do the patterns that earlier scans have compiled (`Scanned`).

* `run_search`: what a search finds, from whatever decomposition it starts;
* `run_checkFrom`: the violations of the rules, from whatever has been searched and compiled;
* `run_checkScript`: the violations in a script, and that what is kept after it is right;
* `checkScript_eq_violationsIn`: the violations in a script are those that can be read off its text.
-/

namespace ScriptKeeper.Scan

open Inspection Session

/-! ### One search -/

/-- A session in the course of a scan: it is still that of the script, and ready for a search. -/
structure Checking (s₀ s : Session) : Prop where
  settings : s.settings = .withLines
  document : s.document = s₀.document
  rights : s₀.SameRights s
  opened : s.closed = false
  autoCommit : s.autoCommit = true
  sound : s.Sound

/-- What a pattern finds in a document, if it can be used. -/
def found? (document source : String) : Option (List Hit) :=
  (Pattern.compile {} none source).toOption.map fun pattern =>
    (placesAfter none (pattern.findAll document)).map (Place.hit pattern document)

variable {s₀ s : Session}

theorem Checking.ready (h : Checking s₀ s) : ∃ r, s.ready = .ok r ∧ Checking s₀ r := by
  have hready : ∃ r, s.ready = .ok r := by
    rw [Session.ready, h.autoCommit]
    cases s.phase with
    | idle => exact ⟨_, rfl⟩
    | active => exact ⟨_, rfl⟩
  obtain ⟨r, hr⟩ := hready
  refine ⟨r, hr, ?_⟩
  rcases ready_cases hr with ⟨_, rfl⟩ | ⟨_, _, rfl⟩
  · exact h
  · exact ⟨h.settings, h.document, ⟨h.rights.id, h.rights.source, h.rights.mode, h.rights.closed⟩,
      h.opened, h.autoCommit, sound_of_empty rfl⟩

/-- The decomposition of a session leaves it ready for the next search. -/
theorem Checking.decompose {r : Session} (h : Checking s₀ r) (hempty : r.segments = .empty)
    (segments : List Segment) : Checking s₀ (r.decompose segments) := by
  refine ⟨h.settings, h.document, ⟨h.rights.id, h.rights.source, h.rights.mode, h.rights.closed⟩,
    h.opened, h.autoCommit, ?_, fun hp => by cases hp⟩
  rw [Session.decompose, hempty]
  exact (Arena.wellLinked_empty.append segments).1

/-- The segments around all matches of a pattern, of which there are none without a match. -/
def segmentsOfAll (document : String) (pattern : Pattern) : List Segment :=
  if pattern.findAll document = [] then []
  else segmentsFrom document 0 ((pattern.findAll document).map (Captures.ofMatch pattern document))

theorem segmentsAround_findAll (document : String) (pattern : Pattern) :
    segmentsAround document ((pattern.findAll document).map (Captures.ofMatch pattern document)) =
      .ok (segmentsOfAll document pattern) := by
  rw [segmentsOfAll]
  by_cases hnil : pattern.findAll document = []
  · rw [if_pos hnil, hnil]
    rfl
  · rw [if_neg hnil]
    exact segmentsAround_eq (inOrder_captures pattern document) (by simpa using hnil)

theorem hitsBehind_segmentsOfAll (document : String) (pattern : Pattern) :
    hitsBehind [] (segmentsOfAll document pattern) =
      (placesAfter none (pattern.findAll document)).map (Place.hit pattern document) := by
  rw [segmentsOfAll]
  by_cases hnil : pattern.findAll document = []
  · rw [if_pos hnil, hnil]
    rfl
  · rw [if_neg hnil]
    exact hitsBehind_segmentsFrom pattern (upTo_zero document) (pattern.inOrder_findAll document)

theorem compile_withLines (source : String) : SearchSettings.withLines.compile source =
    match Pattern.compile {} none source with
    | .ok compiled => .ok compiled
    | .error fault => .error (.invalidPattern source fault) := rfl

/-- A search plans to decompose the document around all matches of its pattern. -/
theorem Checking.plan {r : Session} (h : Checking s₀ s) (hr : s.ready = .ok r) (source : String) :
    s.plan (.findAll source) = match Pattern.compile {} none source with
      | .error fault => .error (.invalidPattern source fault)
      | .ok pattern => .ok (segmentsOfAll s₀.document pattern, r) := by
  have hopen : s.ensureOpen = .ok () := ensureOpen_eq_ok_iff.2 h.opened
  have hforward : ¬ SearchSettings.withLines.rightToLeft = true := Bool.false_ne_true
  rw [Session.plan, hopen, ok_bind, h.settings, h.document, Query.segments,
    if_neg hforward]
  dsimp only
  rw [compile_withLines]
  cases Pattern.compile {} none source with
  | error fault => rfl
  | ok pattern =>
    dsimp only
    rw [ok_bind, segmentsAround_findAll, hr]
    rfl

/-- A search makes a query and looks at the segments of its matches. -/
theorem run_search_eq (source : String) (s : Session) : (Hit.search source).run s =
    match (query (.findAll source)).run s with
    | (.error _, s') => (.ok none, s')
    | (.ok handles, s') => (some <$> handles.mapM (Hit.ofHandle s'), s') := by
  have hquery : (query (.findAll source)).run s = (findAll source).run s := rfl
  rw [Hit.search, run_bind, run_get, hquery]
  dsimp only
  cases (findAll source).run s with
  | mk result s' =>
  cases result with
  | error e => rfl
  | ok handles =>
    dsimp only
    rw [run_bind, run_set]
    dsimp only
    rw [run_bind_pure, run_lift]
    cases handles.mapM (Hit.ofHandle s') <;> rfl

/-- A decomposition around the matches of a pattern shows the matches in their places. -/
theorem Checking.mapM_ofHandle {r : Session} (h : Checking s₀ r) (hempty : r.segments = .empty)
    (source : String) (pattern : Pattern) :
    (Query.pick (r.numbered (segmentsOfAll s₀.document pattern)) (.findAll source)).mapM
      (Hit.ofHandle (r.decompose (segmentsOfAll s₀.document pattern))) =
      .ok ((placesAfter none (pattern.findAll s₀.document)).map
        (Place.hit pattern s₀.document)) := by
  have hlisted : Listed (r.decompose (segmentsOfAll s₀.document pattern))
      ([] ++ segmentsOfAll s₀.document pattern) :=
    ⟨shows_decompose h.opened hempty _, congrArg SearchSettings.trackLines h.settings⟩
  rw [← hitsBehind_segmentsOfAll, ← Scan.mapM_ofHandle hlisted, Query.pick, Session.numbered,
    hempty]
  rfl

/-- A search finds the matches in their places, and leaves the session ready for the next. -/
theorem run_search (h : Checking s₀ s) (source : String) :
    ∃ s', (Hit.search source).run s = (.ok (found? s₀.document source), s') ∧
      Checking s₀ s' := by
  obtain ⟨r, hr, hchecking⟩ := h.ready
  have hempty := h.sound.ready hr
  rw [run_search_eq, run_query, h.plan hr, found?]
  cases Pattern.compile {} none source with
  | error fault => exact ⟨s, rfl, h⟩
  | ok pattern =>
    have hhits := hchecking.mapM_ofHandle hempty source pattern
    dsimp only
    by_cases hnil : segmentsOfAll s₀.document pattern = []
    · -- Nothing is decomposed then, but there are no handles to look at either.
      rw [if_pos hnil]
      rw [hnil] at hhits
      exact ⟨r, congrArg (fun hits => (some <$> hits, r)) hhits, hchecking⟩
    · rw [if_neg hnil]
      dsimp only
      rw [hhits]
      exact ⟨_, rfl, hchecking.decompose hempty _⟩

/-! ### All rules -/

theorem run_runSession {α : Type} (action : SessionAction α) (compiled : Scanner.Compiled)
    (s : Session) : (runSession action).run (compiled, s) =
      (liftInspection (action.run s).1, (compiled, (action.run s).2)) := by
  rw [runSession, run_bind, run_get]
  dsimp only
  cases action.run s with
  | mk result s' => cases result <;> rfl

namespace Scanner

variable {scanner : Scanner} {compiled : Compiled} {searched : Searched}

/-- What the pattern of the given index finds in a document, if it can be used. -/
def foundAt? (scanner : Scanner) (document : String) (index : Nat) : Option (List Hit) :=
  (scanner.settings.regex? index).bind (found? document)

/-- A rule looks for what its pattern finds. -/
theorem foundAt?_searchIndex {document : String} {rule : Rule} {index : Nat}
    (h : rule.searchIndex = some index) :
    scanner.foundAt? document index = (scanner.searchPattern? rule).map fun pattern =>
      (placesAfter none (pattern.findAll document)).map (Place.hit pattern document) := by
  rw [searchPattern?, h, Option.map_bind]
  rfl

theorem run_search (scanner : Scanner) (compiled : Compiled) (h : Checking s₀ s) (index : Nat) :
    ∃ s', (scanner.search index).run (compiled, s) =
      (.ok (scanner.foundAt? s₀.document index), (compiled, s')) ∧ Checking s₀ s' := by
  rw [search, foundAt?]
  cases scanner.settings.regex? index with
  | none => exact ⟨s, rfl, h⟩
  | some source =>
    obtain ⟨s', hrun, h'⟩ := Scan.run_search h source
    refine ⟨s', ?_, h'⟩
    dsimp only
    rw [run_runSession, hrun]
    rfl

/-- What has been found is what the patterns find. -/
def Known (scanner : Scanner) (document : String) (searched : Searched) : Prop :=
  ∀ x ∈ searched, scanner.foundAt? document x.1 = some x.2

/-- What is known to be found is what would be found. -/
theorem run_hits (compiled : Compiled) (h : Checking s₀ s)
    (hk : scanner.Known s₀.document searched) (index : Nat) :
    ∃ searched' s', (scanner.hits searched index).run (compiled, s) =
        (.ok (scanner.foundAt? s₀.document index, searched'), (compiled, s')) ∧
      scanner.Known s₀.document searched' ∧ Checking s₀ s' := by
  rw [hits]
  cases hfind : searched.find? fun x => x.1 == index with
  | some x =>
    have hsame : scanner.foundAt? s₀.document index = some x.2 :=
      hk (index, x.2) (mem_of_find?_index hfind)
    exact ⟨searched, s, by rw [hsame]; rfl, hk, h⟩
  | none =>
    obtain ⟨s', hrun, h'⟩ := run_search scanner compiled h index
    dsimp only
    rw [run_bind, hrun]
    cases hfound : scanner.foundAt? s₀.document index with
    | none => exact ⟨searched, s', rfl, hk, h'⟩
    | some found =>
      exact ⟨(index, found) :: searched, s', rfl, List.forall_mem_cons.2 ⟨hfound, hk⟩, h'⟩

theorem violationsIn_cons (path document : String) (rule : Rule) (rules : List Rule) :
    scanner.violationsIn path document (rule :: rules) = (do
      let violations ← scanner.violationsOf path document rule
      return violations ++ (← scanner.violationsIn path document rules)) := by
  rw [violationsIn, violationsIn, List.mapM_cons]
  cases scanner.violationsOf path document rule with
  | error e => rfl
  | ok violations => cases rules.mapM (scanner.violationsOf path document) <;> rfl

/-- A rule whose pattern cannot be used has no violations. -/
theorem violationsIn_cons_of_none {rule : Rule} (h : scanner.searchPattern? rule = none)
    (path document : String) (rules : List Rule) :
    scanner.violationsIn path document (rule :: rules) =
      scanner.violationsIn path document rules := by
  rw [violationsIn_cons, violationsOf, h]
  cases scanner.violationsIn path document rules <;> rfl

/-- The violations of rules are those that can be read off the document, whatever is known and has
    been compiled. -/
theorem run_checkFrom (path : String) (rules : List Rule) (h : Checking s₀ s)
    (hk : scanner.Known s₀.document searched) (hc : scanner.Faithful compiled) :
    ∃ compiled' s', (scanner.checkFrom path searched rules).run (compiled, s) =
        (scanner.violationsIn path s₀.document rules, (compiled', s')) ∧
      scanner.Faithful compiled' ∧ Checking s₀ s' := by
  -- Each rule leaves a session, hits and patterns of which the same can be said for the next.
  induction rules generalizing searched compiled s with
  | nil => exact ⟨compiled, s, rfl, hc, h⟩
  | cons rule rules ih =>
    rw [checkFrom]
    cases hindex : rule.searchIndex with
    | none =>
      have hunused : scanner.searchPattern? rule = none := by rw [searchPattern?, hindex]; rfl
      rw [violationsIn_cons_of_none hunused]
      exact ih h hk hc
    | some index =>
      obtain ⟨searched', s', hrun, hk', h'⟩ := run_hits compiled h hk index
      dsimp only
      rw [run_bind, hrun, foundAt?_searchIndex hindex]
      cases hsearch : scanner.searchPattern? rule with
      | none =>
        rw [violationsIn_cons_of_none hsearch]
        exact ih h' hk' hc
      | some pattern =>
        rw [violationsIn_cons, violationsOf, hsearch]
        obtain ⟨compiled', hc', hjudge⟩ := judge_places pattern s₀.document hc path
          (placesAfter none (pattern.findAll s₀.document)) rule
        dsimp only [Option.map_some]
        rw [run_bind, run_get]
        dsimp only
        rw [run_bind, run_lift, hjudge]
        cases scanner.objects pattern s₀.document
          (placesAfter none (pattern.findAll s₀.document)) rule with
        -- A pattern that cannot be compiled ends the check, and is not kept.
        | error e => exact ⟨compiled, s', rfl, hc, h'⟩
        | ok objected =>
          obtain ⟨compiled'', s'', hrun, hrest⟩ := ih h' hk' hc'
          refine ⟨compiled'', s'', ?_, hrest⟩
          dsimp only [ok_bind, pure, Except.pure]
          rw [run_bind, run_set]
          dsimp only
          rw [run_bind, hrun]
          cases scanner.violationsIn path s₀.document rules <;> rfl

theorem checking_start (id : SessionId) (source : Source) (document : String) :
    Checking (.start id source .read document)
      { Session.start id source .read document with settings := .withLines } where
  settings := rfl
  document := rfl
  rights := ⟨rfl, rfl, rfl, rfl⟩
  opened := rfl
  autoCommit := rfl
  sound := sound_of_empty rfl

/-- In a session that has just begun, the rules find what can be read off its document. -/
theorem run_checkRules (path : String) (rules : List Rule) (hc : scanner.Faithful compiled)
    (id : SessionId) (source : Source) (document : String) :
    ∃ compiled' s', (scanner.checkRules path rules).run
        (compiled, .start id source .read document) =
        (scanner.violationsIn path document rules, (compiled', s')) ∧
      scanner.Faithful compiled' ∧ Checking (.start id source .read document) s' := by
  have hknown : scanner.Known document [] := fun x hx => by cases hx
  obtain ⟨compiled', s', hrun, hrest⟩ :=
    run_checkFrom path rules (checking_start id source document) hknown hc
  refine ⟨compiled', s', ?_, hrest⟩
  rw [checkRules, run_bind, run_runSession, run_changeSettings]
  exact hrun

/-! ### Scripts -/

/-- What is left of an attempt to open a script, once the script is closed again. -/
inductive Remains :
    Except InspectionError Session × Registry × Workspace → Registry × Workspace → Prop
  | unopened (e : InspectionError) (state : Registry × Workspace) : Remains (.error e, state) state
  | closed {begun s : Session} {r r' : Registry} (w : Workspace) : Checking begun s →
      Registry.close.run (r, s) = (.ok (), (r', s.close)) → Remains (.ok begun, (r, w)) (r', w)

/-- A script that can be opened has the violations that can be read off its text, and another one
    has none. -/
theorem run_checkScript (path : String) (rules : List Rule) (hc : scanner.Faithful compiled)
    (r : Registry) (w : Workspace) :
    ∃ compiled' state, (scanner.checkScript path rules).run (compiled, r, w) =
        (match ((Registry.openFile path .read).run (r, w)).1 with
          | .error _ => .ok []
          | .ok session => scanner.violationsIn path session.document rules,
          (compiled', state)) ∧
      scanner.Faithful compiled' ∧ Remains ((Registry.openFile path .read).run (r, w)) state := by
  rw [checkScript, run_bind, run_get]
  dsimp only
  cases hopen : (Registry.openFile path .read).run (r, w) with
  | mk opened state =>
  obtain ⟨r', w'⟩ := state
  dsimp only
  rw [run_bind, run_set]
  cases opened with
  | error e => exact ⟨compiled, (r', w'), rfl, hc, .unopened e _⟩
  | ok session =>
    obtain ⟨file, document, rfl, hlock⟩ := Registry.openFile_ok hopen
    obtain ⟨compiled', s', hrun, hc', h'⟩ := run_checkRules path rules hc w.nextId (.file file)
      document
    -- The lock is there still, so the close that comes before the violations cannot fail.
    have hfile : s'.path? = some file := by rw [Session.path?, h'.rights.source]; rfl
    have hlock' : ⟨s'.id, .read⟩ ∈ r'.locksOf file := by rw [h'.rights.id]; exact hlock
    have hclose := Registry.run_close_of_mem h'.opened hfile hlock'
    refine ⟨compiled', _, ?_, hc', .closed w' h' hclose⟩
    dsimp only
    rw [hrun]
    dsimp only
    rw [hclose]
    dsimp only
    rw [run_bind, run_set]
    rfl

/-! ### Scans -/

/-- The patterns that a scanner has compiled in scans, whatever registries and files these have
    found. -/
inductive Scanned (scanner : Scanner) : Compiled → Prop
  | new : Scanned scanner []
  | script {compiled : Compiled} (path : String) (rules : List Rule) (r : Registry)
      (w : Workspace) : Scanned scanner compiled →
      Scanned scanner ((scanner.checkScript path rules).run (compiled, r, w)).2.1
  | folder {compiled : Compiled} (folder : ScriptFolder) (r : Registry) (w : Workspace) :
      Scanned scanner compiled →
      Scanned scanner ((scanner.checkFolder folder).run (compiled, r, w)).2.1
  | folders {compiled : Compiled} (r : Registry) (w : Workspace) : Scanned scanner compiled →
      Scanned scanner (scanner.checkFolders.run (compiled, r, w)).2.1

theorem keeps_checkScript (path : String) (rules : List Rule) :
    Keeps (fun state => scanner.Faithful state.1) (scanner.checkScript path rules) := by
  rintro ⟨compiled, r, w⟩ hc
  obtain ⟨compiled', state, hrun, hc', _⟩ := run_checkScript path rules hc r w
  rw [hrun]
  exact hc'

/-- What is kept by the check of every script is kept by that of a folder. -/
theorem keeps_checkFolder {P : Compiled × Registry × Workspace → Prop}
    (h : ∀ path rules, Keeps P (scanner.checkScript path rules)) (folder : ScriptFolder) :
    Keeps P (scanner.checkFolder folder) := by
  rw [checkFolder]
  split
  · exact keeps_pure _
  · refine Keeps.bind (fun _ h => h) fun state => ?_
    split
    · exact keeps_throw _
    · exact (keeps_mapM (fun path => h path _) _).bind fun _ => keeps_pure _

theorem keeps_checkFolders {P : Compiled × Registry × Workspace → Prop}
    (h : ∀ path rules, Keeps P (scanner.checkScript path rules)) :
    Keeps P scanner.checkFolders :=
  (keeps_mapM (keeps_checkFolder h) _).bind fun _ => keeps_pure _

theorem Scanned.faithful (h : Scanned scanner compiled) : scanner.Faithful compiled := by
  induction h with
  | new => exact faithful_nil scanner
  | script path rules r w _ ih => exact keeps_checkScript path rules (_, r, w) ih
  | folder folder r w _ ih => exact keeps_checkFolder keeps_checkScript folder (_, r, w) ih
  | folders r w _ ih => exact keeps_checkFolders keeps_checkScript (_, r, w) ih

/-- After any scans, the violations in a script that can be opened are those that can be read off
    its text, by the settings alone. -/
theorem checkScript_eq_violationsIn {settings : Settings} {documentation : Pattern}
    (hdocumentation : Pattern.compile {} none settings.documentationRegex = .ok documentation)
    (hscanner : ofSettings settings = .ok scanner) (hcompiled : Scanned scanner compiled)
    {r r' : Registry} {w w' : Workspace} {path : String} {session : Session}
    (hopen : (Registry.openFile path .read).run (r, w) = (.ok session, (r', w')))
    (rules : List Rule) :
    ((scanner.checkScript path rules).run (compiled, r, w)).1 =
      violationsIn { settings, documentation } path session.document rules := by
  -- A scanner is made of the settings and their pattern for documentation, and nothing else.
  have hsettings : scanner = { settings, documentation } := by
    rw [ofSettings, hdocumentation] at hscanner
    cases hscanner
    rfl
  obtain ⟨compiled', state, hrun, _⟩ := run_checkScript path rules hcompiled.faithful r w
  rw [hrun, hopen, hsettings]

/-- Settings with one pattern, in whose documentation there is a slash. -/
def onePattern : Settings where
  templateFolder := ""
  scriptFolders := []
  placeholders := []
  regexes := [⟨"letter", "a"⟩]
  documentationRegex := "/"
  unwantedCode := [⟨1, "unwanted", some 0, "no letter"⟩]
  codeGuidelines := [⟨2, "named", some 0, "name", some 0, "a name"⟩]
  codeDocumentation := [⟨3, "documented", some 0, "a slash"⟩]

/-- A script is scanned a second time. Its only match is behind a slash, and has no group. -/
theorem checkScript_eq_violationsIn_again :
    let workspace : Workspace := ⟨⟨"", [(["s"], .file (.text "/\na"))]⟩, 0⟩
    ∃ scanner, ofSettings onePattern = .ok scanner ∧
      let compiled := ((scanner.checkScript "s" onePattern.rules).run ([], {}, workspace)).2.1
      ((scanner.checkScript "s" onePattern.rules).run (compiled, {}, workspace)).1 =
        .ok [⟨.unwantedCode, "s", 2, "unwanted", "no letter"⟩,
          ⟨.guideline, "s", 2, "named", "a name"⟩] := by
  intro workspace
  have hdocumentation : ∃ documentation, Pattern.compile {} none "/" = .ok documentation ∧
      violationsIn ⟨onePattern, documentation⟩ "s" "/\na" onePattern.rules =
        .ok [⟨.unwantedCode, "s", 2, "unwanted", "no letter"⟩,
          ⟨.guideline, "s", 2, "named", "a name"⟩] := ⟨_, rfl, rfl⟩
  obtain ⟨documentation, hcompile, hviolations⟩ := hdocumentation
  have hscanner : ofSettings onePattern = .ok ⟨onePattern, documentation⟩ := by
    have hregex : onePattern.documentationRegex = "/" := rfl
    rw [ofSettings, hregex, hcompile]
  have hopen : ∃ r' w', (Registry.openFile "s" .read).run ({}, workspace) =
      (.ok (.start ⟨1⟩ (.file ⟨"", ["s"]⟩) .read "/\na"), (r', w')) := ⟨_, _, rfl⟩
  obtain ⟨r', w', hopen⟩ := hopen
  refine ⟨_, hscanner, ?_⟩
  intro compiled
  have hcompiled : Scanned ⟨onePattern, documentation⟩ compiled := .script _ _ _ _ .new
  exact (checkScript_eq_violationsIn hcompile hscanner hcompiled hopen _).trans hviolations

end Scanner

end ScriptKeeper.Scan
