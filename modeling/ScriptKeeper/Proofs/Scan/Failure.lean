import ScriptKeeper.Proofs.Inspection.Locks
import ScriptKeeper.Proofs.Scan.Listing
import ScriptKeeper.Proofs.Scan.Trace

/-!
# How scans end

A scan goes through scripts whose sessions come and go before anything else happens. In a world in
which others hold files, all that is left of it are numbers that it has taken, whether it fails or
not (`World.scan_ends`). It never fails because of a session. There are two other reasons: the path
of a folder that leads nowhere, and a pattern to check names against that cannot be compiled.

The rules of a folder can all be checked, so nothing has to stand in for a pattern that the settings
do not have, and a pattern that has been compiled is there when it is looked for.

* `Extent`: how much is scanned;
* `World.Visited`: the worlds that requests and scans lead to;
* `Unusable`, `Blamed`: what a failure can be;
* `fetch_eq_compiledPattern`: what stands in for patterns does not matter.
-/

namespace ScriptKeeper

open Inspection Scan

namespace Scan

/-- How much is scanned. -/
inductive Extent
  | script (path : String) (rules : List Rule)
  | folder (folder : ScriptFolder)
  /-- All folders of the settings. -/
  | everything

namespace Extent

/-- The scan of this extent. -/
def perform (scanner : Scanner) : Extent → ScannerAction (List Violation)
  | script path rules => scanner.checkScript path rules
  | folder f => scanner.checkFolder f
  | everything => scanner.checkFolders

/-- The folders that are listed. -/
def folders (scanner : Scanner) : Extent → List ScriptFolder
  | script _ _ => []
  | folder f => [f]
  | everything => scanner.settings.scriptFolders

/-- The rules that are checked. -/
def rules (scanner : Scanner) : Extent → List Rule
  | script _ rules => rules
  | folder f => scanner.folderRules f
  | everything => scanner.settings.scriptFolders.flatMap scanner.folderRules

/-- What is found, as the registry and the files are. -/
def violations (scanner : Scanner) (r : Registry) (files : FileTree) :
    Extent → Except ScanError (List Violation)
  | script path rules => scanner.violationsInScript r files rules path
  | folder f => scanner.violationsInFolder r files f
  | everything => do
    return (← scanner.settings.scriptFolders.mapM (scanner.violationsInFolder r files)).flatten

end Extent

variable {scanner : Scanner} {compiled : Scanner.Compiled} {r : Registry} {files : FileTree}
  {extent : Extent} {rules : List Rule} {e : ScanError}

/-! ### The state afterwards -/

/-- Whatever is scanned, what is found can be told in advance. -/
theorem yields_perform (htidy : r.Tidy) (extent : Extent) :
    Yields (scanner.Undisturbed r files) (extent.perform scanner)
      (extent.violations scanner r files) := by
  cases extent with
  | script path rules => exact Scanner.yields_checkScript htidy rules path
  | folder f => exact Scanner.yields_checkFolder htidy f
  | everything => exact (yields_mapM (Scanner.yields_checkFolder htidy) _).bind fun _ => yields_pure _

theorem keeps_perform {P : Scanner.Compiled × Registry × Workspace → Prop}
    (h : ∀ path rules, Keeps P (scanner.checkScript path rules)) (extent : Extent) :
    Keeps P (extent.perform scanner) := by
  cases extent with
  | script path rules => exact h path rules
  | folder f => exact Scanner.keeps_checkFolder h f
  | everything => exact Scanner.keeps_checkFolders h

/-- No number is given back. -/
theorem keeps_sessions (n : Nat) (path : String) (rules : List Rule) :
    Keeps (fun state => scanner.Faithful state.1 ∧ n ≤ state.2.2.sessions)
      (scanner.checkScript path rules) := by
  rintro ⟨compiled, r, w⟩ ⟨hfaithful, hn⟩
  obtain ⟨compiled', state, hrun, hfaithful', hremains⟩ :=
    Scanner.run_checkScript path rules hfaithful r w
  rw [hrun]
  refine ⟨hfaithful', ?_⟩
  -- The attempt to open the script takes a number at most, and nothing after it takes any.
  have hworkspace := Registry.workspace_openFile r w path .read
  generalize (Registry.openFile path .read).run (r, w) = opening at hremains hworkspace
  have hopened : state.2 = w ∨ state.2 = w.takeId := by cases hremains <;> exact hworkspace
  rcases hopened with hsame | htaken
  · exact hsame ▸ hn
  · exact htaken ▸ Nat.le_succ_of_le hn

/-! ### Failures -/

/-- A guideline among the rules checks names against a pattern that cannot be compiled. -/
inductive Unusable (scanner : Scanner) (rules : List Rule) : ScanError → Prop
  | pattern {rule : CodeGuideline} {index : Nat} {named : NamedPattern} {fault : Pattern.Fault} :
      .guideline rule ∈ rules → rule.matchRegexIndex = some index →
      scanner.settings.regexes[index]? = some named →
      Pattern.compile {} none named.regex = .error fault →
      Unusable scanner rules (.invalidRegex named.name fault)

/-- What a scan can fail with. -/
inductive Blamed (scanner : Scanner) (files : FileTree) (extent : Extent) : ScanError → Prop
  /-- The path of a folder leads nowhere. -/
  | folder {folder : ScriptFolder} {cause : FileError} : folder ∈ extent.folders scanner →
      files.locate folder.path = .error cause →
      Blamed scanner files extent (.readFolder folder.path cause)
  | pattern {e : ScanError} : Unusable scanner (extent.rules scanner) e →
      Blamed scanner files extent e

theorem Unusable.mono {rules' : List Rule} (h : Unusable scanner rules e) (hsub : rules ⊆ rules') :
    Unusable scanner rules' e := by
  cases h with
  | pattern hrule hindex hnamed hfault => exact .pattern (hsub hrule) hindex hnamed hfault

namespace Scanner

/-- A pattern that cannot be compiled is one of the settings. -/
theorem checkPattern_eq_error {index : Nat} (h : scanner.checkPattern index = .error e) :
    ∃ named fault, scanner.settings.regexes[index]? = some named ∧
      Pattern.compile {} none named.regex = .error fault ∧
      e = .invalidRegex named.name fault := by
  rw [checkPattern] at h
  cases hnamed : scanner.settings.regexes[index]? with
  | none =>
    -- The empty pattern that stands in then can be compiled.
    have hempty : ∃ pattern, Pattern.compile {} none "" = .ok pattern := ⟨_, rfl⟩
    obtain ⟨pattern, hempty⟩ := hempty
    rw [hnamed, Option.getD_none, hempty] at h
    cases h
  | some named =>
    rw [hnamed, Option.getD_some] at h
    cases hcompile : Pattern.compile {} none named.regex with
    | ok pattern => rw [hcompile] at h; cases h
    | error fault => rw [hcompile] at h; cases h; exact ⟨named, fault, rfl, hcompile, rfl⟩

theorem unusable_of_violationsOf {path document : String} {rule : Rule}
    (h : scanner.violationsOf path document rule = .error e) : Unusable scanner [rule] e := by
  rw [violationsOf] at h
  cases hsearch : scanner.searchPattern? rule with
  | none => rw [hsearch] at h; cases h
  | some pattern =>
    rw [hsearch] at h
    replace h := bind_pure_eq_error_iff.1 h
    cases rule with
    | unwantedCode => cases h
    | documentation => cases h
    | guideline r =>
      rw [objects] at h
      cases hindex : r.matchRegexIndex with
      | none => rw [hindex] at h; cases h
      | some index =>
        rw [hindex] at h
        obtain ⟨named, fault, hnamed, hfault, rfl⟩ :=
          checkPattern_eq_error (bind_pure_eq_error_iff.1 h)
        exact .pattern (List.mem_singleton_self _) hindex hnamed hfault

theorem unusable_of_violationsInScript {path : String}
    (h : scanner.violationsInScript r files rules path = .error e) : Unusable scanner rules e := by
  rw [violationsInScript] at h
  cases hread : r.readable? files path with
  | none => rw [hread] at h; cases h
  | some document =>
    rw [hread] at h
    obtain ⟨rule, hrule, hfail⟩ := exists_of_mapM_eq_error (bind_pure_eq_error_iff.1 h)
    exact (unusable_of_violationsOf hfail).mono (by simpa using hrule)

theorem blamed_of_violationsInFolder {folder : ScriptFolder}
    (h : scanner.violationsInFolder r files folder = .error e) :
    Blamed scanner files (.folder folder) e := by
  rw [violationsInFolder] at h
  split at h
  next => cases h
  next =>
    split at h
    next cause hlist =>
      cases h
      exact .folder (List.mem_singleton_self _) (listScripts_eq_error_iff.1 hlist)
    next scripts _ =>
      obtain ⟨path, _, hfail⟩ := exists_of_mapM_eq_error (bind_pure_eq_error_iff.1 h)
      exact .pattern (unusable_of_violationsInScript hfail)

end Scanner

/-- A scan fails only for one of the two reasons. -/
theorem blamed_of_violations (h : extent.violations scanner r files = .error e) :
    Blamed scanner files extent e := by
  cases extent with
  | script path rules => exact .pattern (Scanner.unusable_of_violationsInScript h)
  | folder f => exact Scanner.blamed_of_violationsInFolder h
  | everything =>
    obtain ⟨f, hf, hfail⟩ := exists_of_mapM_eq_error (bind_pure_eq_error_iff.1 h)
    -- What a folder is blamed for, the whole is.
    cases Scanner.blamed_of_violationsInFolder hfail with
    | folder hin hlocate =>
      obtain rfl := List.mem_singleton.1 hin
      exact .folder hf hlocate
    | pattern hunusable =>
      exact .pattern (hunusable.mono fun rule hrule => List.mem_flatMap.2 ⟨f, hf, hrule⟩)

/-! ### Patterns to check names against -/

namespace Scanner

/-- The pattern of the given index as it stands in the table, in which it is put first unless it is
    there. `fallback` stands in for a pattern that the settings do not have, and the look-up fails
    with `miss` if the pattern is not even there then. -/
def fetch (scanner : Scanner) (fallback : NamedPattern) (miss : ScanError) (compiled : Compiled)
    (index : Nat) : Except ScanError (Pattern × Compiled) := do
  let named := (scanner.settings.regexes[index]?).getD fallback
  let compiled ←
    if (compiled.find? fun x => x.1 == index).isSome then pure compiled
    else match Pattern.compile {} none named.regex with
      | .ok pattern => pure ((index, pattern) :: compiled)
      | .error fault => throw (.invalidRegex named.name fault)
  match compiled.find? fun x => x.1 == index with
  | some (_, pattern) => return (pattern, compiled)
  | none => throw miss

/-- What is in the settings and has been put into the table is found. -/
theorem fetch_eq_compiledPattern {index : Nat} {named : NamedPattern}
    (h : scanner.settings.regexes[index]? = some named) (fallback : NamedPattern)
    (miss : ScanError) (compiled : Compiled) :
    scanner.fetch fallback miss compiled index = scanner.compiledPattern compiled index := by
  rw [fetch, compiledPattern, checkPattern, h, Option.getD_some, Option.getD_some]
  cases hfind : compiled.find? fun x => x.1 == index with
  | some x =>
    rw [Option.isSome_some, if_pos rfl]
    dsimp only [bind, Except.bind, pure, Except.pure]
    rw [hfind]
  | none =>
    rw [Option.isSome_none, if_neg Bool.false_ne_true]
    dsimp only
    cases Pattern.compile {} none named.regex with
    | error fault => rfl
    | ok pattern =>
      dsimp only [bind, Except.bind, pure, Except.pure]
      rw [List.find?_cons_of_pos (by simp)]

end Scanner

/-- The patterns of the rule are those of the settings. -/
structure Configured (settings : Settings) (rule : Rule) : Prop where
  search : ∃ index named, rule.searchIndex = some index ∧ settings.regexes[index]? = some named
  check : ∀ r, rule = .guideline r →
    ∃ index named, r.matchRegexIndex = some index ∧ settings.regexes[index]? = some named

theorem exists_pattern_of_inRange {index? : Option Nat} {patterns : List NamedPattern}
    (h : index?.any (· < patterns.length) = true) :
    ∃ index named, index? = some index ∧ patterns[index]? = some named := by
  cases index? with
  | none => cases h
  | some index => exact ⟨index, _, rfl, List.getElem?_eq_getElem (of_decide_eq_true h)⟩

theorem configured_of_accepts {settings : Settings} {rule : Rule}
    (h : settings.accepts rule = true) : Configured settings rule := by
  cases rule with
  | unwantedCode r => exact ⟨exists_pattern_of_inRange h, fun _ hr => by cases hr⟩
  | documentation r => exact ⟨exists_pattern_of_inRange h, fun _ hr => by cases hr⟩
  | guideline r =>
    simp only [Settings.accepts, Rule.isValid, Bool.and_eq_true] at h
    refine ⟨exists_pattern_of_inRange h.1.1, fun _ hr => ?_⟩
    cases hr
    exact exists_pattern_of_inRange h.1.2

/-- The rules of folders can all be checked. -/
theorem configured_of_mem_rules (hextent : ∀ path rules, extent ≠ .script path rules) {rule : Rule}
    (hrule : rule ∈ extent.rules scanner) : Configured scanner.settings rule := by
  have hfolder {f : ScriptFolder} (hmem : rule ∈ scanner.folderRules f) :
      Configured scanner.settings rule := by
    obtain ⟨id, _, hid⟩ := List.mem_filterMap.1 hmem
    exact configured_of_accepts (Option.filter_eq_some_iff.1 hid).2
  cases extent with
  | script path rules => exact absurd rfl (hextent path rules)
  | folder f => exact hfolder hrule
  | everything =>
    obtain ⟨f, _, hmem⟩ := List.mem_flatMap.1 hrule
    exact hfolder hmem

end Scan

/-! ### Worlds -/

namespace Inspection.World

variable {w : World} {i : Nat} {scanner : Scanner} {compiled : Scanner.Compiled} {extent : Extent}

/-- What a scanner finds that opens scripts through a registry, and the world after it. -/
def scan (w : World) (i : Nat) (scanner : Scanner) (compiled : Scanner.Compiled)
    (extent : Extent) : Except ScanError (List Violation) × World :=
  let (result, (_, r, workspace)) :=
    (extent.perform scanner).run (compiled, w.registries i, w.workspace)
  (result, { w with workspace }.setRegistry i r)

/-- The worlds that requests and scans lead to. A scanner may have been used before. -/
inductive Visited : World → Prop
  | start (workspace : Workspace) : Visited { workspace }
  | request {w : World} (req : Request) : Visited w → Visited (w.request req).2
  | scan {w : World} {scanner : Scanner} {compiled : Scanner.Compiled} (i : Nat) (extent : Extent) :
      Scanner.Scanned scanner compiled → Visited w →
      Visited (w.scan i scanner compiled extent).2

/-- The world in which more numbers have been taken. -/
def withSessions (w : World) (n : Nat) : World :=
  { w with workspace := { w.workspace with sessions := n } }

theorem Locked.counted (h : w.Locked) (i : Nat) : (w.registries i).Counted w.workspace.sessions := by
  intro path l hl
  rw [h.locks] at hl
  obtain ⟨o, ho, _, _, _, rfl⟩ := mem_locksHeld.1 hl
  exact h.numbered.counted _ (List.mem_map_of_mem ho)

theorem Locked.withSessions {n : Nat} (h : w.Locked) (hn : w.workspace.sessions ≤ n) :
    (w.withSessions n).Locked :=
  ⟨⟨h.numbered.nodup, fun id hid => Nat.le_trans (h.numbered.counted id hid) hn⟩, h.tidy, h.locks,
    h.compatible, h.onFile⟩

/-- What is found in a world can be told in advance, and only numbers are taken. -/
theorem Locked.scan (h : w.Locked) (hcompiled : Scanner.Scanned scanner compiled) (i : Nat)
    (extent : Extent) :
    ∃ n, w.workspace.sessions ≤ n ∧ w.scan i scanner compiled extent =
      (extent.violations scanner (w.registries i) w.workspace.files, w.withSessions n) := by
  have hundisturbed : scanner.Undisturbed (w.registries i) w.workspace.files
      (compiled, w.registries i, w.workspace) := ⟨hcompiled.faithful, rfl, rfl, h.counted i⟩
  have hyields := yields_perform (h.tidy i) extent _ hundisturbed
  have hsessions := keeps_perform (keeps_sessions w.workspace.sessions) extent
    (compiled, w.registries i, w.workspace) ⟨hcompiled.faithful, Nat.le_refl _⟩
  -- The registry that comes out is the one that went in, and so are the files.
  rw [World.scan]
  cases hrun : (extent.perform scanner).run (compiled, w.registries i, w.workspace) with
  | mk result state =>
  obtain ⟨compiled', r, files, n⟩ := state
  rw [hrun] at hyields hsessions
  obtain ⟨rfl, _, rfl, rfl, _⟩ := hyields
  refine ⟨n, hsessions.2, ?_⟩
  dsimp only
  rw [← setRegistry_self (w.withSessions n) i]
  rfl

theorem locked_of_visited (h : w.Visited) : w.Locked := by
  induction h with
  | start workspace => exact locked_of_reachable (.start workspace)
  | request req _ ih => exact ih.step (ih.numbered.step_request req)
  | scan i extent hcompiled _ ih =>
    obtain ⟨n, hn, hscan⟩ := ih.scan hcompiled i extent
    rw [hscan]
    exact ih.withSessions hn

/-- What holds of a scan. -/
structure ScanEnds (w : World) (i : Nat) (scanner : Scanner) (compiled : Scanner.Compiled)
    (extent : Extent) : Prop where
  /-- All registries, files and sessions are as they were. -/
  traceless : ∃ n, w.workspace.sessions ≤ n ∧
    (w.scan i scanner compiled extent).2 = w.withSessions n
  /-- Nothing that is done with a session fails. -/
  sessions : ∀ cause, (w.scan i scanner compiled extent).1 ≠ .error (.inspection cause)
  failure : ∀ e, (w.scan i scanner compiled extent).1 = .error e →
    Blamed scanner w.workspace.files extent e
  /-- The rules that are checked in folders have patterns in the settings. -/
  configured : (∀ path rules, extent ≠ .script path rules) →
    ∀ rule ∈ extent.rules scanner, Configured scanner.settings rule
  /-- Nothing stands in for the pattern of a guideline in folders, and it is always there. -/
  fetched : (∀ path rules, extent ≠ .script path rules) →
    ∀ rule index, .guideline rule ∈ extent.rules scanner → rule.matchRegexIndex = some index →
      ∀ fallback miss compiled, scanner.fetch fallback miss compiled index =
        scanner.compiledPattern compiled index

/-- However a scan ends, in a world in which any sessions hold files, it leaves no trace but numbers
    that are taken, and it fails only for one of two reasons. -/
theorem scan_ends (h : w.Visited) (hcompiled : Scanner.Scanned scanner compiled) (i : Nat)
    (extent : Extent) : w.ScanEnds i scanner compiled extent := by
  obtain ⟨n, hn, hscan⟩ := (locked_of_visited h).scan hcompiled i extent
  have hfailure (e : ScanError) (he : (w.scan i scanner compiled extent).1 = .error e) :
      Blamed scanner w.workspace.files extent e := by
    rw [hscan] at he
    exact blamed_of_violations he
  refine ⟨⟨n, hn, congrArg Prod.snd hscan⟩, fun cause hcause => ?_, hfailure,
    fun hextent rule hrule => configured_of_mem_rules hextent hrule,
    fun hextent rule index hrule hindex fallback miss compiled => ?_⟩
  · cases hfailure _ hcause with
    | pattern hunusable => cases hunusable
  · obtain ⟨index', named, hindex', hnamed⟩ :=
      (configured_of_mem_rules hextent hrule).check rule rfl
    obtain rfl := Option.some.inj (hindex.symm.trans hindex')
    exact Scanner.fetch_eq_compiledPattern hnamed fallback miss compiled

/-- Settings with a guideline that checks names against a group without an end. -/
def unclosedCheck : Settings where
  templateFolder := ""
  scriptFolders := [⟨"", "s.cs", false, [1]⟩]
  placeholders := []
  regexes := [⟨"letter", "a"⟩, ⟨"check", "("⟩]
  documentationRegex := "/"
  unwantedCode := []
  codeGuidelines := [⟨1, "named", some 0, "name", some 1, ""⟩]
  codeDocumentation := []

/-- The scan of a script that someone else reads fails after the script has been opened. The reader
    keeps its lock, and is the only one that has one. -/
theorem scan_ends_unclosed :
    let files : FileTree := { base := "/home", entries := [(["s.cs"], .file (.text "a"))] }
    let w := (request { workspace := { files } } (.openFile 0 "s.cs" .read)).2
    ∃ scanner fault, Scanner.ofSettings unclosedCheck = .ok scanner ∧
      (w.scan 0 scanner [] .everything).1 = .error (.invalidRegex "check" fault) ∧
      Blamed scanner files .everything (.invalidRegex "check" fault) ∧
      (w.scan 0 scanner [] .everything).2.registries 0 =
        ⟨[(⟨"/home", ["s.cs"]⟩, [⟨⟨1⟩, .read⟩])]⟩ := by
  intro files w
  have hvisited : w.Visited := .request _ (.start { files })
  have hheld : (request { workspace := { files } } (.openFile 0 "s.cs" .read)).2.registries 0 =
      ⟨[(⟨"/home", ["s.cs"]⟩, [⟨⟨1⟩, .read⟩])]⟩ := rfl
  have hviolations : ∃ scanner fault, Scanner.ofSettings unclosedCheck = .ok scanner ∧
      Extent.violations scanner ⟨[(⟨"/home", ["s.cs"]⟩, [⟨⟨1⟩, .read⟩])]⟩ files .everything =
        .error (.invalidRegex "check" fault) := ⟨_, _, rfl, rfl⟩
  obtain ⟨scanner, fault, hscanner, hviolations⟩ := hviolations
  have hnew : Scanner.Scanned scanner [] := .new
  have hends := scan_ends hvisited hnew 0 .everything
  obtain ⟨_, _, hscan⟩ := (locked_of_visited hvisited).scan hnew 0 .everything
  have hfails : (w.scan 0 scanner [] .everything).1 = .error (.invalidRegex "check" fault) := by
    rw [hscan, hheld]
    exact hviolations
  refine ⟨scanner, fault, hscanner, hfails, hends.failure _ hfails, ?_⟩
  obtain ⟨_, _, hafter⟩ := hends.traceless
  rw [hafter]
  exact hheld

end Inspection.World

end ScriptKeeper
