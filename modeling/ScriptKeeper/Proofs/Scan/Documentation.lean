import ScriptKeeper.Proofs.Pattern.Search
import ScriptKeeper.Proofs.Scan.Script

/-!
# What counts as documentation

The stock pattern for documentation matches in a text if a blank stands right before two slashes,
and from there on nothing but the end of the text comes after a newline
(`isMatch_documentation_iff`). The newline at the end of a line is such a blank for a comment that
begins the next line. A comment at the very beginning of the text has no blank before it, so it does
not count, unless it has one itself before two other slashes (`LineComment.Blanked`).

What a rule for documentation looks at is the text before a match, which reaches back to the match
before. So code right below a line comment is reported only if nothing comes before the comment in
this text: it begins the script, or stands right behind the match before
(`reported_below_lineComment`).
-/

namespace ScriptKeeper.Scan

open Inspection Pattern

/-! ### The program of the pattern -/

/-- A slash. -/
def slashSet : Unicode.CharSet := ⟨[(47, 47)]⟩

/-- A newline. -/
def newlineSet : Unicode.CharSet := ⟨[(10, 10)]⟩

/-- Everything but a newline. -/
def inLineSet : Unicode.CharSet := ⟨[(0, 9), (11, Unicode.maxPoint)]⟩

/-- The program of the stock pattern for documentation. -/
def documentationProgram : Program :=
  #[.consume Unicode.blanks 1, .consume slashSet 2, .consume slashSet 3,
    -- A third slash, or none.
    .fork 4 5, .consume slashSet 5, .jump 6,
    -- The rest of the line.
    .fork 7 8, .consume inLineSet 6,
    -- A newline, or none, and the end.
    .fork 9 10, .consume newlineSet 10, .jump 11, .check .textEnd 12, .accept]

theorem compile_documentationPattern : Pattern.compile {} none Stock.documentationPattern =
    .ok ⟨Stock.documentationPattern, documentationProgram, [none]⟩ := rfl

theorem contains_slashSet_iff {c : Char} : slashSet.contains c = true ↔ c = '/' :=
  contains_single_iff '/'

theorem contains_newlineSet_iff {c : Char} : newlineSet.contains c = true ↔ c = '\n' :=
  contains_single_iff '\n'

theorem contains_inLineSet_iff {c : Char} : inLineSet.contains c = true ↔ c ≠ '\n' := by
  rw [Ne, ← Char.toNat_inj]
  simp only [inLineSet, Unicode.CharSet.contains, Unicode.CharSet.hasPoint,
    Unicode.CharSet.inRanges, Unicode.maxPoint]
  have hnewline : '\n'.toNat = 10 := rfl
  have hvalid : c.toNat < 0xd800 ∨ 0xdfff < c.toNat ∧ c.toNat < 0x110000 := c.valid
  grind

/-! ### Running the program -/

/-- After a newline, only the end of the text comes. -/
def OneLine (cs : List Char) : Prop := '\n' ∉ cs.dropLast

theorem oneLine_cons_iff {c : Char} {cs : List Char} :
    OneLine (c :: cs) ↔ cs = [] ∨ c ≠ '\n' ∧ OneLine cs := by
  cases cs with
  | nil => simp [OneLine]
  | cons d cs =>
    rw [OneLine, OneLine, List.dropLast_cons_cons, List.mem_cons, not_or]
    simp [eq_comm]

variable {cs : List Char} {pos : Nat} {marks : List (Nat × Nat)}

theorem succeeds_atEnd_iff :
    Succeeds documentationProgram cs.toArray ⟨10, pos, marks⟩ ↔ cs.drop pos = [] := by
  rw [succeeds_jump_iff rfl, succeeds_textEnd_iff rfl, and_iff_left (succeeds_accept rfl)]

theorem succeeds_afterLine_iff : Succeeds documentationProgram cs.toArray ⟨8, pos, marks⟩ ↔
    cs.drop pos = ['\n'] ∨ cs.drop pos = [] := by
  rw [succeeds_fork_iff rfl, succeeds_consume_iff rfl]
  simp only [contains_newlineSet_iff, succeeds_atEnd_iff]
  refine or_congr_left ⟨?_, fun h => ⟨'\n', [], h, rfl, (drop_eq_cons_iff.1 h).2⟩⟩
  rintro ⟨c, rest, hdrop, rfl, hrest⟩
  rw [hdrop, ← (drop_eq_cons_iff.1 hdrop).2, hrest]

/-- From the second slash on, the program takes the rest of a line. -/
theorem succeeds_inLine_iff :
    Succeeds documentationProgram cs.toArray ⟨6, pos, marks⟩ ↔ OneLine (cs.drop pos) := by
  -- Each character that is taken leaves a shorter rest.
  generalize hrest : cs.drop pos = rest
  induction rest generalizing pos with
  | nil =>
    rw [succeeds_fork_iff rfl, succeeds_afterLine_iff, hrest]
    simp [OneLine]
  | cons c rest ih =>
    have htail := (drop_eq_cons_iff.1 hrest).2
    rw [succeeds_fork_iff rfl, succeeds_consume_iff rfl, succeeds_afterLine_iff, hrest,
      oneLine_cons_iff]
    simp only [contains_inLineSet_iff, List.cons.injEq, ih htail]
    constructor
    · rintro (⟨d, rest', ⟨rfl, rfl⟩, hd, hline⟩ | ⟨rfl, rfl⟩ | hnil)
      · exact .inr ⟨hd, hline⟩
      · exact .inl rfl
      · cases hnil
    · rintro (rfl | ⟨hc, hline⟩)
      · by_cases hc : c = '\n'
        · exact .inr (.inl ⟨hc, rfl⟩)
        · exact .inl ⟨c, [], ⟨rfl, rfl⟩, hc, by simp [OneLine]⟩
      · exact .inl ⟨c, rest, ⟨rfl, rfl⟩, hc, hline⟩

theorem succeeds_afterThird_iff :
    Succeeds documentationProgram cs.toArray ⟨5, pos, marks⟩ ↔ OneLine (cs.drop pos) :=
  (succeeds_jump_iff rfl).trans succeeds_inLine_iff

/-- A third slash is part of the rest as well. -/
theorem succeeds_afterSlashes_iff :
    Succeeds documentationProgram cs.toArray ⟨3, pos, marks⟩ ↔ OneLine (cs.drop pos) := by
  rw [succeeds_fork_iff rfl, succeeds_consume_iff rfl]
  simp only [contains_slashSet_iff, succeeds_afterThird_iff]
  refine or_iff_right_of_imp ?_
  rintro ⟨c, rest, hdrop, rfl, hline⟩
  rw [(drop_eq_cons_iff.1 hdrop).2] at hline
  rw [hdrop, oneLine_cons_iff]
  exact .inr ⟨by decide, hline⟩

/-- A blank stands right before two slashes. -/
def BlankBefore (before : List Char) (c : Char) (rest cs : List Char) : Prop :=
  cs = before ++ c :: '/' :: '/' :: rest ∧ Unicode.isBlank c = true

/-- A slash is no blank. -/
theorem BlankBefore.of_slash {before rest : List Char} {c : Char}
    (h : BlankBefore before c rest ('/' :: cs)) : ∃ before, BlankBefore before c rest cs := by
  obtain ⟨htext, hc⟩ := h
  cases before with
  | nil =>
    obtain ⟨rfl, _⟩ := List.cons.inj htext
    exact absurd hc (by decide)
  | cons d before => exact ⟨before, (List.cons.inj htext).2, hc⟩

/-- A newline is no slash. -/
theorem BlankBefore.of_newline {before rest : List Char} {c : Char}
    (h : BlankBefore before c rest (cs ++ ['\n'])) : ∃ rest, BlankBefore before c rest cs := by
  obtain ⟨htext, hc⟩ := h
  rcases List.eq_nil_or_concat rest with rfl | ⟨rest, d, rfl⟩
  · have hlast := congrArg List.getLast? htext
    simp at hlast
  · have hparts : cs ++ ['\n'] = (before ++ c :: '/' :: '/' :: rest) ++ [d] := by simpa using htext
    exact ⟨rest, (List.append_inj' hparts rfl).1, hc⟩

/-- The stock pattern for documentation matches where a blank stands right before two slashes, with
    only the rest of their line behind them. -/
theorem isMatch_documentation_iff {p : Pattern}
    (hp : Pattern.compile {} none Stock.documentationPattern = .ok p) (s : String) :
    p.isMatch s = true ↔ ∃ before c rest, BlankBefore before c rest s.toList ∧ OneLine rest := by
  cases hp.symm.trans compile_documentationPattern
  rw [isMatch_iff]
  constructor
  · rintro ⟨start, hle, hsucceeds⟩
    obtain ⟨c, _, hc, hblank, hsucceeds⟩ := (succeeds_consume_iff rfl).1 hsucceeds
    obtain ⟨d, _, hd, hslash, hsucceeds⟩ := (succeeds_consume_iff rfl).1 hsucceeds
    obtain ⟨e, rest, he, hslash', hsucceeds⟩ := (succeeds_consume_iff rfl).1 hsucceeds
    obtain rfl := contains_slashSet_iff.1 hslash
    obtain rfl := contains_slashSet_iff.1 hslash'
    have hrest := succeeds_afterSlashes_iff.1 hsucceeds
    have htext := List.take_append_drop start s.toList
    rw [hc, ← (drop_eq_cons_iff.1 hc).2, hd, ← (drop_eq_cons_iff.1 hd).2, he] at htext
    rw [(drop_eq_cons_iff.1 he).2] at hrest
    exact ⟨_, c, rest, ⟨htext.symm, hblank⟩, hrest⟩
  · rintro ⟨before, c, rest, ⟨htext, hblank⟩, hrest⟩
    have hdrop : s.toList.drop before.length = c :: '/' :: '/' :: rest := by
      rw [htext, List.drop_left]
    have hdrop' := (drop_eq_cons_iff.1 hdrop).2
    have hdrop'' := (drop_eq_cons_iff.1 hdrop').2
    refine ⟨before.length, by simp [htext], ?_⟩
    rw [succeeds_consume_iff rfl]
    refine ⟨c, _, hdrop, hblank, ?_⟩
    rw [succeeds_consume_iff rfl]
    refine ⟨'/', _, hdrop', contains_slashSet_iff.2 rfl, ?_⟩
    rw [succeeds_consume_iff rfl]
    refine ⟨'/', _, hdrop'', contains_slashSet_iff.2 rfl, ?_⟩
    rw [succeeds_afterSlashes_iff, (drop_eq_cons_iff.1 hdrop'').2]
    exact hrest

/-! ### Line comments -/

/-- A text that ends with a line comment. -/
structure LineComment where
  /-- The lines above. -/
  above : List Char
  indent : List Char
  /-- What stands behind the slashes. -/
  body : List Char
  ending : List Char
  above_lines : above = [] ∨ ∃ lines, above = lines ++ ['\n']
  indent_blank : ∀ c ∈ indent, c = ' ' ∨ c = '\t'
  body_line : '\n' ∉ body
  ending_line : ending = [] ∨ ending = ['\n']

namespace LineComment

/-- The text. -/
def text (c : LineComment) : String :=
  String.ofList (c.above ++ c.indent ++ '/' :: '/' :: (c.body ++ c.ending))

/-- A blank stands right before the slashes of the comment, or before two others in it. -/
def Blanked (c : LineComment) : Prop :=
  c.above ++ c.indent ≠ [] ∨ ∃ before b rest, BlankBefore before b rest c.body

variable {c : LineComment}

theorem oneLine_append_ending {cs : List Char} (h : '\n' ∉ cs) : OneLine (cs ++ c.ending) := by
  rcases c.ending_line with hnil | hnewline
  · rw [hnil, List.append_nil]
    exact fun hmem => h (List.mem_of_mem_dropLast hmem)
  · rwa [hnewline, OneLine, List.dropLast_concat]

/-- The character before the slashes of a comment is a blank, if there is one. -/
theorem isBlank_of_concat {before : List Char} {b : Char}
    (h : c.above ++ c.indent = before ++ [b]) : Unicode.isBlank b = true := by
  rcases List.eq_nil_or_concat c.indent with hnil | ⟨indent, d, hindent⟩
  · rw [hnil, List.append_nil] at h
    rcases c.above_lines with habove | ⟨lines, habove⟩
    · rw [habove] at h
      exact absurd h.symm (by simp)
    · rw [habove] at h
      obtain rfl : '\n' = b := by simpa using (List.append_inj' h rfl).2
      rfl
  · rw [hindent, List.concat_eq_append, ← List.append_assoc] at h
    obtain rfl : d = b := by simpa using (List.append_inj' h rfl).2
    have hd : d = ' ' ∨ d = '\t' := c.indent_blank d (by simp [hindent])
    rcases hd with rfl | rfl <;> rfl

/-- A blank that is not behind the slashes of the comment is before them. -/
theorem blanked_of_blankBefore {before rest : List Char} {b : Char}
    (h : BlankBefore before b rest c.text.toList) : c.Blanked := by
  rw [Blanked, Classical.or_iff_not_imp_left, not_not]
  intro hfirst
  rw [text, String.toList_ofList, hfirst, List.nil_append] at h
  obtain ⟨_, h⟩ := h.of_slash
  obtain ⟨before, h⟩ := h.of_slash
  rcases c.ending_line with hnil | hnewline
  · rw [hnil, List.append_nil] at h
    exact ⟨before, b, rest, h⟩
  · rw [hnewline] at h
    obtain ⟨rest, h⟩ := h.of_newline
    exact ⟨before, b, rest, h⟩

/-- A line comment is documentation exactly if a blank stands before its slashes, or before others
    in it. -/
theorem isMatch_text_iff {p : Pattern}
    (hp : Pattern.compile {} none Stock.documentationPattern = .ok p) (c : LineComment) :
    p.isMatch c.text = true ↔ c.Blanked := by
  rw [isMatch_documentation_iff hp]
  constructor
  · rintro ⟨before, b, rest, hblank, _⟩
    exact blanked_of_blankBefore hblank
  · rintro (hne | ⟨before, b, rest, hbody, hb⟩)
    · obtain ⟨before, b, hconcat⟩ := (List.eq_nil_or_concat _).resolve_left hne
      rw [List.concat_eq_append] at hconcat
      refine ⟨before, b, c.body ++ c.ending, ⟨?_, isBlank_of_concat hconcat⟩,
        oneLine_append_ending c.body_line⟩
      rw [text, String.toList_ofList, hconcat, List.append_assoc, List.singleton_append]
    · have hrest : '\n' ∉ rest := fun hmem => c.body_line (by simp [hbody, hmem])
      refine ⟨c.above ++ c.indent ++ '/' :: '/' :: before, b, rest ++ c.ending, ⟨?_, hb⟩,
        oneLine_append_ending hrest⟩
      rw [text, String.toList_ofList, hbody]
      simp

end LineComment

/-! ### Rules for documentation -/

namespace Scanner

variable {settings : Settings} {scanner : Scanner}

/-- A scanner with the stock pattern for documentation. -/
theorem compile_documentation (hstock : settings.documentationRegex = Stock.documentationPattern)
    (hscanner : ofSettings settings = .ok scanner) :
    Pattern.compile {} none Stock.documentationPattern = .ok scanner.documentation := by
  rw [ofSettings, hstock, compile_documentationPattern] at hscanner
  cases hscanner
  exact compile_documentationPattern

/-- The places that are not documented. -/
def undocumented (scanner : Scanner) (pattern : Pattern) (document : String) : List Place :=
  (placesAfter none (pattern.findAll document)).filter fun p =>
    !(p.preceding document).any scanner.documentation.isMatch

theorem violationsIn_documentation {rule : CodeDocumentation} {pattern : Pattern}
    (hpattern : scanner.searchPattern? (.documentation rule) = some pattern)
    (path document : String) : scanner.violationsIn path document [.documentation rule] =
      .ok ((scanner.undocumented pattern document).map
        (Place.violation path document (.documentation rule))) := by
  rw [violationsIn_cons, violationsOf, hpattern]
  show Except.ok (_ ++ []) = _
  rw [List.append_nil]
  rfl

/-- Below a line comment, a match is reported exactly if no blank stands before the slashes of the
    comment, nor before others in it. A line comment is documentation by the stock pattern
    otherwise, wherever it stands. -/
theorem reported_below_lineComment
    (hstock : settings.documentationRegex = Stock.documentationPattern)
    (hscanner : ofSettings settings = .ok scanner) :
    (∀ c : LineComment, scanner.documentation.isMatch c.text = true ↔ c.Blanked) ∧
    ∀ (compiled : Compiled) (r r' : Registry) (w w' : Workspace) (path : String)
      (session : Session) (rule : CodeDocumentation) (pattern : Pattern),
      Scanned scanner compiled →
      (Registry.openFile path .read).run (r, w) = (.ok session, (r', w')) →
      scanner.searchPattern? (.documentation rule) = some pattern →
      ∃ reported : List Place,
        reported.Sublist (placesAfter none (pattern.findAll session.document)) ∧
        ((scanner.checkScript path [.documentation rule]).run (compiled, r, w)).1 =
          .ok (reported.map (Place.violation path session.document (.documentation rule))) ∧
        ∀ p ∈ placesAfter none (pattern.findAll session.document), ∀ c : LineComment,
          p.preceding session.document = some c.text → (p ∈ reported ↔ ¬ c.Blanked) := by
  have hcomment := LineComment.isMatch_text_iff (compile_documentation hstock hscanner)
  refine ⟨hcomment, fun compiled r r' w w' path session rule pattern hcompiled hopen hpattern =>
    ⟨scanner.undocumented pattern session.document, List.filter_sublist, ?_, ?_⟩⟩
  · obtain ⟨_, _, hrun, _⟩ := run_checkScript path [.documentation rule] hcompiled.faithful r w
    rw [hrun, hopen]
    exact violationsIn_documentation hpattern path session.document
  · intro p hp c hpreceding
    rw [undocumented, List.mem_filter, hpreceding, Option.any_some, Bool.not_eq_true',
      ← Bool.not_eq_true, hcomment]
    exact and_iff_right hp

/-- Settings with a rule that asks for comments above the letter "a". -/
def letterDocumented : Settings where
  templateFolder := ""
  scriptFolders := []
  placeholders := []
  regexes := [⟨"letter", "a"⟩]
  documentationRegex := Stock.documentationPattern
  unwantedCode := []
  codeGuidelines := []
  codeDocumentation := [⟨1, "documented", some 0, "a comment"⟩]

/-- A comment on the second line of a script is documentation for the code below it. -/
theorem reported_below_lineComment_second :
    let workspace : Workspace := ⟨⟨"", [(["s"], .file (.text "\n//x\na"))]⟩, 0⟩
    ∃ scanner, ofSettings letterDocumented = .ok scanner ∧
      ((scanner.checkScript "s" letterDocumented.rules).run ([], {}, workspace)).1 = .ok [] := by
  intro workspace
  have hscanner : ∃ scanner pattern p, ofSettings letterDocumented = .ok scanner ∧
      scanner.searchPattern? (.documentation ⟨1, "documented", some 0, "a comment"⟩) =
        some pattern ∧
      placesAfter none (pattern.findAll "\n//x\na") = [p] ∧
      p.preceding "\n//x\na" = some "\n//x\n" := ⟨_, _, _, rfl, rfl, rfl, rfl⟩
  obtain ⟨scanner, pattern, p, hscanner, hpattern, hplaces, hpreceding⟩ := hscanner
  have hopen : ∃ r' w', (Registry.openFile "s" .read).run ({}, workspace) =
      (.ok (.start ⟨1⟩ (.file ⟨"", ["s"]⟩) .read "\n//x\na"), (r', w')) := ⟨_, _, rfl⟩
  obtain ⟨r', w', hopen⟩ := hopen
  let c : LineComment := ⟨['\n'], [], ['x'], ['\n'], .inr ⟨[], rfl⟩, nofun, by decide, .inr rfl⟩
  obtain ⟨reported, hsublist, hrun, hreported⟩ := (reported_below_lineComment rfl hscanner).2
    [] {} r' workspace w' "s" _ _ pattern .new hopen hpattern
  have hnot : p ∉ reported := fun hmem =>
    (hreported p (by rw [Session.start, hplaces]; exact List.mem_singleton_self p) c hpreceding).1
      hmem (.inl (List.cons_ne_nil _ _))
  refine ⟨scanner, hscanner, hrun.trans ?_⟩
  rw [Session.start, hplaces] at hsublist
  rcases List.sublist_singleton.1 hsublist with rfl | rfl
  · rfl
  · exact absurd (List.mem_singleton_self p) hnot

/-- A comment on the first line is not. -/
theorem reported_below_lineComment_first :
    let workspace : Workspace := ⟨⟨"", [(["s"], .file (.text "//x\na"))]⟩, 0⟩
    ∃ (c : LineComment) (scanner : Scanner), ofSettings letterDocumented = .ok scanner ∧
      c.text = "//x\n" ∧ scanner.documentation.isMatch c.text = false ∧
      ((scanner.checkScript "s" letterDocumented.rules).run ([], {}, workspace)).1 =
        .ok [⟨.documentation, "s", 2, "documented", "a comment"⟩] := by
  intro workspace
  have hscanner : ∃ scanner, ofSettings letterDocumented = .ok scanner ∧
      scanner.documentation.isMatch "//x\n" = false ∧
      scanner.violationsIn "s" "//x\na" letterDocumented.rules =
        .ok [⟨.documentation, "s", 2, "documented", "a comment"⟩] := ⟨_, rfl, rfl, rfl⟩
  obtain ⟨scanner, hscanner, hmatch, hviolations⟩ := hscanner
  have hopen : ∃ r' w', (Registry.openFile "s" .read).run ({}, workspace) =
      (.ok (.start ⟨1⟩ (.file ⟨"", ["s"]⟩) .read "//x\na"), (r', w')) := ⟨_, _, rfl⟩
  obtain ⟨r', w', hopen⟩ := hopen
  obtain ⟨_, _, hrun, _⟩ :=
    run_checkScript "s" letterDocumented.rules (faithful_nil scanner) {} workspace
  refine ⟨⟨[], [], ['x'], ['\n'], .inl rfl, nofun, by decide, .inr rfl⟩, scanner, hscanner, rfl,
    hmatch, ?_⟩
  rw [hrun, hopen]
  exact hviolations

end Scanner

end ScriptKeeper.Scan
