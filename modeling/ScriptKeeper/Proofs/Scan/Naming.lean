import ScriptKeeper.Proofs.Pattern.Capture
import ScriptKeeper.Proofs.Scan.Documentation

/-!
# Names are judged by their first letter

The stock guidelines look for declarations and object to those whose name does not begin with a
letter of the case that they ask for. The pattern for a name is looked for anywhere in it, and asks
for a letter of this case behind a word boundary. Inside a name there is no such boundary, so only
its first letter counts (`isMatch_iff_beginsWith`).

* `IsIdentifier`: the names that the group `identifier` captures;
* `declares_stock`: no match of a stock pattern for declarations is without such a name;
* `guidelines_exact`: what the stock guidelines object to, in every script and for every name.
-/

namespace ScriptKeeper.Scan

open Inspection Pattern
open Text (ByteRange)
open Unicode (CharSet)

/-! ### Identifiers -/

/-- A letter or the underscore, and then any letters, digits and underscores, all of them ASCII. -/
def IsIdentifier (name : String) : Prop :=
  ∃ c rest, name.toList = c :: rest ∧ (c.isAlpha = true ∨ c = '_') ∧
    ∀ d ∈ rest, Unicode.isAsciiWord d = true

/-- The letters and the underscore. -/
def letterSet : CharSet := ⟨[(65, 90), (95, 95), (97, 122)]⟩

/-- The letters, the digits and the underscore. -/
def namePartSet : CharSet := ⟨[(48, 57), (65, 90), (95, 95), (97, 122)]⟩

/-- The capital letters. -/
def capitalSet : CharSet := ⟨[(65, 90)]⟩

/-- The small letters. -/
def smallSet : CharSet := ⟨[(97, 122)]⟩

theorem isUpper_iff {c : Char} : c.isUpper = true ↔ 65 ≤ c.toNat ∧ c.toNat ≤ 90 := by
  have hspan : c.isUpper = decide (c.val ≥ 65 ∧ c.val ≤ 90) := rfl
  simp [hspan, UInt32.le_iff_toNat_le, ← Char.toNat_val]

theorem isLower_iff {c : Char} : c.isLower = true ↔ 97 ≤ c.toNat ∧ c.toNat ≤ 122 := by
  have hspan : c.isLower = (decide (c.val ≥ 97) && decide (c.val ≤ 122)) := rfl
  simp [hspan, UInt32.le_iff_toNat_le, ← Char.toNat_val]

theorem isAlpha_iff {c : Char} : c.isAlpha = true ↔ c.isUpper = true ∨ c.isLower = true := by
  have hcases : c.isAlpha = (c.isUpper || c.isLower) := rfl
  rw [hcases, Bool.or_eq_true]

theorem eq_underscore_iff {c : Char} : c = '_' ↔ c.toNat = 95 := Char.toNat_inj.symm

theorem contains_capitalSet_iff {c : Char} : capitalSet.contains c = true ↔ c.isUpper = true := by
  rw [isUpper_iff]
  simp only [capitalSet, CharSet.contains, CharSet.hasPoint, CharSet.inRanges]
  grind

theorem contains_smallSet_iff {c : Char} : smallSet.contains c = true ↔ c.isLower = true := by
  rw [isLower_iff]
  simp only [smallSet, CharSet.contains, CharSet.hasPoint, CharSet.inRanges]
  grind

theorem contains_letterSet_iff {c : Char} :
    letterSet.contains c = true ↔ c.isAlpha = true ∨ c = '_' := by
  rw [isAlpha_iff, isUpper_iff, isLower_iff, eq_underscore_iff]
  simp only [letterSet, CharSet.contains, CharSet.hasPoint, CharSet.inRanges]
  grind

theorem contains_namePartSet_iff {c : Char} :
    namePartSet.contains c = true ↔ Unicode.isAsciiWord c = true := by
  rw [Unicode.isAsciiWord, Bool.or_eq_true, Char.isAlphanum, Bool.or_eq_true, isAlpha_iff,
    isUpper_iff, isLower_iff, decide_eq_true_eq, eq_underscore_iff, Char.isDigit_iff_toNat]
  simp only [namePartSet, CharSet.contains, CharSet.hasPoint, CharSet.inRanges]
  grind

/-- An ASCII character of words is one of words. -/
theorem isWord_of_isAsciiWord {c : Char} (h : Unicode.isAsciiWord c = true) :
    Unicode.isWord c = true := by
  have hascii : c.toNat < 0x80 := by
    have hpart := contains_namePartSet_iff.2 h
    simp only [namePartSet, CharSet.contains, CharSet.hasPoint, CharSet.inRanges] at hpart
    grind
  rw [Unicode.isWord, if_pos hascii]
  exact h

theorem isIdentifier_iff_spells {name : String} :
    IsIdentifier name ↔ Spells letterSet namePartSet name.toList := by
  simp only [IsIdentifier, Spells, contains_letterSet_iff, contains_namePartSet_iff]

/-- A name consists of characters of words. -/
theorem IsIdentifier.isWord {name : String} (h : IsIdentifier name) :
    ∀ c ∈ name.toList, Unicode.isWord c = true := by
  obtain ⟨c, rest, hname, hc, hrest⟩ := h
  intro d hd
  rw [hname] at hd
  apply isWord_of_isAsciiWord
  rcases List.mem_cons.1 hd with rfl | hd
  · rw [Unicode.isAsciiWord, Char.isAlphanum, Bool.or_eq_true, Bool.or_eq_true, decide_eq_true_eq]
    exact hc.imp_left .inl
  · exact hrest d hd

/-! ### Patterns for names -/

/-- Whether the first character of a text has a property. -/
def beginsWith (property : Char → Bool) (s : String) : Bool := s.toList.head?.any property

theorem beginsWith_iff {property : Char → Bool} {s : String} :
    beginsWith property s = true ↔ ∃ c rest, s.toList = c :: rest ∧ property c = true := by
  rw [beginsWith, Option.any_eq_true]
  constructor
  · rintro ⟨c, hc, hproperty⟩
    obtain ⟨rest, hs⟩ := List.head?_eq_some_iff.1 hc
    exact ⟨c, rest, hs, hproperty⟩
  · rintro ⟨c, rest, hs, hproperty⟩
    exact ⟨c, by rw [hs]; rfl, hproperty⟩

/-- The program of a pattern for names that begin with a character of a set. -/
def nameProgram (first : CharSet) : Program :=
  #[.check (.wordBoundary false) 1, .consume first 2,
    -- Any other characters of the name.
    .fork 3 4, .consume namePartSet 2, .accept]

set_option maxRecDepth 2000 in
theorem compile_methodNamePattern : Pattern.compile {} none Stock.methodNamePattern =
    .ok ⟨Stock.methodNamePattern, nameProgram capitalSet, [none]⟩ := rfl

set_option maxRecDepth 2000 in
theorem compile_privateFieldNamePattern : Pattern.compile {} none Stock.privateFieldNamePattern =
    .ok ⟨Stock.privateFieldNamePattern, nameProgram smallSet, [none]⟩ := rfl

/-- In a text of characters of words, only its beginning is a word boundary before a character. -/
theorem wordBoundary_holds_iff {cs : List Char} {pos : Nat}
    (hword : ∀ c ∈ cs, Unicode.isWord c = true) (hpos : pos < cs.length) :
    Look.holds cs.toArray pos (.wordBoundary false) = true ↔ pos = 0 := by
  have hcharacter {i : Nat} (hi : i < cs.length) : cs[i]?.any Unicode.isWord = true := by
    rw [List.getElem?_eq_getElem hi, Option.any_some]
    exact hword _ (List.getElem_mem hi)
  rw [Look.holds]
  simp only [List.getElem?_toArray, Bool.false_eq_true, if_false, hcharacter hpos]
  rcases Nat.eq_zero_or_pos pos with rfl | hbehind
  · simp
  · -- The character before is one of a word too.
    rw [if_neg (Nat.ne_of_gt hbehind), hcharacter (by omega)]
    simp [Nat.ne_of_gt hbehind]

theorem succeeds_behindFirst (first : CharSet) (cs : List Char) (pos : Nat)
    (marks : List (Nat × Nat)) : Succeeds (nameProgram first) cs.toArray ⟨2, pos, marks⟩ :=
  (succeeds_fork_iff rfl).2 (.inr (succeeds_accept rfl))

/-- A pattern for names matches in a name if and only if it matches at its beginning. -/
theorem isMatch_iff_beginsWith {p : Pattern} {first : CharSet} {property : Char → Bool}
    (hp : p.program = nameProgram first)
    (hfirst : ∀ {c : Char}, first.contains c = true ↔ property c = true) {s : String}
    (hword : ∀ c ∈ s.toList, Unicode.isWord c = true) :
    p.isMatch s = beginsWith property s := by
  rw [Bool.eq_iff_iff, beginsWith_iff, isMatch_iff, hp]
  constructor
  · rintro ⟨start, _, hsucceeds⟩
    obtain ⟨hboundary, hsucceeds⟩ := (succeeds_check_iff rfl).1 hsucceeds
    obtain ⟨c, rest, hdrop, hc, _⟩ := (succeeds_consume_iff rfl).1 hsucceeds
    have hlt : start < s.toList.length :=
      (List.getElem?_eq_some_iff.1 (drop_eq_cons_iff.1 hdrop).1).1
    rw [wordBoundary_holds_iff hword hlt] at hboundary
    rw [hboundary, List.drop_zero] at hdrop
    exact ⟨c, rest, hdrop, hfirst.1 hc⟩
  · rintro ⟨c, rest, hs, hc⟩
    refine ⟨0, Nat.zero_le _, (succeeds_check_iff rfl).2 ⟨?_, (succeeds_consume_iff rfl).2 ?_⟩⟩
    · exact (wordBoundary_holds_iff hword (by simp [hs])).2 rfl
    · exact ⟨c, rest, by rw [List.drop_zero, hs], hfirst.2 hc, succeeds_behindFirst _ _ _ _⟩

/-! ### Patterns for declarations -/

/-- The pattern captures a name in the group `identifier`, round which no match can go. -/
def Declares (p : Pattern) : Prop :=
  let index := p.groupNames.idxOf (some "identifier")
  0 < index ∧ index < p.groupNames.length ∧ Passes letterSet namePartSet index
    (p.program.toList.findIdx (Instr.marks (2 * index))) p.program

instance (p : Pattern) : Decidable (Declares p) := inferInstanceAs (Decidable (_ ∧ _ ∧ _))

/-- The expression of a pattern that is given by its characters. -/
def expression? (flags : Flags) (cs : List Char) : Option Expr := do
  let ((expr, depth), cursor) ← readBranches (cs.length + 1) flags [] [] { rest := cs }
  if cursor.rest.isEmpty && depth ≤ maxDepth then some expr else none

/-- Whether an expression can be compiled to a pattern for declarations. -/
def Expr.declares (expr : Expr) : Bool :=
  expr.compiledSize ≤ defaultSizeLimit && decide (Declares ⟨"", expr.program, expr.groupNames⟩)

theorem declares_of_expression? {source : String}
    (h : (expression? {} source.toList).any Expr.declares = true) :
    ∃ p, Pattern.compile {} none source = .ok p ∧ Declares p := by
  obtain ⟨expr, hexpr, hdeclares⟩ := (Option.any_eq_true _ _).1 h
  have hread : read? {} source = some expr := hexpr
  rw [Expr.declares, Bool.and_eq_true, decide_eq_true_eq] at hdeclares
  refine ⟨⟨source, expr.program, expr.groupNames⟩, ?_, of_decide_eq_true hdeclares.2⟩
  rw [Pattern.compile, hread]
  exact if_neg (Nat.not_lt.2 hdeclares.1)

/-- The stock patterns for declarations. -/
def declarationPatterns : List String :=
  [Stock.methodPattern, Stock.classPattern, Stock.fieldPattern, Stock.privateFieldPattern]

set_option maxRecDepth 2000 in
/-- The stock patterns for declarations capture the name that is declared. -/
theorem declares_stock :
    ∀ source ∈ declarationPatterns, ∃ p, Pattern.compile {} none source = .ok p ∧ Declares p := by
  have hall : ∀ cs ∈ declarationPatterns.map String.toList,
      (expression? {} cs).any Expr.declares = true := by
    delta declarationPatterns Stock.methodPattern Stock.classPattern Stock.fieldPattern
      Stock.privateFieldPattern Stock.accessPattern Stock.modifierPattern Stock.typePattern
      Stock.identifierPattern Stock.genericPattern Stock.parametersPattern
    -- The parts are taken to characters one by one, which is fast.
    simp only [List.map_cons, List.map_nil, String.toList_append, String.reduceToList]
    decide +kernel
  intro source hsource
  exact declares_of_expression? (hall _ (List.mem_map_of_mem hsource))

/-- What is found under the first of the names is what belongs to it. -/
theorem findSome?_zip_idxOf {names : List (Option String)} {ranges : List (Option ByteRange)}
    {name : Option String} {r : ByteRange} (hr : ranges[names.idxOf name]? = some (some r))
    (hname : names.idxOf name < names.length) :
    (names.zip ranges).findSome? (fun (n, range) => if n = name then range else none) =
      some r := by
  induction names generalizing ranges with
  | nil => exact absurd hname (Nat.not_lt_zero _)
  | cons n names ih =>
    obtain _ | ⟨range, ranges⟩ := ranges
    · cases hr
    · rw [List.zip_cons_cons, List.findSome?_cons]
      dsimp only
      by_cases hn : n = name
      · rw [hn, List.idxOf_cons_self] at hr
        rw [List.getElem?_cons_zero, Option.some.injEq] at hr
        rw [if_pos hn, hr]
      · rw [List.idxOf_cons_ne _ hn] at hr hname
        rw [if_neg hn]
        exact ih hr (Nat.lt_of_succ_lt_succ hname)

theorem current_mem_of_mem_placesAfter {p : Place} {previous : Option Pattern.Match}
    {ms : List Pattern.Match} (h : p ∈ placesAfter previous ms) : p.current ∈ ms := by
  induction ms generalizing previous with
  | nil => cases h
  | cons m ms ih =>
    rcases List.mem_cons.1 h with rfl | h
    · exact List.mem_cons_self
    · exact List.mem_cons_of_mem m (ih h)

/-- Wherever a declaration is found, the group `identifier` has a name. -/
theorem Declares.isIdentifier {pattern : Pattern} (h : Declares pattern) {document : String}
    {p : Place} (hp : p ∈ placesAfter none (pattern.findAll document)) :
    IsIdentifier (p.group pattern document "identifier") := by
  obtain ⟨hpos, hindex, hpasses⟩ := h
  obtain ⟨r, hr, hspells⟩ :=
    exists_group_of_mem_findAll hpasses hpos hindex (current_mem_of_mem_placesAfter hp)
  rw [Place.group, findSome?_zip_idxOf hr hindex]
  exact isIdentifier_iff_spells.2 hspells

/-! ### Guidelines -/

/-- The stock patterns for names, with what they ask of the first character. -/
def namePatterns : List (String × (Char → Bool)) :=
  [(Stock.methodNamePattern, Char.isUpper), (Stock.privateFieldNamePattern, Char.isLower)]

/-- A stock pattern for names asks only for the first character of a name, and there has to be
    one. -/
theorem exists_namePattern {source : String} {required : Char → Bool}
    (h : (source, required) ∈ namePatterns) :
    ∃ p, Pattern.compile {} none source = .ok p ∧
      ∀ s : String, (∀ c ∈ s.toList, Unicode.isWord c = true) →
        p.isMatch s = beginsWith required s := by
  rcases List.mem_cons.1 h with heq | h
  · cases heq
    exact ⟨_, compile_methodNamePattern,
      fun s => isMatch_iff_beginsWith rfl contains_capitalSet_iff⟩
  · cases List.mem_singleton.1 h
    exact ⟨_, compile_privateFieldNamePattern,
      fun s => isMatch_iff_beginsWith rfl contains_smallSet_iff⟩

/-- The stock guidelines, with what they ask of the first character of a name. -/
def namingGuidelines : List (CodeGuideline × (Char → Bool)) :=
  Stock.codeGuidelines.zip [Char.isUpper, Char.isLower]

/-- A stock guideline looks for declarations, and checks the name of each. -/
structure ChecksNames (rule : CodeGuideline) (required : Char → Bool) (search check : Nat)
    (declaration name : String) : Prop where
  searchIndex : rule.searchRegexIndex = some search
  searched : (Stock.patterns[search]?).map NamedPattern.regex = some declaration
  declares : declaration ∈ declarationPatterns
  group : rule.groupName = "identifier"
  matchIndex : rule.matchRegexIndex = some check
  checked : (Stock.patterns[check]?).map NamedPattern.regex = some name
  name : (name, required) ∈ namePatterns

theorem checksNames_of_mem {rule : CodeGuideline} {required : Char → Bool}
    (h : (rule, required) ∈ namingGuidelines) :
    ∃ search check declaration name, ChecksNames rule required search check declaration name := by
  rcases List.mem_cons.1 h with heq | h
  · cases heq
    exact ⟨1, 5, _, _, rfl, rfl, List.mem_cons_self, rfl, rfl, rfl, List.mem_cons_self⟩
  · cases List.mem_singleton.1 h
    exact ⟨4, 6, _, _, rfl, rfl, by simp [declarationPatterns], rfl, rfl, rfl,
      List.mem_cons_of_mem _ (List.mem_singleton_self _)⟩

namespace Scanner

variable {settings : Settings} {scanner : Scanner} {more : List NamedPattern} {index : Nat}
  {source : String} {p : Pattern}

/-- The stock patterns keep their indices in front of others. -/
theorem regex?_of_stock (h : settings.regexes = Stock.patterns ++ more)
    (hsource : (Stock.patterns[index]?).map NamedPattern.regex = some source) :
    settings.regex? index = some source := by
  obtain ⟨named, hnamed, hregex⟩ := Option.map_eq_some_iff.1 hsource
  rw [Settings.regex?, h, List.getElem?_append_left (List.getElem?_eq_some_iff.1 hnamed).1, hnamed,
    Option.map_some, hregex]

theorem checkPattern_of_regex? (h : scanner.settings.regex? index = some source)
    (hp : Pattern.compile {} none source = .ok p) : scanner.checkPattern index = .ok p := by
  obtain ⟨named, hnamed, rfl⟩ := Option.map_eq_some_iff.1 h
  rw [checkPattern, hnamed, Option.getD_some, hp]

theorem settings_of_ofSettings (h : ofSettings settings = .ok scanner) :
    scanner.settings = settings := by
  rw [ofSettings] at h
  split at h
  · cases h
    rfl
  · cases h

theorem searchPattern?_guideline {rule : CodeGuideline}
    (hindex : rule.searchRegexIndex = some index)
    (h : scanner.settings.regex? index = some source) :
    scanner.searchPattern? (.guideline rule) = (Pattern.compile {} none source).toOption := by
  rw [searchPattern?, Rule.searchIndex, hindex, Option.bind_some, h, Option.bind_some]

/-- A guideline objects to the places at which its group does not match. -/
theorem violationsIn_guideline {rule : CodeGuideline} {check : Pattern}
    (hp : scanner.searchPattern? (.guideline rule) = some p)
    (hindex : rule.matchRegexIndex = some index) (hcheck : scanner.checkPattern index = .ok check)
    (path document : String) : scanner.violationsIn path document [.guideline rule] =
      .ok (((placesAfter none (p.findAll document)).filter fun place =>
        !check.isMatch (place.group p document rule.groupName)).map
          (Place.violation path document (.guideline rule))) := by
  rw [violationsIn_cons, violationsOf, hp]
  dsimp only
  rw [objects, hindex]
  dsimp only
  rw [hcheck]
  show Except.ok (_ ++ []) = _
  rw [List.append_nil]

/-- With the stock patterns in front, whatever a stock guideline looks for has a name, and it objects
    to the names that do not begin as it asks for. -/
theorem violationsIn_naming (hregexes : scanner.settings.regexes = Stock.patterns ++ more)
    {rule : CodeGuideline} {required : Char → Bool} (hrule : (rule, required) ∈ namingGuidelines)
    (id : RuleId) : ∃ p, scanner.searchPattern? (.guideline { rule with id }) = some p ∧
      ∀ path document : String,
        (∀ place ∈ placesAfter none (p.findAll document),
          IsIdentifier (place.group p document "identifier")) ∧
        scanner.violationsIn path document [.guideline { rule with id }] =
          .ok (((placesAfter none (p.findAll document)).filter fun place =>
            !beginsWith required (place.group p document "identifier")).map
              (Place.violation path document (.guideline { rule with id }))) := by
  obtain ⟨search, check, declaration, name, h⟩ := checksNames_of_mem hrule
  obtain ⟨p, hp, hdeclares⟩ := declares_stock declaration h.declares
  obtain ⟨q, hq, hmatch⟩ := exists_namePattern h.name
  have hpattern : scanner.searchPattern? (.guideline { rule with id }) = some p := by
    have hindex : CodeGuideline.searchRegexIndex { rule with id } = some search := h.searchIndex
    rw [searchPattern?_guideline hindex (regex?_of_stock hregexes h.searched), hp]
    rfl
  have hcheck : scanner.checkPattern check = .ok q :=
    checkPattern_of_regex? (regex?_of_stock hregexes h.checked) hq
  refine ⟨p, hpattern, fun path document => ⟨fun place => hdeclares.isIdentifier, ?_⟩⟩
  rw [violationsIn_guideline hpattern h.matchIndex hcheck]
  -- Every name that is found is one for which the pattern looks at the first letter only.
  have hsame : (placesAfter none (p.findAll document)).filter (fun place =>
      !q.isMatch (place.group p document rule.groupName)) =
      (placesAfter none (p.findAll document)).filter fun place =>
        !beginsWith required (place.group p document "identifier") := by
    refine List.filter_congr fun place hplace => ?_
    rw [h.group, hmatch _ (hdeclares.isIdentifier hplace).isWord]
  rw [hsame]

/-- The stock patterns for names look only at the first letter of a name, and the stock guidelines
    object exactly to the declarations whose name does not begin with a letter of the case that they
    ask for. -/
theorem guidelines_exact :
    (∃ method field : Pattern, Pattern.compile {} none Stock.methodNamePattern = .ok method ∧
      Pattern.compile {} none Stock.privateFieldNamePattern = .ok field ∧
      method.isMatch "" = false ∧ field.isMatch "" = false ∧
      ∀ name, IsIdentifier name → method.isMatch name = beginsWith Char.isUpper name ∧
        field.isMatch name = beginsWith Char.isLower name) ∧
    ∀ (settings : Settings) (more : List NamedPattern) (scanner : Scanner) (compiled : Compiled)
      (r r' : Registry) (w w' : Workspace) (path : String) (session : Session)
      (rule : CodeGuideline) (required : Char → Bool) (id : RuleId),
      settings.regexes = Stock.patterns ++ more → ofSettings settings = .ok scanner →
      Scanned scanner compiled →
      (Registry.openFile path .read).run (r, w) = (.ok session, (r', w')) →
      (rule, required) ∈ namingGuidelines →
      ∃ p, scanner.searchPattern? (.guideline { rule with id }) = some p ∧
        (∀ place ∈ placesAfter none (p.findAll session.document),
          IsIdentifier (place.group p session.document "identifier")) ∧
        ((scanner.checkScript path [.guideline { rule with id }]).run (compiled, r, w)).1 =
          .ok (((placesAfter none (p.findAll session.document)).filter fun place =>
            !beginsWith required (place.group p session.document "identifier")).map
              (Place.violation path session.document (.guideline { rule with id }))) := by
  refine ⟨?_, ?_⟩
  · obtain ⟨method, hmethod, hmethodMatch⟩ := exists_namePattern List.mem_cons_self
    obtain ⟨field, hfield, hfieldMatch⟩ :=
      exists_namePattern (List.mem_cons_of_mem _ (List.mem_singleton_self _))
    refine ⟨method, field, hmethod, hfield, hmethodMatch "" nofun, hfieldMatch "" nofun, ?_⟩
    intro name hname
    exact ⟨hmethodMatch name hname.isWord, hfieldMatch name hname.isWord⟩
  · intro settings more scanner compiled r r' w w' path session rule required id hregexes hscanner
      hcompiled hopen hrule
    have hstock : scanner.settings.regexes = Stock.patterns ++ more := by
      rw [settings_of_ofSettings hscanner, hregexes]
    obtain ⟨p, hpattern, hplaces⟩ := violationsIn_naming hstock hrule id
    obtain ⟨hnames, hviolations⟩ := hplaces path session.document
    obtain ⟨_, _, hrun, _⟩ :=
      run_checkScript path [.guideline { rule with id }] hcompiled.faithful r w
    refine ⟨p, hpattern, hnames, ?_⟩
    rw [hrun, hopen]
    exact hviolations

set_option maxRecDepth 2000 in
/-- A private field whose name begins with an underscore is reported, though a small letter
    follows. -/
theorem guidelines_exact_underscore :
    let workspace : Workspace := ⟨⟨"", [(["s"], .file (.text "private int _x;"))]⟩, 0⟩
    ∃ (scanner : Scanner) (rule : CodeGuideline), ofSettings Settings.stock = .ok scanner ∧
      rule ∈ Settings.stock.codeGuidelines ∧
      ((scanner.checkScript "s" [.guideline rule]).run ([], {}, workspace)).1 =
        .ok [⟨.guideline, "s", 1, "Private field name",
          "private fields have to start with a lowercase letter"⟩] := by
  intro workspace
  have hscanner : ∃ scanner, ofSettings Settings.stock = .ok scanner :=
    ⟨_, by rw [ofSettings, show Settings.stock.documentationRegex = Stock.documentationPattern from
      rfl, compile_documentationPattern]⟩
  obtain ⟨scanner, hscanner⟩ := hscanner
  have hopen : ∃ r' w', (Registry.openFile "s" .read).run ({}, workspace) =
      (.ok (.start ⟨1⟩ (.file ⟨"", ["s"]⟩) .read "private int _x;"), (r', w')) :=
    ⟨_, _, rfl⟩
  obtain ⟨r', w', hopen⟩ := hopen
  have hrule : (Stock.codeGuidelines[1], Char.isLower) ∈ namingGuidelines :=
    List.mem_cons_of_mem _ (List.mem_singleton_self _)
  obtain ⟨p, hp, _, hrun⟩ := guidelines_exact.2 Settings.stock [] scanner [] {} r' workspace w'
    "s" _ _ _ 3 rfl hscanner .new hopen hrule
  refine ⟨scanner, _, hscanner, List.mem_cons_of_mem _ (List.mem_singleton_self _), hrun.trans ?_⟩
  -- The pattern is known, so the places can be read off the document now.
  have hcompile : (Pattern.compile {} none Stock.privateFieldPattern).toOption = some p := by
    rw [← hp]
    refine (searchPattern?_guideline rfl ?_).symm
    rw [settings_of_ofSettings hscanner]
    exact regex?_of_stock (List.append_nil _).symm rfl
  have hplaces : (Pattern.compile {} none Stock.privateFieldPattern).toOption.all (fun p =>
      ((placesAfter none (p.findAll "private int _x;")).filter fun place =>
        !beginsWith Char.isLower (place.group p "private int _x;" "identifier")).map
          (Place.violation "s" "private int _x;"
            (.guideline { Stock.codeGuidelines[1] with id := 3 })) =
        [⟨.guideline, "s", 1, "Private field name",
          "private fields have to start with a lowercase letter"⟩]) = true := by
    decide +kernel
  rw [hcompile, Option.all_some] at hplaces
  exact congrArg Except.ok (of_decide_eq_true hplaces)

end Scanner

end ScriptKeeper.Scan
