import ScriptKeeper.Proofs.Inspection.Query
import ScriptKeeper.Proofs.Scan.Hit
import ScriptKeeper.Scan.Scanner

/-!
# Reading a document against rules

What rules object to can be read off a document and the matches in it, without sessions, segments
and handles, and with nothing kept from one rule to the next (`Scanner.violationsIn`). A match
begins on the line behind the newlines before it; the text right before it is what lies between it
and the match before, or that match if nothing does.

* `hitsBehind_segmentsFrom`: the hits in a decomposed document are those places;
* `judge_places`: a scanner objects to the same places, whatever it has compiled before.
-/

namespace ScriptKeeper.Scan

open Inspection Text

/-! ### Places -/

/-- A match of a document, together with the match before it. -/
structure Place where
  previous : Option Pattern.Match
  current : Pattern.Match

/-- Every match together with the one before it, of which the first has none but `previous`. -/
def placesAfter (previous : Option Pattern.Match) : List Pattern.Match → List Place
  | [] => []
  | m :: rest => ⟨previous, m⟩ :: placesAfter (some m) rest

namespace Place

/-- The line on which the match begins: the first one, or one more for every newline before. -/
def line (document : String) (p : Place) : Nat :=
  1 + (covered document ⟨0, p.current.range.start⟩).toList.count '\n'

/-- The text right before the match: what lies between it and the match before it, and if nothing
    does, that match. -/
def preceding (document : String) (p : Place) : Option String :=
  let stop := (p.previous.map fun m => m.range.stop).getD 0
  if stop < p.current.range.start then some (covered document ⟨stop, p.current.range.start⟩)
  else p.previous.map fun m => covered document m.range

/-- The text of the group of the given name, which is empty if the group took no part. -/
def group (pattern : Pattern) (document : String) (p : Place) (name : String) : String :=
  (((pattern.groupNames.zip p.current.groups).findSome? fun (n, range) =>
    if n = some name then range else none).map (covered document)).getD ""

/-- The hit at the place. -/
def hit (pattern : Pattern) (document : String) (p : Place) : Hit where
  line := p.line document
  named := (Captures.ofMatch pattern document p.current).namedGroups
  preceding := p.preceding document

end Place

/-! ### Places in a decomposed document -/

theorem hitsBehind_literalSegments (before : List Segment) (document : String) (start stop : Nat) :
    hitsBehind before (literalSegments document start stop) = [] := by
  rw [literalSegments]
  split <;> rfl

/-- The segments before a position make up the text up to there, and if there are any, the last one
    is the match that ends there. -/
structure UpTo (document : String) (before : List Segment) (previous : Option Pattern.Match)
    (cursor : Nat) : Prop where
  boundary : isBoundary document cursor = true
  stop : (previous.map fun m => m.range.stop).getD 0 = cursor
  text : String.join (before.map Segment.text) = covered document ⟨0, cursor⟩
  last : before.getLast?.map Segment.text = previous.map fun m => covered document m.range

theorem upTo_zero (document : String) : UpTo document [] none 0 where
  boundary := isBoundary_zero document
  stop := rfl
  text := (covered_self (isBoundary_zero document)).symm
  last := rfl

variable {pattern : Pattern} {document : String} {before : List Segment}
  {previous : Option Pattern.Match} {cursor : Nat} {m : Pattern.Match}

/-- The text up to a match is that of the segments before it. -/
theorem UpTo.join_literalSegments (h : UpTo document before previous cursor)
    (hle : cursor ≤ m.range.start) (hfits : m.range.fits document = true) :
    String.join ((before ++ literalSegments document cursor m.range.start).map Segment.text) =
      covered document ⟨0, m.range.start⟩ := by
  obtain ⟨_, hstart, _⟩ := boundaries_of_fits hfits
  rw [List.map_append, String.join_append, h.text, Inspection.join_literalSegments hstart hle]
  exact covered_append (fits_mk (isBoundary_zero document) h.boundary (Nat.zero_le _))
    (fits_mk h.boundary hstart hle)

/-- A match is seen from the segments before it as it is seen in the document. -/
theorem UpTo.hitBehind_eq (h : UpTo document before previous cursor)
    (hle : cursor ≤ m.range.start) (hfits : m.range.fits document = true) :
    hitBehind (before ++ literalSegments document cursor m.range.start)
      (matchedSegment document (Captures.ofMatch pattern document m)) =
      (Place.mk previous m).hit pattern document := by
  have hpreceding : (before ++ literalSegments document cursor m.range.start).getLast?.map
      Segment.text = (Place.mk previous m).preceding document := by
    rw [Place.preceding, literalSegments]
    dsimp only
    rw [h.stop]
    split
    · rw [List.getLast?_concat]
      rfl
    · rw [List.append_nil, h.last]
  rw [hitBehind, h.join_literalSegments hle hfits, hpreceding]
  rfl

/-- Behind the match, it is the last segment. -/
theorem UpTo.next (h : UpTo document before previous cursor) (pattern : Pattern)
    (hle : cursor ≤ m.range.start) (hfits : m.range.fits document = true) :
    UpTo document ((before ++ literalSegments document cursor m.range.start) ++
      [matchedSegment document (Captures.ofMatch pattern document m)]) (some m) m.range.stop := by
  obtain ⟨_, hstart, hstop⟩ := boundaries_of_fits hfits
  refine ⟨hstop, rfl, ?_, by rw [List.getLast?_concat]; rfl⟩
  rw [List.map_append, String.join_append, h.join_literalSegments hle hfits, List.map_singleton,
    String.join_cons, String.join_nil, String.append_empty]
  exact covered_append (fits_mk (isBoundary_zero document) hstart (Nat.zero_le _)) hfits

/-- The hits in a document that is cut around matches are those of the matches in their places. -/
theorem hitsBehind_segmentsFrom (pattern : Pattern) {ms : List Pattern.Match}
    (h : UpTo document before previous cursor)
    (hm : InOrder document cursor (ms.map Pattern.Match.range)) :
    hitsBehind before (segmentsFrom document cursor (ms.map (Captures.ofMatch pattern document))) =
      (placesAfter previous ms).map (Place.hit pattern document) := by
  -- The segments before a match grow by the text up to it, if there is any, and the match.
  induction ms generalizing before previous cursor with
  | nil => exact hitsBehind_literalSegments _ _ _ _
  | cons m ms ih =>
    obtain ⟨hle, hfits, hrest⟩ := hm
    have hhits := ih (h.next pattern hle hfits) hrest
    have hmatch : (matchedSegment document (Captures.ofMatch pattern document m)).isMatch = true :=
      rfl
    rw [List.map_cons, segmentsFrom, hitsBehind_append, hitsBehind_literalSegments,
      List.nil_append, hitsBehind, if_pos hmatch, placesAfter, List.map_cons]
    exact congrArg₂ List.cons (h.hitBehind_eq hle hfits) hhits

/-! ### Groups -/

theorem find?_groups (document name : String) (groups : List (Option String × Option ByteRange)) :
    (((groups.map fun (name, range) => range.map fun r : ByteRange =>
        ({ name, text := (r.slice? document).getD "", range := r } : CapturedGroup)).filterMap
      fun g => g.bind fun g => g.name.map (·, g.text)).find? fun g => g.1 == name).map Prod.snd =
    (groups.findSome? fun (n, range) => if n = some name then range else none).map
      (covered document) := by
  induction groups with
  | nil => rfl
  | cons g groups ih =>
    obtain ⟨n, range⟩ := g
    cases range with
    | none => simpa using ih
    | some r =>
      cases n with
      | none => simpa using ih
      | some n =>
        by_cases hn : n = name
        · simp [hn, covered]
        · simpa [hn] using ih

/-- A named group of a hit is that of the match. -/
theorem group_hit (p : Place) (name : String) :
    (p.hit pattern document).group name = p.group pattern document name := by
  rw [Hit.group, Place.hit, Captures.namedGroups_eq]
  exact congrArg (Option.getD · "") (find?_groups document name _)

/-! ### Rules -/

/-- The kind of a rule. -/
def kindOf : Rule → ViolationKind
  | .unwantedCode _ => .unwantedCode
  | .documentation _ => .documentation
  | .guideline _ => .guideline

/-- The violation of a rule at a place. -/
def Place.violation (path document : String) (rule : Rule) (p : Place) : Violation where
  kind := kindOf rule
  source := path
  line := p.line document
  rule := rule.name
  description := rule.description

namespace Scanner

/-- The places to which a rule objects, of those at which its pattern matches. -/
def objects (scanner : Scanner) (pattern : Pattern) (document : String) (places : List Place) :
    Rule → Except ScanError (List Place)
  | .unwantedCode _ => return places
  | .documentation _ =>
    return places.filter fun p => !(p.preceding document).any scanner.documentation.isMatch
  | .guideline r =>
    match r.matchRegexIndex with
    | none => return []
    | some index => do
      let check ← scanner.checkPattern index
      return places.filter fun p => !check.isMatch (p.group pattern document r.groupName)

/-- The pattern that a rule looks for, if the settings have one for it that can be compiled. -/
def searchPattern? (scanner : Scanner) (rule : Rule) : Option Pattern :=
  (rule.searchIndex.bind scanner.settings.regex?).bind fun source =>
    (Pattern.compile {} none source).toOption

/-- The violations of one rule in a document. -/
def violationsOf (scanner : Scanner) (path document : String) (rule : Rule) :
    Except ScanError (List Violation) :=
  match scanner.searchPattern? rule with
  | none => return []
  | some pattern => do
    let places := placesAfter none (pattern.findAll document)
    return (← scanner.objects pattern document places rule).map (Place.violation path document rule)

/-- The violations of rules in a document, in the order of the rules. -/
def violationsIn (scanner : Scanner) (path document : String) (rules : List Rule) :
    Except ScanError (List Violation) :=
  return (← rules.mapM (scanner.violationsOf path document)).flatten

/-- What is found under an index is in the table. -/
theorem mem_of_find?_index {α : Type} {table : List (Nat × α)} {index : Nat} {x : Nat × α}
    (h : table.find? (fun x => x.1 == index) = some x) : (index, x.2) ∈ table := by
  have hindex : x.1 = index := by simpa using List.find?_some h
  rw [← hindex]
  exact List.mem_of_find?_eq_some h

/-- The patterns that have been compiled are those of their indices. -/
def Faithful (scanner : Scanner) (compiled : Compiled) : Prop :=
  ∀ x ∈ compiled, scanner.checkPattern x.1 = .ok x.2

theorem faithful_nil (scanner : Scanner) : scanner.Faithful [] := fun _ h => by cases h

variable {scanner : Scanner} {compiled : Compiled}

/-- A pattern that has been kept is the one that would be compiled. -/
theorem compiledPattern_eq (h : scanner.Faithful compiled) (index : Nat) :
    ∃ compiled', scanner.Faithful compiled' ∧ scanner.compiledPattern compiled index =
      (do return (← scanner.checkPattern index, compiled')) := by
  rw [compiledPattern]
  cases hfind : compiled.find? fun x => x.1 == index with
  | some x =>
    have hsame : scanner.checkPattern index = .ok x.2 :=
      h (index, x.2) (mem_of_find?_index hfind)
    exact ⟨compiled, h, by rw [hsame]; rfl⟩
  | none =>
    cases hcheck : scanner.checkPattern index with
    | error e => exact ⟨compiled, h, rfl⟩
    | ok pattern => exact ⟨(index, pattern) :: compiled, List.forall_mem_cons.2 ⟨hcheck, h⟩, rfl⟩

/-- A scanner objects to the places to which the rule objects, and keeps what it has compiled. -/
theorem judge_places (pattern : Pattern) (document : String) (h : scanner.Faithful compiled)
    (path : String) (places : List Place) (rule : Rule) :
    ∃ compiled', scanner.Faithful compiled' ∧
      scanner.judge path (places.map (Place.hit pattern document)) compiled rule = (do
        let objected ← scanner.objects pattern document places rule
        return (objected.map (Place.violation path document rule), compiled')) := by
  cases rule with
  | unwantedCode r =>
    refine ⟨compiled, h, ?_⟩
    rw [judge, List.map_map]
    rfl
  | documentation r =>
    refine ⟨compiled, h, ?_⟩
    rw [judge, List.filter_map, List.map_map]
    rfl
  | guideline r =>
    -- Only here a pattern is compiled.
    rw [judge, objects]
    cases r.matchRegexIndex with
    | none => exact ⟨compiled, h, rfl⟩
    | some index =>
      obtain ⟨compiled', h', heq⟩ := compiledPattern_eq h index
      refine ⟨compiled', h', ?_⟩
      dsimp only
      rw [heq]
      cases scanner.checkPattern index with
      | error e => rfl
      | ok check =>
        have hgroup : ((fun hit : Hit => !check.isMatch (hit.group r.groupName)) ∘
            Place.hit pattern document) =
            fun p => !check.isMatch (p.group pattern document r.groupName) := by
          funext p
          rw [Function.comp_apply, group_hit]
        simp only [ok_bind, pure, Except.pure, List.filter_map, List.map_map, hgroup]
        rfl

end Scanner

end ScriptKeeper.Scan
