import ScriptKeeper.Proofs.Settings.Record
import ScriptKeeper.Proofs.Settings.RuleIds

/-!
# Settings that are written in part

A document need not hold all of the settings. At the top level any fields may be missing, in which
case the stock ones hold (`Settings.WrittenOn`); what there is may be written in part itself. But no
member may come twice.

* `ofJson?_of_writtenOn`: the settings that are written in part;
* `ofJson?_repeated`, `ofJson?_repeated_inside`: members that come twice;
* `parse?_partial`: both of a text.
-/

namespace ScriptKeeper

open RecordField Json

variable {names : List String} {members : List (String × Json)} {name : String}
  {m : String × Json} {j v : Json} {field : RecordField}

namespace Settings

variable {s : Settings} {F : List String}

/-! ### Numbers in range -/

/-- The indices of patterns in all rules. -/
def indices (s : Settings) : List Nat :=
  s.unwantedCode.filterMap UnwantedCode.regexIndex ++
    (s.codeGuidelines.filterMap CodeGuideline.searchRegexIndex ++
      s.codeGuidelines.filterMap CodeGuideline.matchRegexIndex) ++
    s.codeDocumentation.filterMap CodeDocumentation.regexIndex

/-- The numbers in the settings are numbers of rules and indices of patterns. -/
structure InRange (s : Settings) : Prop where
  folders : ∀ f ∈ s.scriptFolders, ∀ id ∈ f.rules, id ≤ maxRuleId
  ids : ∀ id ∈ s.ids, id ≤ maxRuleId
  indices : ∀ i ∈ s.indices, i ≤ maxIndex

theorem InRange.unwantedCode (h : s.InRange) {r : UnwantedCode} (hr : r ∈ s.unwantedCode) :
    r.id ≤ maxRuleId ∧ ∀ i ∈ r.regexIndex, i ≤ maxIndex := by
  refine ⟨h.ids _ ?_, fun i hi => h.indices i ?_⟩
  · rw [ids_eq]
    exact List.mem_append_left _ (List.mem_append_left _ (List.mem_map_of_mem hr))
  · exact List.mem_append_left _ (List.mem_append_left _ (List.mem_filterMap.2 ⟨r, hr, hi⟩))

theorem InRange.codeGuidelines (h : s.InRange) {r : CodeGuideline} (hr : r ∈ s.codeGuidelines) :
    r.id ≤ maxRuleId ∧ (∀ i ∈ r.searchRegexIndex, i ≤ maxIndex) ∧
      ∀ i ∈ r.matchRegexIndex, i ≤ maxIndex := by
  have hindex {i : Nat} (hi : i ∈ s.codeGuidelines.filterMap CodeGuideline.searchRegexIndex ++
      s.codeGuidelines.filterMap CodeGuideline.matchRegexIndex) : i ≤ maxIndex :=
    h.indices i (List.mem_append_left _ (List.mem_append_right _ hi))
  refine ⟨h.ids _ ?_, fun i hi => hindex ?_, fun i hi => hindex ?_⟩
  · rw [ids_eq]
    exact List.mem_append_left _ (List.mem_append_right _ (List.mem_map_of_mem hr))
  · exact List.mem_append_left _ (List.mem_filterMap.2 ⟨r, hr, hi⟩)
  · exact List.mem_append_right _ (List.mem_filterMap.2 ⟨r, hr, hi⟩)

theorem InRange.codeDocumentation (h : s.InRange) {r : CodeDocumentation}
    (hr : r ∈ s.codeDocumentation) : r.id ≤ maxRuleId ∧ ∀ i ∈ r.regexIndex, i ≤ maxIndex := by
  refine ⟨h.ids _ ?_, fun i hi => h.indices i ?_⟩
  · rw [ids_eq]
    exact List.mem_append_right _ (List.mem_map_of_mem hr)
  · exact List.mem_append_right _ (List.mem_filterMap.2 ⟨r, hr, hi⟩)

/-! ### Fields -/

/-- The value says what the field of the name is. -/
structure Says (s : Settings) (name : String) (v : Json) : Prop where
  templateFolder : name = "template_folder" → v = .string s.templateFolder
  scriptFolders : name = "script_folders" → AbridgesAll ScriptFolder.toJson s.scriptFolders v
  placeholders : name = "placeholders" → AbridgesAll Placeholder.toJson s.placeholders v
  regexes : name = "regexes" → AbridgesAll NamedPattern.toJson s.regexes v
  documentationRegex : name = "documentation_regex" → v = .string s.documentationRegex
  unwantedCode : name = "unwanted_code" → AbridgesAll UnwantedCode.toJson s.unwantedCode v
  codeGuidelines : name = "code_guidelines" →
    AbridgesAll CodeGuideline.toJson s.codeGuidelines v
  codeDocumentation : name = "code_documentation" →
    AbridgesAll CodeDocumentation.toJson s.codeDocumentation v

/-- The document has members for the fields with the names in `F`, which say what the fields of the
    settings are, and for no others. -/
def WrittenOn (F : List String) (s : Settings) (j : Json) : Prop :=
  ∃ known members, j = .object members ∧ Among fieldNames known members ∧
    known.map Prod.fst = fieldNames.filter (· ∈ F) ∧ ∀ m ∈ known, s.Says m.1 m.2

/-- The settings with the stock values for the fields whose names are not in `F`. -/
def on (s : Settings) (F : List String) : Settings where
  templateFolder := if "template_folder" ∈ F then s.templateFolder else stock.templateFolder
  scriptFolders := if "script_folders" ∈ F then s.scriptFolders else stock.scriptFolders
  placeholders := if "placeholders" ∈ F then s.placeholders else stock.placeholders
  regexes := if "regexes" ∈ F then s.regexes else stock.regexes
  documentationRegex :=
    if "documentation_regex" ∈ F then s.documentationRegex else stock.documentationRegex
  unwantedCode := if "unwanted_code" ∈ F then s.unwantedCode else stock.unwantedCode
  codeGuidelines := if "code_guidelines" ∈ F then s.codeGuidelines else stock.codeGuidelines
  codeDocumentation :=
    if "code_documentation" ∈ F then s.codeDocumentation else stock.codeDocumentation

/-- What a document that is written in part has for the field of a name. -/
def Shows (s : Settings) (F : List String) (name : String) (field : RecordField) : Prop :=
  (name ∈ F ∧ ∃ v, field = .given v ∧ s.Says name v) ∨ (name ∉ F ∧ field = .absent)

theorem Shows.defaulting {α : Type} {read : Json → Option α} {x value : α}
    (h : s.Shows F name field) (hread : ∀ v, s.Says name v → read v = some x) :
    defaulting value read field = some (if name ∈ F then x else value) := by
  rcases h with ⟨hname, v, rfl, hsays⟩ | ⟨hname, rfl⟩
  · rw [if_pos hname]
    exact hread v hsays
  · rw [if_neg hname]
    rfl

theorem WrittenOn.fields (h : s.WrittenOn F j) :
    ∃ fields, all? fieldNames j = some fields ∧ List.Forall₂ (s.Shows F) fieldNames fields := by
  obtain ⟨known, members, rfl, hamong, hnames, hsays⟩ := h
  have hfieldNames : fieldNames.Nodup := by decide
  have hnodup : (known.map Prod.fst).Nodup := by
    rw [hnames]
    exact hfieldNames.filter _
  refine exists_mapM_eq_some fun name hname => ?_
  by_cases hF : name ∈ F
  · have hmem : name ∈ known.map Prod.fst := by
      rw [hnames]
      exact List.mem_filter.2 ⟨hname, by simpa using hF⟩
    obtain ⟨m, hm, rfl⟩ := List.mem_map.1 hmem
    exact ⟨_, ofMembers_of_mem hamong hnodup hm hname, .inl ⟨hF, m.2, rfl, hsays m hm⟩⟩
  · have hnot : name ∉ known.map Prod.fst := by
      rw [hnames]
      intro hmem
      exact hF (by simpa using (List.mem_filter.1 hmem).2)
    exact ⟨_, ofMembers_of_not_mem hamong hname hnot, .inr ⟨hF, rfl⟩⟩

/-- A document that is written in part is read as the settings with stock values elsewhere. -/
theorem ofJson?_of_writtenOn (h : s.InRange) (hj : s.WrittenOn F j) :
    ofJson? j = some (s.on F) := by
  obtain ⟨fields, hfields, hshows⟩ := hj.fields
  obtain _ | ⟨htemplates, _ | ⟨hfolders, _ | ⟨hplaceholders, _ | ⟨hregexes, _ | ⟨hdocumentation,
    _ | ⟨hunwanted, _ | ⟨hguidelines, _ | ⟨hdocumented, _ | _⟩⟩⟩⟩⟩⟩⟩⟩ := hshows
  have hunwantedRead (v : Json) (hv : s.Says "unwanted_code" v) :
      list? UnwantedCode.ofJson? v = some s.unwantedCode :=
    (hv.unwantedCode rfl).list? fun _ hr _ =>
      UnwantedCode.ofJson?_of_abridges (h.unwantedCode hr).1 (h.unwantedCode hr).2
  have hguidelinesRead (v : Json) (hv : s.Says "code_guidelines" v) :
      list? CodeGuideline.ofJson? v = some s.codeGuidelines :=
    (hv.codeGuidelines rfl).list? fun _ hr _ =>
      CodeGuideline.ofJson?_of_abridges (h.codeGuidelines hr).1 (h.codeGuidelines hr).2.1
        (h.codeGuidelines hr).2.2
  have hdocumentedRead (v : Json) (hv : s.Says "code_documentation" v) :
      list? CodeDocumentation.ofJson? v = some s.codeDocumentation :=
    (hv.codeDocumentation rfl).list? fun _ hr _ =>
      CodeDocumentation.ofJson?_of_abridges (h.codeDocumentation hr).1 (h.codeDocumentation hr).2
  have hfoldersRead (v : Json) (hv : s.Says "script_folders" v) :
      list? ScriptFolder.ofJson? v = some s.scriptFolders :=
    (hv.scriptFolders rfl).list? fun f hf _ => ScriptFolder.ofJson?_of_abridges (h.folders f hf)
  have hplaceholdersRead (v : Json) (hv : s.Says "placeholders" v) :
      list? Placeholder.ofJson? v = some s.placeholders :=
    (hv.placeholders rfl).list? fun _ _ _ => Placeholder.ofJson?_of_abridges
  have hregexesRead (v : Json) (hv : s.Says "regexes" v) :
      list? NamedPattern.ofJson? v = some s.regexes :=
    (hv.regexes rfl).list? fun _ _ _ => NamedPattern.ofJson?_of_abridges
  have htemplatesRead (v : Json) (hv : s.Says "template_folder" v) :
      text? v = some s.templateFolder := by rw [hv.templateFolder rfl, text?]
  have hdocumentationRead (v : Json) (hv : s.Says "documentation_regex" v) :
      text? v = some s.documentationRegex := by rw [hv.documentationRegex rfl, text?]
  rw [ofJson?, hfields]
  simp [htemplates.defaulting htemplatesRead, hfolders.defaulting hfoldersRead,
    hplaceholders.defaulting hplaceholdersRead, hregexes.defaulting hregexesRead,
    hdocumentation.defaulting hdocumentationRead, hunwanted.defaulting hunwantedRead,
    hguidelines.defaulting hguidelinesRead, hdocumented.defaulting hdocumentedRead, on]

/-- A document in which nothing is missing is written on all fields. -/
theorem writtenOn_toJson (s : Settings) : s.WrittenOn fieldNames s.toJson := by
  refine ⟨_, _, rfl, .refl _ _, rfl, ?_⟩
  simp only [List.forall_mem_cons]
  refine ⟨?_, ?_, ?_, ?_, ?_, ?_, ?_, ?_, fun _ h => absurd h List.not_mem_nil⟩ <;>
    constructor <;> intro hname <;> try exact absurd hname (by decide)
  · rfl
  · exact .map (fun f => .refl _) _
  · exact .map (fun p => .refl _) _
  · exact .map (fun p => .refl _) _
  · rfl
  · exact .map (fun r => .refl _) _
  · exact .map (fun r => .refl _) _
  · exact .map (fun r => .refl _) _

theorem on_fieldNames (s : Settings) : s.on fieldNames = s := rfl

end Settings

/-! ### Repeated members -/

theorem forall₂_of_mapM_eq_some {α β : Type} {f : α → Option β} {l : List α} {bs : List β}
    (h : l.mapM f = some bs) : List.Forall₂ (fun a b => f a = some b) l bs := by
  induction l generalizing bs with
  | nil =>
    cases h
    exact .nil
  | cons a l ih =>
    rw [List.mapM_cons] at h
    obtain ⟨b, hb, h⟩ := Option.bind_eq_some_iff.1 h
    obtain ⟨rest, hrest, h⟩ := Option.bind_eq_some_iff.1 h
    cases h
    exact .cons hb (ih hrest)

theorem mapM_eq_none {α β : Type} {f : α → Option β} {l : List α} {a : α} (ha : a ∈ l)
    (h : f a = none) : l.mapM f = none := by
  induction l with
  | nil => cases ha
  | cons a' l ih =>
    rw [List.mapM_cons]
    rcases List.mem_cons.1 ha with rfl | ha
    · rw [h]
      rfl
    · rw [ih ha]
      cases f a' <;> rfl

/-- The members have the name more than once. -/
def Json.Repeats (name : String) (members : List (String × Json)) : Prop :=
  2 ≤ (members.map Prod.fst).count name

instance (name : String) (members : List (String × Json)) : Decidable (Repeats name members) :=
  inferInstanceAs (Decidable (_ ≤ _))

theorem ofMembers_repeated (h : Repeats name members) : ofMembers members name = none := by
  have hlength : 2 ≤ (members.filter fun m => m.1 == name).length := by
    rw [← List.countP_eq_length_filter]
    rwa [Repeats, List.count, List.countP_map] at h
  rw [ofMembers]
  split
  next hnil => simp [hnil] at hlength
  next m hone => simp [hone] at hlength
  next => rfl

theorem all?_repeated (h : Repeats name members) (hname : name ∈ names) :
    all? names (.object members) = none := mapM_eq_none hname (ofMembers_repeated h)

/-- A member that is there is found, unless another has its name. -/
theorem ofMembers_eq_of_mem (hm : m ∈ members) (h : ofMembers members m.1 = some field) :
    field = .given m.2 := by
  have hfilter : m ∈ members.filter fun x => x.1 == m.1 := List.mem_filter.2 ⟨hm, by simp⟩
  rw [ofMembers] at h
  split at h
  next hnil => rw [hnil] at hfilter; cases hfilter
  next m' hone =>
    rw [hone, List.mem_singleton] at hfilter
    cases h
    rw [hfilter]
  next => cases h

namespace Settings

/-- The lists of the settings, with the names of the fields of their records. -/
def recordNames : List (String × List String) := [
  ("script_folders", ["name", "path", "include_subdirectories", "rules"]),
  ("placeholders", ["name", "value"]),
  ("regexes", ["name", "regex"]),
  ("unwanted_code", ["id", "name", "regex_index", "description"]),
  ("code_guidelines", ["id", "name", "search_regex_index", "group_name", "match_regex_index",
    "description"]),
  ("code_documentation", ["id", "name", "regex_index", "description"])]

/-- Settings cannot have a field twice. -/
theorem ofJson?_repeated (h : Repeats name members) (hname : name ∈ fieldNames) :
    ofJson? (.object members) = none := by
  rw [ofJson?, all?_repeated h hname]
  rfl

/-- A list whose records are read by their fields cannot hold one that has a field twice. -/
theorem not_repeats_of_defaulting {α : Type} {read : Json → Option α}
    {ofFields : List RecordField → Option α} (hread : ∀ j, read j = (all? names j).bind ofFields)
    {value given : List α} {list : String} {items : List Json} {inner : List (String × Json)}
    (hfield : ofMembers members list = some field)
    (hgiven : defaulting value (list? read) field = some given)
    (hitems : (list, .array items) ∈ members) (hinner : .object inner ∈ items)
    (hname : name ∈ names) : ¬ Repeats name inner := by
  intro h
  have hnone : read (.object inner) = none := by
    rw [hread, all?_repeated h hname, Option.bind_none]
  have hlist : items.mapM read = none := mapM_eq_none hinner hnone
  rw [ofMembers_eq_of_mem hitems hfield, defaulting, list?, hlist] at hgiven
  cases hgiven

/-- A record in the settings cannot have a field twice. -/
theorem ofJson?_repeated_inside {list : String} {items : List Json}
    {inner : List (String × Json)} (hlist : (list, names) ∈ recordNames)
    (hitems : (list, .array items) ∈ members) (hinner : .object inner ∈ items)
    (h : Repeats name inner) (hname : name ∈ names) : ofJson? (.object members) = none := by
  by_contra hsome
  obtain ⟨s, hs⟩ := Option.ne_none_iff_exists'.1 hsome
  obtain ⟨_, _, _, _, _, _, _, _, hfields, _, hfolders, hplaceholders, hregexes, _, hunwanted,
    hguidelines, hdocumented⟩ := fields_of_ofJson? hs
  obtain _ | ⟨_, _ | ⟨hf, _ | ⟨hp, _ | ⟨hr, _ | ⟨_, _ | ⟨hu, _ | ⟨hg, _ | ⟨hd, _⟩⟩⟩⟩⟩⟩⟩⟩ :=
    forall₂_of_mapM_eq_some hfields
  refine absurd h ?_
  simp only [recordNames, List.mem_cons, List.not_mem_nil, or_false, Prod.mk.injEq] at hlist
  rcases hlist with ⟨rfl, rfl⟩ | ⟨rfl, rfl⟩ | ⟨rfl, rfl⟩ | ⟨rfl, rfl⟩ | ⟨rfl, rfl⟩ | ⟨rfl, rfl⟩
  · exact not_repeats_of_defaulting (fun _ => rfl) hf hfolders hitems hinner hname
  · exact not_repeats_of_defaulting (fun _ => rfl) hp hplaceholders hitems hinner hname
  · exact not_repeats_of_defaulting (fun _ => rfl) hr hregexes hitems hinner hname
  · exact not_repeats_of_defaulting (fun _ => rfl) hu hunwanted hitems hinner hname
  · exact not_repeats_of_defaulting (fun _ => rfl) hg hguidelines hitems hinner hname
  · exact not_repeats_of_defaulting (fun _ => rfl) hd hdocumented hitems hinner hname

/-! ### Texts -/

/-- A text in which settings are written in part is read as them, with the stock settings for the
    fields that are missing. One in which a field comes twice cannot be read, whether it is one of
    the settings or of a record in them. -/
theorem parse?_partial (text : String) :
    (∀ (s : Settings) (F : List String) (j : Json), Json.read? text = some j → s.InRange →
      s.WrittenOn F j → parse? text = some (s.on F)) ∧
    ∀ members : List (String × Json), Json.read? text = some (.object members) →
      (∀ name ∈ fieldNames, Repeats name members → parse? text = none) ∧
      ∀ list names items inner name, (list, names) ∈ recordNames →
        (list, .array items) ∈ members → .object inner ∈ items → name ∈ names →
        Repeats name inner → parse? text = none := by
  refine ⟨fun s F j hread hrange hwritten => ?_, fun members hread => ⟨fun name hname h => ?_,
    fun list names items inner name hlist hitems hinner hname h => ?_⟩⟩
  · rw [parse?, hread, Option.bind_some, ofJson?_of_writtenOn hrange hwritten]
  · rw [parse?, hread, Option.bind_some, ofJson?_repeated h hname]
  · rw [parse?, hread, Option.bind_some, ofJson?_repeated_inside hlist hitems hinner h hname]

/-- Settings with a pattern and a rule that has no number and no pattern. -/
def halfWritten : Settings where
  templateFolder := "T"
  scriptFolders := []
  placeholders := []
  regexes := [⟨"n", "a"⟩]
  documentationRegex := ""
  unwantedCode := [⟨0, "u", none, "d"⟩]
  codeGuidelines := []
  codeDocumentation := []

/-- The members that are written are a pattern, with its fields the other way round and another
    between them, and a rule without number and index. -/
theorem writtenOn_halfWritten : halfWritten.WrittenOn ["unwanted_code", "regexes"] (.object [
    ("unwanted_code", .array [.object [("description", .string "d"), ("name", .string "u")]]),
    ("regexes", .array [.object [("x", .null), ("regex", .string "a"), ("name", .string "n")]]),
    ("z", .number "1e9")]) := by
  let pattern : List (String × Json) :=
    [("name", .string "n"), ("regex", .string "a"), ("x", .null)]
  have hpattern : Abridges (NamedPattern.toJson ⟨"n", "a"⟩)
      (.object [("x", .null), ("regex", .string "a"), ("name", .string "n")]) :=
    ⟨_, _, _, rfl, rfl, .refl _, fun m hm => .inl hm, [("x", .null)], by simp,
      List.reverse_perm pattern⟩
  have hrule : Abridges (UnwantedCode.toJson ⟨0, "u", none, "d"⟩)
      (.object [("description", .string "d"), ("name", .string "u")]) :=
    ⟨_, [("name", .string "u"), ("description", .string "d")], _, rfl, rfl,
      .cons _ (.cons_cons _ (.cons _ (.cons_cons _ .slnil))), by simp [omittable, ofIndex], [],
      by simp, .swap _ _ _⟩
  refine ⟨[("regexes", _), ("unwanted_code", _)], _, rfl, ⟨[("z", .number "1e9")], by decide,
    .swap _ _ _⟩, by decide, ?_⟩
  simp only [List.forall_mem_cons]
  refine ⟨?_, ?_, fun _ h => absurd h List.not_mem_nil⟩ <;> constructor <;> intro hname <;>
    try exact absurd hname (by decide)
  · exact ⟨_, rfl, .cons hpattern .nil⟩
  · exact ⟨_, rfl, .cons hrule .nil⟩

theorem parse?_partial_halfWritten :
    parse? ("\x7b\"unwanted_code\":[\x7b\"description\":\"d\",\"name\":\"u\"\x7d]," ++
      "\"regexes\":[\x7b\"x\":null,\"regex\":\"a\",\"name\":\"n\"\x7d],\"z\":1e9\x7d") =
      some { stock with regexes := [⟨"n", "a"⟩], unwantedCode := [⟨0, "u", none, "d"⟩] } ∧
    parse? "\x7b\"regexes\":[],\"regexes\":[]\x7d" = none ∧
    parse? "\x7b\"script_folders\":[\x7b\"rules\":[],\"rules\":[]\x7d]\x7d" = none := by
  have htwice : Json.read? "\x7b\"regexes\":[],\"regexes\":[]\x7d" =
      some (.object [("regexes", .array []), ("regexes", .array [])]) := rfl
  have hinside : Json.read? "\x7b\"script_folders\":[\x7b\"rules\":[],\"rules\":[]\x7d]\x7d" =
      some (.object [("script_folders",
        .array [.object [("rules", .array []), ("rules", .array [])]])]) := rfl
  refine ⟨?_, ?_, ?_⟩
  · have hrange : halfWritten.InRange := ⟨nofun, by decide, by decide⟩
    exact (parse?_partial _).1 halfWritten _ _ rfl hrange writtenOn_halfWritten
  · exact ((parse?_partial _).2 _ htwice).1 "regexes" (by decide) (by decide)
  · exact ((parse?_partial _).2 _ hinside).2 "script_folders" _ _ _ "rules" List.mem_cons_self
      (List.mem_singleton_self _) (List.mem_singleton_self _) (by decide) (by decide)

end Settings

end ScriptKeeper
