import ScriptKeeper.Proofs.Files.Atomic
import ScriptKeeper.Proofs.Files.Join
import ScriptKeeper.Proofs.Template.Render

/-!
# What becomes of a script

A script is created from a template, or one failure is reported and no file has changed. What can
go wrong is listed in the order in which it is reported (`Failure`), and what a script is when
nothing does (`Created`): a new file in the folder, with the text of the template in which every
token is replaced by what it stands for (`meaning?`).

* `valueOf?_resolve`: the reserved names stand for what the script gives, whatever the user says;
* `run_createScript`: the creation, one check after the other;
* `createScript_outcome`: the whole.
-/

namespace ScriptKeeper.Template

open FileTree

/-! ### What tokens stand for -/

/-- What a token stands for in a script: its name, the name of the template, or what the user has
    said first. -/
def meaning? (user : List Placeholder) (script template token : String) : Option String :=
  if token = scriptName then some script
  else if token = templateName then some template
  else valueOf? user token

theorem isReserved_iff {token : String} :
    isReserved token = true ↔ token = scriptName ∨ token = templateName := by
  simp [isReserved, reservedNames]

/-- The values for a script give every token what it stands for. -/
theorem valueOf?_resolve {script template : String} (hs : script ≠ "") (ht : template ≠ "")
    (user : List Placeholder) (token : String) :
    valueOf? (resolve user script template) token = meaning? user script template token := by
  have huser : (user.filter fun p => !isReserved p.name).find? (fun p => p.name == token) =
      if isReserved token then none else user.find? fun p => p.name == token := by
    rw [List.find?_filter]
    split
    next hreserved =>
      rw [List.find?_eq_none]
      rintro p - hp
      rw [decide_eq_true_iff, beq_iff_eq] at hp
      rw [hp.2, hreserved] at hp
      exact absurd hp.1 (by simp)
    next hreserved =>
      refine congrArg (user.find? ·) (funext fun p => ?_)
      by_cases hp : p.name = token
      · simp [hp, hreserved]
      · simp [hp]
  rw [valueOf?, resolve, List.find?_append, huser, meaning?]
  by_cases hscript : token = scriptName
  · rw [if_pos (isReserved_iff.2 (.inl hscript)), if_pos hscript, hscript]
    simp [hs]
  by_cases htemplate : token = templateName
  · rw [if_pos (isReserved_iff.2 (.inr htemplate)), if_neg hscript, if_pos htemplate, htemplate]
    have hother : scriptName ≠ templateName := by decide
    simp [ht, hother]
  · have hnot : ¬ isReserved token = true := fun h => (isReserved_iff.1 h).elim hscript htemplate
    rw [if_neg hnot, if_neg hscript, if_neg htemplate, valueOf?]
    simp [Ne.symm hscript, Ne.symm htemplate]

/-- A part, when its token stands for something. -/
def Part.filled (meaning : String → Option String) : Part → String
  | .char c => String.singleton c
  | .token name => (meaning (String.ofList name)).getD ""

/-- A template with all tokens replaced. What replaces a token is not searched for tokens. -/
def filled (meaning : String → Option String) (text : String) : String :=
  String.join ((parts text.toList).map (Part.filled meaning))

/-- All tokens of a template stand for something. -/
def AllKnown (meaning : String → Option String) (ps : List Part) : Prop :=
  ∀ name, .token name ∈ ps → (meaning (String.ofList name)).isSome = true

/-- The leftmost token of a template that stands for nothing. -/
def FirstUnknown (meaning : String → Option String) (ps : List Part) (token : String) : Prop :=
  ∃ before name after, ps = before ++ .token name :: after ∧ AllKnown meaning before ∧
    token = String.ofList name ∧ meaning token = none

variable {meaning : String → Option String} {ps : List Part}

theorem joined_of_allKnown (h : AllKnown meaning ps) :
    joined (Part.fill meaning) ps = .ok (String.join (ps.map (Part.filled meaning))) := by
  induction ps with
  | nil => rfl
  | cons p ps ih =>
    have hfill : p.fill meaning = .ok (p.filled meaning) := by
      match p with
      | .char c => rfl
      | .token name =>
        obtain ⟨value, hvalue⟩ := Option.isSome_iff_exists.1 (h name List.mem_cons_self)
        rw [Part.fill, fillToken, hvalue, Part.filled, hvalue, Option.getD_some]
    rw [joined_cons, hfill, ih fun name hname => h name (List.mem_cons_of_mem p hname),
      List.map_cons, String.join_cons]
    rfl

theorem joined_of_firstUnknown {token : String} (h : FirstUnknown meaning ps token) :
    joined (Part.fill meaning) ps = .error (.missingValue token) := by
  obtain ⟨before, name, after, rfl, hknown, rfl, hnone⟩ := h
  rw [joined_append, joined_of_allKnown hknown, ok_bind, joined_cons, Part.fill, fillToken, hnone]
  rfl

/-- All tokens are known, or one is the first that is not. -/
theorem allKnown_or_firstUnknown (meaning : String → Option String) (ps : List Part) :
    AllKnown meaning ps ∨ ∃ token, FirstUnknown meaning ps token := by
  induction ps with
  | nil => exact .inl nofun
  | cons p ps ih =>
    -- The first part decides, unless it is a character or known.
    by_cases hp : ∀ name, p = .token name → (meaning (String.ofList name)).isSome = true
    · rcases ih with hknown | ⟨token, before, name, after, hps, hbefore, htoken, hnone⟩
      · exact .inl fun name hname =>
          (List.mem_cons.1 hname).elim (fun h => hp name h.symm) (hknown name)
      · refine .inr ⟨token, p :: before, name, after, by rw [hps]; rfl, fun other hother => ?_,
          htoken, hnone⟩
        exact (List.mem_cons.1 hother).elim (fun h => hp other h.symm) (hbefore other)
    · obtain ⟨name, hname⟩ := not_forall.1 hp
      obtain ⟨rfl, hnone⟩ := Classical.not_imp.1 hname
      exact .inr ⟨_, [], name, ps, rfl, nofun, rfl, by simpa using hnone⟩

/-! ### The name of a template -/

/-- What is left of a name without its extension is not empty. -/
theorem nameStem_ne_empty {name : String} (h : name ≠ "") : Path.nameStem name ≠ "" := by
  rw [Path.nameStem]
  split
  · split
    · exact h
    next hbefore => exact fun hempty => hbefore (String.isEmpty_iff.2 hempty)
  · exact h

theorem ne_empty_of_fileName? {path name : String} (h : Path.fileName? path = some name) :
    name ≠ "" := by
  obtain ⟨hlast, _⟩ := Option.filter_eq_some_iff.1 h
  have hmem : name ∈ Path.names path := (List.mem_filter.1 (List.mem_of_getLast? hlast)).1
  obtain ⟨cs, hcs, rfl⟩ := List.mem_map.1 hmem
  rintro hempty
  obtain rfl : cs = [] := by simpa using hempty
  exact absurd (List.mem_filter.1 hcs).2 (by simp)

/-- A template has the name of its file, which is not empty. -/
theorem name_of_ofPath {path : String} {template : Template} (h : ofPath path = .ok template) :
    template.path = path ∧ Path.stem? path = some template.name ∧ template.name ≠ "" := by
  rw [ofPath] at h
  split at h
  next found hfound =>
    obtain rfl := Except.ok.inj h
    rw [ofPath?] at hfound
    split at hfound
    next =>
      obtain ⟨stem, hstem, rfl⟩ := Option.map_eq_some_iff.1 hfound
      refine ⟨rfl, hstem, ?_⟩
      rw [Path.stem?] at hstem
      obtain ⟨name, hname, rfl⟩ := Option.map_eq_some_iff.1 hstem
      exact nameStem_ne_empty (ne_empty_of_fileName? hname)
    next => cases hfound
  next => cases h

/-! ### The creation -/

section

variable (t : FileTree) (template : Template) (user : List Placeholder) (folder name : String)

/-- What goes wrong with the creation of a script. The failure of the lowest rank is reported. -/
inductive Failure : Nat → TemplateError → Prop
  | invalidName : isPlainName name = false → Failure 0 (.invalidScriptName name)
  /-- There is something at the path of the script, links followed. -/
  | present : t.exists? (scriptPath folder name) = true →
      Failure 1 (.alreadyExists (scriptPath folder name))
  | unreadable {cause : FileError} : t.readText template.path = .error cause →
      Failure 2 (.read template.path cause)
  | unknown {text token : String} : t.readText template.path = .ok text →
      FirstUnknown (meaning? user name template.name) (parts text.toList) token →
      Failure 3 (.missingValue token)
  | unwritable {text : String} {cause : FileError} {t' : FileTree} :
      (writePathIn folder (scriptPath folder name) false text).run t = (.error cause, t') →
      Failure 4 (.create (scriptPath folder name) cause)

/-- The script has been created at the path: a new file directly in the folder, and nothing else
    has changed. -/
structure Created (path : String) (t' : FileTree) : Prop where
  path_eq : path = Path.join folder (name ++ ".cs")
  file : ∃ text dir, t.readText template.path = .ok text ∧
    AllKnown (meaning? user name template.name) (parts text.toList) ∧
    t.LeadsToFolder folder dir ∧ t.get? (dir ++ [name ++ ".cs"]) = none ∧
    t' = t.put (dir ++ [name ++ ".cs"])
      (.file (.text (filled (meaning? user name template.name) text ++ "\n"))) ∧
    t'.readText path = .ok (filled (meaning? user name template.name) text ++ "\n")

/-- What the creation of a script leads to. -/
inductive Outcome : Except TemplateError String × FileTree → Prop
  | failed {rank : Nat} {e : TemplateError} : Failure t template user folder name rank e →
      (∀ r e', Failure t template user folder name r e' → rank ≤ r) → Outcome (.error e, t)
  | created {path : String} {t' : FileTree} :
      (∀ rank e, ¬ Failure t template user folder name rank e) →
      Created t template user folder name path t' → Outcome (.ok path, t')

variable {t : FileTree} {template : Template} {user : List Placeholder} {folder name : String}

/-- The file of a script has a name that an entry of a folder can have. -/
theorem isEntryName_of_plain (h : isPlainName name = true) : Path.IsEntryName (name ++ ".cs") := by
  have hlist : (name ++ ".cs").toList = name.toList ++ ['.', 'c', 's'] := String.toList_append
  have hne {other : String} (hother : other.toList.length < 3) : name ++ ".cs" ≠ other := by
    rintro rfl
    rw [hlist, List.length_append] at hother
    exact absurd hother (by simp)
  refine ⟨fun hslash => ?_, hne (by decide), hne (by decide), hne (by decide)⟩
  rw [hlist, List.mem_append] at hslash
  rw [isPlainName, Bool.and_eq_true, Bool.not_eq_true', List.any_eq_false] at h
  exact hslash.elim (fun hmem => h.2 '/' hmem (by decide)) (by decide)

theorem name_ne_empty_of_plain (h : isPlainName name = true) : name ≠ "" := by
  rintro rfl
  exact absurd h (by decide)

theorem scriptPath_eq (folder name : String) :
    scriptPath folder name = Path.join folder (name ++ ".cs") := by
  rw [scriptPath, String.append_assoc]
  rfl

/-- A temporary file has another name than a script. -/
theorem ne_freshName (t : FileTree) (name : String) : name ++ ".cs" ≠ t.freshName := by
  intro h
  have hscript : (name ++ ".cs").toList.getLast? = some 's' := by simp
  have hfresh : t.freshName.toList.getLast? = some 'x' := by
    have hlist (cs : List Char) : (".tmp" ++ String.ofList (cs ++ ['x'])).toList =
        ['.', 't', 'm', 'p'] ++ cs ++ ['x'] := by simp
    rw [freshName, List.replicate_succ', hlist, List.getLast?_concat]
  rw [h, hfresh] at hscript
  exact absurd hscript (by decide)

theorem run_createFile_eq (folder path text : String) (t : FileTree) :
    (createFile folder path text).run t =
      match (writePathIn folder path false text).run t with
      | (.ok (), t') => (.ok (), t')
      | (.error cause, t') => (.error (.create path cause), t') := by
  rw [createFile, run_bind, run_get]
  dsimp only
  rcases (writePathIn folder path false text).run t with ⟨_ | _, _⟩ <;> rfl

/-- The text of a script is that of the template, filled in and closed by a newline. -/
theorem scriptText_eq (hs : name ≠ "") (ht : template.name ≠ "") :
    template.scriptText t user name = match t.readText template.path with
      | .error cause => .error (.read template.path cause)
      | .ok text => (· ++ "\n") <$>
          joined (Part.fill (meaning? user name template.name)) (parts text.toList) := by
  have hmeaning : valueOf? (resolve user name template.name) = meaning? user name template.name :=
    funext (valueOf?_resolve hs ht user)
  rw [scriptText, load]
  cases t.readText template.path with
  | error cause => rfl
  | ok text =>
    rw [ok_bind, render_eq, hmeaning]
    rfl

/-- The creation of a script, one check after the other. -/
theorem run_createScript (template : Template) (user : List Placeholder) (folder name : String)
    (t : FileTree) : (createScript template user folder name).run t =
    if isPlainName name = false then (.error (.invalidScriptName name), t)
    else if t.exists? (scriptPath folder name) = true then
      (.error (.alreadyExists (scriptPath folder name)), t)
    else match template.scriptText t user name with
      | .error e => (.error e, t)
      | .ok text => match (writePathIn folder (scriptPath folder name) false text).run t with
        | (.ok (), t') => (.ok (scriptPath folder name), t')
        | (.error cause, t') => (.error (.create (scriptPath folder name) cause), t') := by
  rw [createScript]
  cases hname : isPlainName name with
  | false => rfl
  | true =>
    rw [if_neg (by simp), if_neg (by simp), run_bind, run_get]
    dsimp only
    split
    next => rfl
    next =>
      rw [run_bind, run_lift]
      cases template.scriptText t user name with
      | error e => rfl
      | ok text =>
        dsimp only
        rw [run_bind, run_createFile_eq]
        rcases (writePathIn folder (scriptPath folder name) false text).run t with
          ⟨_ | _, _⟩ <;> rfl

/-! ### The order of the failures -/

theorem FirstUnknown.not_allKnown {meaning : String → Option String} {ps : List Part}
    {token : String} (h : FirstUnknown meaning ps token) : ¬ AllKnown meaning ps := by
  obtain ⟨before, name, after, rfl, _, rfl, hnone⟩ := h
  intro hknown
  have hsome := hknown name (List.mem_append_right _ List.mem_cons_self)
  rw [hnone] at hsome
  cases hsome

section

variable {rank : Nat} {e : TemplateError} (h : Failure t template user folder name rank e)

include h

theorem Failure.one_le (hname : isPlainName name = true) : 1 ≤ rank := by
  cases h with
  | invalidName hinvalid => rw [hname] at hinvalid; cases hinvalid
  | present | unreadable | unknown | unwritable => omega

theorem Failure.two_le (hname : isPlainName name = true)
    (habsent : ¬ t.exists? (scriptPath folder name) = true) : 2 ≤ rank := by
  have hrank := h.one_le hname
  cases h with
  | invalidName => omega
  | present hpresent => exact absurd hpresent habsent
  | unreadable | unknown | unwritable => omega

theorem Failure.three_le (hname : isPlainName name = true)
    (habsent : ¬ t.exists? (scriptPath folder name) = true) {text : String}
    (htext : t.readText template.path = .ok text) : 3 ≤ rank := by
  have hrank := h.two_le hname habsent
  cases h with
  | invalidName | present => omega
  | unreadable hcause => rw [htext] at hcause; cases hcause
  | unknown | unwritable => omega

theorem Failure.four_le (hname : isPlainName name = true)
    (habsent : ¬ t.exists? (scriptPath folder name) = true) {text : String}
    (htext : t.readText template.path = .ok text)
    (hknown : AllKnown (meaning? user name template.name) (parts text.toList)) : 4 ≤ rank := by
  have hrank := h.three_le hname habsent htext
  cases h with
  | invalidName | present | unreadable => omega
  | unknown htext' hunknown =>
    obtain rfl := Except.ok.inj (htext.symm.trans htext')
    exact absurd hknown hunknown.not_allKnown
  | unwritable => omega

end

/-- A token that stands for nothing is not reserved. -/
theorem Failure.not_reserved {token : String}
    (h : Failure t template user folder name rank (.missingValue token)) :
    ¬ isReserved token = true := by
  generalize he : TemplateError.missingValue token = e at h
  cases h with
  | invalidName | present | unreadable => cases he
  | unknown _ hunknown =>
    cases he
    obtain ⟨_, _, _, _, _, _, hnone⟩ := hunknown
    intro hreserved
    rw [meaning?] at hnone
    rcases isReserved_iff.1 hreserved with rfl | rfl
    · cases hnone
    · rw [if_neg (by decide)] at hnone
      cases hnone
  | unwritable =>
    rw [TemplateError.create] at he
    split at he <;> cases he

/-! ### When a script can be written -/

/-- A script can be written to the folder at a location: nothing has its name there, and neither the
    name nor the path is too long. -/
structure Free (t : FileTree) (folder name : String) (dir : Location) : Prop where
  leads : t.LeadsToFolder folder dir
  checked : checkPath (scriptPath folder name) = .ok ()
  short : (name ++ ".cs").utf8ByteSize ≤ maxNameLength
  new : t.get? (dir ++ [name ++ ".cs"]) = none

section

variable {dir : Location}

theorem Free.targetOf (h : Free t folder name dir) (hname : isPlainName name = true) :
    t.TargetOf (scriptPath folder name) (dir ++ [name ++ ".cs"]) := by
  have hchecked := h.checked
  rw [scriptPath_eq] at hchecked ⊢
  exact (targetOf_join_iff (isEntryName_of_plain hname) h.leads).2 ⟨hchecked, h.short, rfl⟩

theorem Free.run_writePathIn (h : Free t folder name dir) (hname : isPlainName name = true)
    (text : String) : (writePathIn folder (scriptPath folder name) false text).run t =
      (.ok (), t.put (dir ++ [name ++ ".cs"]) (.file (.text text))) := by
  have hplace : dir ++ [name ++ ".cs"] ≠ dir ++ [t.freshName] := fun heq =>
    ne_freshName t name (List.singleton_inj.1 (List.append_cancel_left heq))
  exact run_writePathIn_new h.leads (h.targetOf hname) h.new hplace false text

/-- A script is written where it can be, and the system refuses where it cannot. -/
theorem run_writePathIn_script (t : FileTree) (folder text : String)
    (hname : isPlainName name = true) :
    (∃ dir, Free t folder name dir ∧
      (writePathIn folder (scriptPath folder name) false text).run t =
        (.ok (), t.put (dir ++ [name ++ ".cs"]) (.file (.text text)))) ∨
    ∃ cause, (∀ dir, ¬ Free t folder name dir) ∧
      (writePathIn folder (scriptPath folder name) false text).run t = (.error cause, t) := by
  rcases writePathIn_cases t folder (scriptPath folder name) false text none with
    ⟨cause, he⟩ | ⟨dir, loc, _, hdir, ⟨htarget, hnew, _⟩, hok⟩
  · refine .inr ⟨cause, fun dir hfree => ?_, he⟩
    rw [hfree.run_writePathIn hname text] at he
    cases he
  · have hchecked := htarget.checked
    rw [scriptPath_eq, targetOf_join_iff (isEntryName_of_plain hname) hdir] at htarget
    obtain ⟨_, hshort, rfl⟩ := htarget
    exact .inl ⟨dir, ⟨hdir, hchecked, hshort, hnew rfl⟩, hok⟩

end

/-! ### The outcome -/

/-- A script whose text is known is written, or the system refuses. -/
theorem outcome_of_text {text : String} (hname : isPlainName name = true)
    (habsent : ¬ t.exists? (scriptPath folder name) = true)
    (htext : t.readText template.path = .ok text)
    (hknown : AllKnown (meaning? user name template.name) (parts text.toList)) :
    Outcome t template user folder name
      (match (writePathIn folder (scriptPath folder name) false
          (filled (meaning? user name template.name) text ++ "\n")).run t with
        | (.ok (), t') => (.ok (scriptPath folder name), t')
        | (.error cause, t') => (.error (.create (scriptPath folder name) cause), t')) := by
  rcases run_writePathIn_script t folder
    (filled (meaning? user name template.name) text ++ "\n") hname with
    ⟨dir, hfree, hok⟩ | ⟨cause, _, he⟩
  · rw [hok]
    have htarget := hfree.targetOf hname
    refine .created (fun rank e h => ?_) ⟨scriptPath_eq folder name, text, dir, htext, hknown,
      hfree.leads, hfree.new, rfl, ?_⟩
    · -- Only the writing is left to fail, and it has not.
      have hrank := h.four_le hname habsent htext hknown
      cases h with
      | unwritable hrefused =>
        rw [hfree.run_writePathIn hname] at hrefused
        cases hrefused
      | invalidName | present | unreadable | unknown => omega
    · have hlocate := (htarget.put hfree.new (.text (filled (meaning? user name template.name)
        text ++ "\n"))).locate (get?_put_self t htarget.ne_nil _)
      rw [readText, hlocate, ok_bind, textAt_put_self t htarget.ne_nil]
  · rw [he]
    exact .failed (.unwritable he) fun r e' h => h.four_le hname habsent htext hknown

/-- What the creation of a script leads to. -/
theorem outcome_createScript (hstem : template.name ≠ "") (user : List Placeholder)
    (folder name : String) (t : FileTree) :
    Outcome t template user folder name ((createScript template user folder name).run t) := by
  rw [run_createScript]
  split
  next hinvalid => exact .failed (.invalidName hinvalid) fun _ _ _ => Nat.zero_le _
  next hname =>
  rw [Bool.not_eq_false] at hname
  split
  next hpresent => exact .failed (.present hpresent) fun r e' h => h.one_le hname
  next habsent =>
  rw [scriptText_eq (name_ne_empty_of_plain hname) hstem]
  cases htext : t.readText template.path with
  | error cause => exact .failed (.unreadable htext) fun r e' h => h.two_le hname habsent
  | ok text =>
    dsimp only
    rcases allKnown_or_firstUnknown (meaning? user name template.name) (parts text.toList) with
      hknown | ⟨token, hunknown⟩
    · rw [joined_of_allKnown hknown]
      exact outcome_of_text hname habsent htext hknown
    · rw [joined_of_firstUnknown hunknown]
      exact .failed (.unknown htext hunknown) fun r e' h => h.three_le hname habsent htext

/-- The creation of a script depends on what the user says of names that are not reserved only. -/
theorem run_createScript_congr {user' : List Placeholder}
    (h : user'.filter (fun p => !isReserved p.name) = user.filter fun p => !isReserved p.name)
    (template : Template) (folder name : String) (t : FileTree) :
    (createScript template user' folder name).run t =
      (createScript template user folder name).run t := by
  have htext : template.scriptText t user' name = template.scriptText t user name := by
    rw [scriptText, scriptText, resolve, resolve, h]
  rw [run_createScript, run_createScript, htext]

/-- From a template, a script is created as a new file with the template filled in, or the first
    failure in order is reported and no file has changed. It is never a reserved name that lacks a
    value, and what the user says of reserved names makes no difference. -/
theorem createScript_outcome {path : String} (h : ofPath path = .ok template)
    (user : List Placeholder) (folder name : String) (t : FileTree) :
    (template.path = path ∧ Path.stem? path = some template.name) ∧
    Outcome t template user folder name ((createScript template user folder name).run t) ∧
    (∀ token, isReserved token = true → ∀ t',
      (createScript template user folder name).run t ≠ (.error (.missingValue token), t')) ∧
    ∀ user' : List Placeholder,
      user'.filter (fun p => !isReserved p.name) = user.filter (fun p => !isReserved p.name) →
      (createScript template user' folder name).run t =
        (createScript template user folder name).run t := by
  obtain ⟨hpath, hname, hstem⟩ := name_of_ofPath h
  have houtcome := outcome_createScript hstem user folder name t
  refine ⟨⟨hpath, hname⟩, houtcome, fun token hreserved t' hrun => ?_, fun user' hsame =>
    run_createScript_congr hsame template folder name t⟩
  rw [hrun] at houtcome
  cases houtcome with
  | failed hfailure => exact hfailure.not_reserved hreserved

end

/-- A value that looks like a token stays as it is, and the user cannot rename the script. -/
theorem createScript_outcome_player :
    let t : FileTree := { entries := [(["Assets"], .folder),
      (["T.txt"], .file (.text "%ScriptName% : %Base%"))] }
    let template : Template := ⟨"T", "T.txt"⟩
    let user : List Placeholder := [⟨"ScriptName", "Other"⟩, ⟨"Base", "%Base%"⟩]
    ofPath "T.txt" = .ok template ∧ ∃ t',
      (createScript template user "Assets" "Player").run t = (.ok "Assets/Player.cs", t') ∧
        t'.readText "Assets/Player.cs" = .ok "Player : %Base%\n" := by
  intro t template user
  have htext : t.readText "T.txt" = .ok "%ScriptName% : %Base%" := rfl
  have hparts : parts "%ScriptName% : %Base%".toList = [.token "ScriptName".toList, .char ' ',
      .char ':', .char ' ', .token "Base".toList] := by decide +kernel
  have hknown : AllKnown (meaning? user "Player" "T") (parts "%ScriptName% : %Base%".toList) := by
    rw [hparts]
    intro name hname
    simp only [List.mem_cons, Part.token.injEq, reduceCtorEq, List.not_mem_nil, or_false,
      false_or] at hname
    rcases hname with rfl | rfl <;> decide
  have hnone (rank : Nat) (e : TemplateError) :
      ¬ Failure t template user "Assets" "Player" rank e := by
    intro hfailure
    have hrank := hfailure.four_le rfl (by decide) htext hknown
    cases hfailure with
    | unwritable hrefused => cases hrefused
    | invalidName | present | unreadable | unknown => omega
  obtain ⟨_, houtcome, _, _⟩ :=
    createScript_outcome (show ofPath "T.txt" = .ok template from rfl) user "Assets" "Player" t
  refine ⟨rfl, ?_⟩
  rcases hrun : (createScript template user "Assets" "Player").run t with ⟨result, t'⟩
  rw [hrun] at houtcome
  cases houtcome with
  | failed hfailure => exact absurd hfailure (hnone _ _)
  | created _ hcreated =>
    obtain ⟨text, dir, htext', _, _, _, _, hread⟩ := hcreated.file
    obtain rfl := Except.ok.inj (htext.symm.trans htext')
    obtain rfl := hcreated.path_eq
    have hfilled : filled (meaning? user "Player" "T") "%ScriptName% : %Base%" =
        "Player : %Base%" := by
      rw [filled, hparts]
      rfl
    rw [hfilled] at hread
    exact ⟨t', rfl, hread⟩

end ScriptKeeper.Template
