import ScriptKeeper.Proofs.Template.Render

/-!
# Filling in is a scan from left to right

Whatever the session does with a template, the result is that of a scan that copies the characters
one by one, and at a percent sign that another one follows on the same line puts a value for what is
between them (`scan`). It does not look at the value again, and goes on behind the token.

* `scan_of_no_token`: up to the first token, the text is copied;
* `render_eq_scan`: filling in is the scan, and what this means for the first token.
-/

namespace ScriptKeeper.Template

variable {values : List Placeholder} {c : Char} {cs name rest : List Char}

/-! ### The scan -/

/-- The value of the first placeholder of the name. A value that is missing or empty is reported. -/
def lookUp (values : List Placeholder) (name : String) : Except TemplateError String :=
  match values.find? fun p => p.name == name with
  | some p => if p.value = "" then .error (.missingValue name) else .ok p.value
  | none => .error (.missingValue name)

/-- What is behind the first character that does not have a property is shorter than the whole. -/
theorem length_lt_of_dropWhile {p : Char → Bool} (h : cs.dropWhile p = c :: rest) :
    rest.length < cs.length := by
  have hlength := (List.dropWhile_suffix (l := cs) p).length_le
  rw [h, List.length_cons] at hlength
  exact hlength

/-- The characters with a value for each token. A percent sign opens one if there is another before
    the next newline. -/
def scan (values : List Placeholder) : List Char → Except TemplateError (List Char)
  | [] => .ok []
  | c :: cs =>
    if c = '%' then
      match h : cs.dropWhile fun c => c != '%' && c != '\n' with
      | '%' :: rest =>
        have := length_lt_of_dropWhile h
        do
          let value ← lookUp values (String.ofList (cs.takeWhile fun c => c != '%' && c != '\n'))
          return value.toList ++ (← scan values rest)
      | _ => do return c :: (← scan values cs)
    else do return c :: (← scan values cs)
termination_by cs => cs.length
decreasing_by all_goals grind

theorem fillToken_eq (values : List Placeholder) (name : String) :
    fillToken (valueOf? values) name = lookUp values name := by
  rw [fillToken, valueOf?, lookUp]
  cases values.find? fun p => p.name == name with
  | none => rfl
  | some p =>
    rw [Option.map_some, Option.filter_some]
    by_cases hp : p.value = "" <;> simp [hp]

theorem scan_of_opens (h : Opens cs name rest) : scan values cs = do
    let value ← lookUp values (String.ofList name)
    return value.toList ++ (← scan values rest) := by
  obtain ⟨rfl, hname⟩ := h
  -- The name is exactly what is passed over on the way to the next percent sign or newline.
  have hinside : ∀ c ∈ name, (c != '%' && c != '\n') = true := by
    intro c hc
    simpa [Inside] using hname c hc
  have hrest : (name ++ '%' :: rest).dropWhile (fun c => c != '%' && c != '\n') = '%' :: rest := by
    rw [List.dropWhile_append_of_pos hinside]
    rfl
  rw [scan, if_pos rfl]
  split
  next rest' hrest' =>
    obtain rfl : rest = rest' := by simpa using hrest.symm.trans hrest'
    rw [List.takeWhile_append_of_pos hinside]
    simp
  next hnone => exact absurd hrest (hnone rest)

theorem scan_of_not_opens (h : ∀ name rest, ¬ Opens (c :: cs) name rest) :
    scan values (c :: cs) = do return c :: (← scan values cs) := by
  rw [scan]
  split
  next hc =>
    subst hc
    split
    next rest hrest =>
      refine absurd ⟨?_, ?_⟩ (h (cs.takeWhile fun c => c != '%' && c != '\n') rest)
      · rw [← hrest, List.takeWhile_append_dropWhile]
      · intro c hc
        simpa [Inside] using List.all_eq_true.1 List.all_takeWhile c hc
    next => rfl
  next => rfl

/-- Filling in the parts of a template one by one is scanning it. -/
theorem joined_parts (values : List Placeholder) (cs : List Char) :
    joined (Part.fill (valueOf? values)) (parts cs) = String.ofList <$> scan values cs := by
  induction cs using parts_induction with
  | nil =>
    rw [parts, scan]
    rfl
  | token cs name rest h ih =>
    rw [parts_of_opens h, joined_cons, Part.fill, fillToken_eq, ih, scan_of_opens h]
    rcases lookUp values (String.ofList name) with e | value
    · rfl
    · rcases scan values rest with e | filled
      · rfl
      · exact congrArg Except.ok (by simp)
  | char c cs h ih =>
    rw [parts_of_not_opens h, joined_cons, Part.fill, ih, scan_of_not_opens h]
    rcases scan values cs with e | filled
    · rfl
    · exact congrArg Except.ok (by simp)

/-- Where no token begins, characters are copied. -/
theorem scan_of_no_token {n : Nat} (hn : n ≤ cs.length)
    (h : ∀ i < n, ∀ name rest, ¬ Opens (cs.drop i) name rest) :
    scan values cs = (cs.take n ++ ·) <$> scan values (cs.drop n) := by
  induction n generalizing cs with
  | zero =>
    rw [List.take_zero, List.drop_zero]
    rcases scan values cs with e | filled <;> rfl
  | succ n ih =>
    rcases cs with _ | ⟨c, cs⟩
    · simp at hn
    rw [scan_of_not_opens (h 0 (by omega)), ih (by simpa using hn) fun i hi => h (i + 1) (by omega),
      List.take_succ_cons, List.drop_succ_cons]
    rcases scan values (cs.drop n) with e | filled <;> rfl

/-- Filling in a template is scanning it. Without tokens the text stays as it is; otherwise the text
    up to the first token does, the value of the first placeholder of its name comes after it, and
    then what the rest is filled in to. If there is no such value, that is reported, whatever the
    rest is. -/
theorem render_eq_scan (text : String) (values : List Placeholder) :
    render text values = String.ofList <$> scan values text.toList ∧
    ((∀ i name rest, ¬ Opens (text.toList.drop i) name rest) → render text values = .ok text) ∧
    ∀ n name rest, Opens (text.toList.drop n) name rest →
      (∀ i < n, ∀ name rest, ¬ Opens (text.toList.drop i) name rest) →
      render text values = do
        let value ← lookUp values (String.ofList name)
        let filled ← render (String.ofList rest) values
        return String.ofList (text.toList.take n) ++ (value ++ filled) := by
  have hrender (text : String) : render text values = String.ofList <$> scan values text.toList :=
    (render_eq text values).trans (joined_parts values text.toList)
  refine ⟨hrender text, fun hnone => ?_, fun n name rest hopens hfirst => ?_⟩
  · rw [hrender, scan_of_no_token le_rfl fun i _ => hnone i, List.take_length, List.drop_length,
      scan]
    exact congrArg Except.ok (by simp)
  · have hn : n ≤ text.toList.length := by
      by_contra hlt
      rw [List.drop_eq_nil_of_le (by omega)] at hopens
      exact absurd hopens.1 (by simp)
    rw [hrender, hrender, scan_of_no_token hn hfirst, scan_of_opens hopens, String.toList_ofList]
    rcases lookUp values (String.ofList name) with e | value
    · rfl
    · rcases scan values rest with e | filled
      · rfl
      · exact congrArg Except.ok (by simp)

/-- A percent sign on another line closes no token, and one in a value opens none. -/
example : (scan [⟨"A", "%B%"⟩] "5%\n%A%B%".toList).toOption = some "5%\n%B%B%".toList := by
  decide +kernel

end ScriptKeeper.Template
