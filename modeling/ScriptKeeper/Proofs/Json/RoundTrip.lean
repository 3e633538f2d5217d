import Mathlib.Data.List.TakeWhile
import Mathlib.Tactic.Common
import ScriptKeeper.Json.Printer
import ScriptKeeper.Json.Reader

/-!
# Printed documents are read back

Reading a document that was printed gives the document again (`read?_pretty`), as long as all of its
parts denote something (`Plain`): the digits of a number end where the next part begins, a string
ends at the first quote that is not escaped, and the blanks between the parts are skipped.

* `readNumber_printNat`: numbers;
* `readString_printString`: strings, character by character;
* `reads_of_plain`: values, by induction on their parts.
-/

namespace ScriptKeeper.Json

/-! ### Numbers -/

/-- What comes next is no part of a number. -/
def Stops (rest : List Char) : Prop :=
  ∀ c ∈ rest.head?, c.isDigit = false ∧ c ≠ '.' ∧ c ≠ 'e' ∧ c ≠ 'E'

theorem stops_cons {c : Char} (h : c = ',' ∨ c = '\n') (rest : List Char) : Stops (c :: rest) := by
  intro c' hc'
  cases hc'
  rcases h with rfl | rfl <;> decide

theorem readDigits_append {digits rest : List Char} (hne : digits ≠ [])
    (hdigits : ∀ c ∈ digits, c.isDigit = true) (hrest : Stops rest) :
    readDigits (digits ++ rest) = some (digits, rest) := by
  have hnone : rest.takeWhile Char.isDigit = [] ∧ rest.dropWhile Char.isDigit = rest := by
    cases rest with
    | nil => exact ⟨rfl, rfl⟩
    | cons c rest =>
      have hc := (hrest c rfl).1
      rw [List.takeWhile_cons_of_neg (by simp [hc]), List.dropWhile_cons_of_neg (by simp [hc])]
      exact ⟨rfl, rfl⟩
  have htake : (digits ++ rest).takeWhile Char.isDigit = digits := by
    rw [List.takeWhile_append_of_pos hdigits, hnone.1, List.append_nil]
  have hdrop : (digits ++ rest).dropWhile Char.isDigit = rest := by
    rw [List.dropWhile_append_of_pos hdigits, hnone.2]
  rw [readDigits, htake, hdrop, if_neg (by simpa using hne)]

/-- Only zero is printed with a zero in front. -/
theorem eq_zero_of_head?_toDigits {n : Nat} (h : (Nat.toDigits 10 n).head? = some '0') : n = 0 := by
  induction n using Nat.strongRecOn with
  | ind n ih =>
  rw [Nat.toDigits_eq_if (by decide)] at h
  split at h
  · simpa using h
  · next hge =>
    have hhead : (Nat.toDigits 10 (n / 10)).head? = some '0' := by
      obtain ⟨d, ds, hd⟩ := List.exists_cons_of_ne_nil
        (Nat.toDigits_ne_nil (n := n / 10) (b := 10))
      rw [hd] at h ⊢
      exact h
    have hzero := ih (n / 10) (by omega) hhead
    omega

theorem isDigit_of_mem_printNat {n : Nat} {c : Char} (h : c ∈ printNat n) : c.isDigit = true :=
  Nat.isDigit_of_mem_toDigits (by decide) (by decide) h

/-- The first character of a number. -/
theorem exists_printNat (n : Nat) : ∃ d ds, printNat n = d :: ds ∧ d.isDigit = true := by
  obtain ⟨d, ds, hn⟩ := List.exists_cons_of_ne_nil (Nat.toDigits_ne_nil (n := n) (b := 10))
  exact ⟨d, ds, hn, isDigit_of_mem_printNat (n := n) (by rw [printNat, hn]; simp)⟩

theorem readNumber_printNat (n : Nat) {rest : List Char} (hrest : Stops rest) :
    readNumber (printNat n ++ rest) = some (.natural n, rest) := by
  obtain ⟨d, ds, hn, hd⟩ := exists_printNat n
  have hsign : ((printNat n ++ rest).head? == some '-') = false := by
    rw [hn, List.cons_append, List.head?_cons]
    have : d ≠ '-' := by rintro rfl; revert hd; decide
    simpa using this
  have hdigits : readDigits (printNat n ++ rest) = some (printNat n, rest) :=
    readDigits_append (by rw [hn]; simp) (fun c hc => isDigit_of_mem_printNat hc) hrest
  have hzero : ¬ ((printNat n).head? = some '0' ∧ (printNat n).length ≠ 1) := by
    rintro ⟨hhead, hlength⟩
    obtain rfl := eq_zero_of_head?_toDigits hhead
    exact hlength rfl
  have hfraction : readFraction rest = some ([], rest) := by
    cases rest with
    | nil => rfl
    | cons c rest =>
      have hc := (hrest c rfl).2.1
      rw [readFraction]
      rintro _ ⟨⟩
      exact hc rfl
  have hexponent : readExponent rest = some ([], rest) := by
    cases rest with
    | nil => rfl
    | cons c rest =>
      have hc := (hrest c rfl).2.2
      simp [readExponent, hc]
  have hvalue : natOfDigits (printNat n) = n := Nat.ofDigitChars_ten_toDigits
  simp only [readNumber, hsign, Bool.false_eq_true, if_false, hdigits, Option.bind_eq_bind,
    Option.bind_some, if_neg hzero, hfraction, hexponent]
  simp [hvalue]

/-! ### Strings -/

theorem hexValue?_hexDigit {n : Nat} (h : n < 16) : hexValue? (hexDigit n) = some n := by
  have hall : ∀ n < 16, hexValue? (hexDigit n) = some n := by decide
  exact hall n h

/-- A character that is written in a string is read as itself. -/
theorem readStringFrom_escapeChar (fuel : Nat) (c : Char) (text rest : List Char) :
    readStringFrom (fuel + 1) (some text) (escapeChar c ++ rest) =
      readStringFrom fuel (some (c :: text)) rest := by
  rw [escapeChar]
  split
  next h => subst h; rfl
  split
  next h => subst h; rfl
  split
  next h => subst h; rfl
  split
  next h => subst h; rfl
  split
  next h => subst h; rfl
  split
  next h => subst h; rfl
  split
  next h => subst h; rfl
  split
  next hcontrol =>
    -- Below 0x20, two hexadecimal digits give the code back.
    have hhigh := hexValue?_hexDigit (n := c.toNat / 16) (by omega)
    have hlow := hexValue?_hexDigit (n := c.toNat % 16) (by omega)
    have hunit : ((0 * 16 + 0) * 16 + c.toNat / 16) * 16 + c.toNat % 16 = c.toNat := by omega
    have hread : readUnit ('0' :: '0' :: hexDigit (c.toNat / 16) :: hexDigit (c.toNat % 16) ::
        rest) = some (c.toNat, rest) := by
      have hzero : hexValue? '0' = some 0 := by decide
      simp only [readUnit, hzero, hhigh, hlow, Option.bind_eq_bind, Option.bind_some, hunit]
      rfl
    have hunits : readUnits ('0' :: '0' :: hexDigit (c.toNat / 16) :: hexDigit (c.toNat % 16) ::
        rest) = some (some c, rest) := by
      rw [readUnits, hread, Option.bind_eq_bind, Option.bind_some]
      dsimp only
      rw [if_neg (by omega), if_neg (by omega), Char.ofNat_toNat]
      rfl
    have hstep (cs : List Char) : readStringFrom (fuel + 1) (some text) ('\\' :: 'u' :: cs) =
        (readUnits cs).bind fun x =>
          readStringFrom fuel (x.1.bind fun unit => some (unit :: text)) x.2 := rfl
    simp only [List.cons_append, List.nil_append]
    rw [hstep, hunits]
    rfl
  next hquote hbackslash _ _ _ _ _ hcontrol =>
    rw [List.cons_append, List.nil_append, readStringFrom.eq_def]
    dsimp only
    rw [if_neg hquote, if_neg hbackslash, if_neg hcontrol]
    rfl

theorem readStringFrom_flatMap (cs text rest : List Char) {fuel : Nat} (h : cs.length < fuel) :
    readStringFrom fuel (some text) (cs.flatMap escapeChar ++ '"' :: rest) =
      some (some (String.ofList (text.reverse ++ cs)), rest) := by
  induction cs generalizing text fuel with
  | nil =>
    obtain ⟨fuel, rfl⟩ := Nat.exists_eq_add_of_lt h
    simp [readStringFrom]
  | cons c cs ih =>
    cases fuel with
    | zero => cases h
    | succ fuel =>
      rw [List.flatMap_cons, List.append_assoc, readStringFrom_escapeChar, ih _ (by simpa using h)]
      simp

theorem length_le_flatMap_escapeChar (cs : List Char) :
    cs.length ≤ (cs.flatMap escapeChar).length := by
  induction cs with
  | nil => exact Nat.le_refl _
  | cons c cs ih =>
    have hc : 1 ≤ (escapeChar c).length := by
      rw [escapeChar]
      repeat' split
      all_goals exact Nat.succ_le_succ (Nat.zero_le _)
    rw [List.flatMap_cons, List.length_append, List.length_cons]
    omega

theorem printString_append (s : String) (rest : List Char) :
    printString s ++ rest = '"' :: (s.toList.flatMap escapeChar ++ '"' :: rest) := by
  simp [printString]

/-- A string is read as the text that was printed. -/
theorem readString_printString (s : String) (rest : List Char) :
    readString (s.toList.flatMap escapeChar ++ '"' :: rest) = some (some s, rest) := by
  have hfuel : s.toList.length < (s.toList.flatMap escapeChar ++ '"' :: rest).length + 1 := by
    have hle := length_le_flatMap_escapeChar s.toList
    rw [List.length_append]
    omega
  rw [readString, readStringFrom_flatMap _ _ _ hfuel, List.reverse_nil, List.nil_append,
    String.ofList_toList]

/-! ### Values -/

/-- All parts of the document denote something: numbers are natural, and all strings are texts. -/
inductive Plain : Json → Prop
  | null : Plain .null
  | bool (b : Bool) : Plain (.bool b)
  | natural (n : Nat) : Plain (.natural n)
  | string (s : String) : Plain (.string s)
  | array {items : List Json} : (∀ j ∈ items, Plain j) → Plain (.array items)
  | object {members : List (String × Json)} : (∀ m ∈ members, Plain m.2) → Plain (.object members)

/-- The document is read back from what is printed, at any depth, before anything that does not go
    on with a number. As many parts may be read as there are characters. -/
def Reads (j : Json) : Prop :=
  ∀ depth fuel rest, (printPretty depth j).length ≤ fuel → Stops rest →
    readExpected fuel .value (printPretty depth j ++ rest) = some (j, rest)

/-- What is printed begins with a character that is neither a blank nor the end of an array. -/
theorem exists_printPretty {j : Json} (h : j.Plain) (depth : Nat) :
    ∃ c cs, printPretty depth j = c :: cs ∧ isSpace c = false ∧ c ≠ ']' := by
  cases h with
  | null => exact ⟨'n', "ull".toList, by rw [printPretty]; rfl, by decide, by decide⟩
  | bool b =>
    cases b with
    | true => exact ⟨'t', "rue".toList, by rw [printPretty]; rfl, by decide, by decide⟩
    | false => exact ⟨'f', "alse".toList, by rw [printPretty]; rfl, by decide, by decide⟩
  | natural n =>
    obtain ⟨d, ds, hn, hd⟩ := exists_printNat n
    refine ⟨d, ds, by rw [printPretty, hn], ?_, by rintro rfl; revert hd; decide⟩
    simp only [isSpace, Bool.or_eq_false_iff, decide_eq_false_iff_not]
    refine ⟨⟨⟨?_, ?_⟩, ?_⟩, ?_⟩ <;> (rintro rfl; revert hd; decide)
  | string s =>
    exact ⟨'"', s.toList.flatMap escapeChar ++ ['"'], by rw [printPretty]; rfl, by decide,
      by decide⟩
  | @array items _ =>
    cases items with
    | nil => exact ⟨'[', _, by rw [printPretty], by decide, by decide⟩
    | cons => exact ⟨'[', _, by rw [printPretty]; rfl, by decide, by decide⟩
  | @object members _ =>
    rcases members with _ | ⟨⟨name, value⟩, members⟩
    · exact ⟨'\x7b', _, by rw [printPretty], by decide, by decide⟩
    · exact ⟨'\x7b', _, by rw [printPretty]; rfl, by decide, by decide⟩

theorem skipSpace_cons {c : Char} (h : isSpace c = false) (cs : List Char) :
    skipSpace (c :: cs) = c :: cs := by
  rw [skipSpace, List.dropWhile_cons_of_neg (by simp [h])]

theorem skipSpace_indentation (depth : Nat) (cs : List Char) :
    skipSpace (indentation depth ++ cs) = skipSpace cs := by
  rw [skipSpace, List.dropWhile_append_of_pos, skipSpace]
  intro c hc
  rcases List.mem_cons.1 hc with rfl | hc
  · decide
  · rw [(List.mem_replicate.1 hc).2]
    decide

theorem skipSpace_printPretty {j : Json} (h : j.Plain) (depth : Nat) (rest : List Char) :
    skipSpace (printPretty depth j ++ rest) = printPretty depth j ++ rest := by
  obtain ⟨c, cs, hc, hspace, _⟩ := exists_printPretty h depth
  rw [hc, List.cons_append, skipSpace_cons hspace]

/-- Blanks before a value are skipped. -/
theorem readExpected_of_skipSpace (fuel : Nat) {cs cs' : List Char}
    (h : skipSpace cs = skipSpace cs') :
    readExpected fuel .value cs = readExpected fuel .value cs' := by
  cases fuel with
  | zero => rfl
  | succ fuel => rw [readExpected.eq_def, readExpected.eq_def]; dsimp only; rw [h]

/-- A part with an indentation before it is read as without one. -/
theorem Reads.indented {j : Json} (h : j.Reads) {fuel : Nat} (depth : Nat) (rest : List Char)
    (hfuel : (printPretty depth j).length ≤ fuel) (hrest : Stops rest) :
    readExpected fuel .value (indentation depth ++ (printPretty depth j ++ rest)) =
      some (j, rest) := by
  rw [readExpected_of_skipSpace fuel (skipSpace_indentation depth _), h depth fuel rest hfuel hrest]

/-! ### Arrays -/

theorem stops_items (depth : Nat) (items : List Json) (rest : List Char) :
    Stops (printPrettyItems (depth + 1) items ++ (indentation depth ++ rest)) := by
  cases items with
  | nil => exact stops_cons (.inr rfl) _
  | cons => exact stops_cons (.inl rfl) _

/-- The items of an array after those that have been read. -/
theorem readExpected_items {items : List Json} (hreads : ∀ j ∈ items, j.Reads) (read : List Json)
    (depth : Nat) {fuel : Nat} (rest : List Char)
    (hfuel : (printPrettyItems (depth + 1) items).length < fuel) :
    readExpected fuel (.items read)
      (printPrettyItems (depth + 1) items ++ (indentation depth ++ ']' :: rest)) =
        some (.array (read.reverse ++ items), rest) := by
  induction items generalizing read fuel with
  | nil =>
    cases fuel with
    | zero => cases hfuel
    | succ fuel =>
      rw [printPrettyItems, List.nil_append, readExpected.eq_def]
      dsimp only
      rw [skipSpace_indentation, skipSpace_cons (by decide), List.append_nil]
      rfl
  | cons item items ih =>
    cases fuel with
    | zero => cases hfuel
    | succ fuel =>
      have hcomma (cs : List Char) : readExpected (fuel + 1) (.items read) (',' :: cs) =
          (readExpected fuel .value cs).bind fun x =>
            readExpected fuel (.items (x.1 :: read)) x.2 := rfl
      simp only [printPrettyItems, List.cons_append, List.append_assoc, List.length_cons,
        List.length_append] at hfuel ⊢
      rw [hcomma, (hreads item List.mem_cons_self).indented (depth + 1) _ (by omega)
        (stops_items depth items _), Option.bind_some,
        ih (fun j hj => hreads j (List.mem_cons_of_mem _ hj)) _ (by omega)]
      simp

theorem readExpected_bracket (fuel : Nat) (cs : List Char) :
    readExpected (fuel + 1) .value ('[' :: cs) =
      match skipSpace cs with
      | ']' :: rest => some (.array [], rest)
      | rest => (readExpected fuel .value rest).bind fun x =>
        readExpected fuel (.items [x.1]) x.2 := rfl

theorem reads_array {items : List Json} (hplain : ∀ j ∈ items, j.Plain)
    (hreads : ∀ j ∈ items, j.Reads) : (Json.array items).Reads := by
  intro depth fuel rest hfuel _
  cases items with
  | nil =>
    cases fuel with
    | zero => simp [printPretty] at hfuel
    | succ fuel => rw [printPretty]; rfl
  | cons item items =>
    cases fuel with
    | zero => simp [printPretty] at hfuel
    | succ fuel =>
      have hitem := hplain item List.mem_cons_self
      -- The first item is no end of the array.
      have hbracket (cs : List Char) :
          readExpected (fuel + 1) .value ('[' :: (indentation (depth + 1) ++
            (printPretty (depth + 1) item ++ cs))) =
          (readExpected fuel .value (printPretty (depth + 1) item ++ cs)).bind fun x =>
            readExpected fuel (.items [x.1]) x.2 := by
        obtain ⟨c, cs', hc, _, hne⟩ := exists_printPretty hitem (depth + 1)
        rw [readExpected_bracket, skipSpace_indentation, skipSpace_printPretty hitem, hc, List.cons_append]
        split
        next heq => cases heq; exact absurd rfl hne
        next => rfl
      simp only [printPretty, List.cons_append, List.append_assoc, List.length_cons,
        List.length_append, List.nil_append] at hfuel ⊢
      rw [hbracket, hreads item List.mem_cons_self _ _ _ (by omega) (stops_items depth items _),
        Option.bind_some, readExpected_items (fun j hj => hreads j (List.mem_cons_of_mem _ hj)) _ _
          _ (by omega)]
      rfl

/-! ### Objects -/

/-- What is left to read of an object when the opening quote of a name has been read: the name, its
    value, and what is expected after them. -/
def readMember (fuel : Nat) (next : Option String → Json → Expected) (cs : List Char) :
    Option (Json × List Char) :=
  (readString cs).bind fun (name, rest) =>
    match skipSpace rest with
    | ':' :: rest => (readExpected fuel .value rest).bind fun (value, rest) =>
      readExpected fuel (next name value) rest
    | _ => none

theorem readMember_print {value : Json} (hreads : value.Reads) {fuel : Nat}
    (next : Option String → Json → Expected) (name : String) (depth : Nat) {rest : List Char}
    (hfuel : (printPretty depth value).length ≤ fuel) (hrest : Stops rest) :
    readMember fuel next (name.toList.flatMap escapeChar ++
      '"' :: ':' :: ' ' :: (printPretty depth value ++ rest)) =
        readExpected fuel (next (some name) value) rest := by
  have hblank (cs : List Char) : skipSpace (' ' :: cs) = skipSpace cs := rfl
  rw [readMember, readString_printString, Option.bind_some]
  dsimp only
  rw [skipSpace_cons (by decide)]
  change (readExpected fuel .value (' ' :: (printPretty depth value ++ rest))).bind _ = _
  rw [readExpected_of_skipSpace fuel (hblank _), hreads depth fuel rest hfuel hrest,
    Option.bind_some]

theorem stops_members (depth : Nat) (members : List (String × Json)) (rest : List Char) :
    Stops (printPrettyMembers (depth + 1) members ++ (indentation depth ++ rest)) := by
  cases members with
  | nil => exact stops_cons (.inr rfl) _
  | cons m members =>
    obtain ⟨name, value⟩ := m
    rw [printPrettyMembers]
    exact stops_cons (.inl rfl) _

/-- The members of an object after those that have been read. -/
theorem readExpected_comma (fuel : Nat) (read : List (String × Json)) (cs : List Char) :
    readExpected (fuel + 1) (.members (some read)) (',' :: cs) =
      match skipSpace cs with
      | '"' :: cs => readMember fuel (fun name value => .members (name.bind fun name =>
          some ((name, value) :: read))) cs
      | _ => none := rfl

theorem readExpected_members {members : List (String × Json)} (hreads : ∀ m ∈ members, m.2.Reads)
    (read : List (String × Json)) (depth : Nat) {fuel : Nat} (rest : List Char)
    (hfuel : (printPrettyMembers (depth + 1) members).length < fuel) :
    readExpected fuel (.members (some read))
      (printPrettyMembers (depth + 1) members ++ (indentation depth ++ '\x7d' :: rest)) =
        some (.object (read.reverse ++ members), rest) := by
  induction members generalizing read fuel with
  | nil =>
    cases fuel with
    | zero => cases hfuel
    | succ fuel =>
      rw [printPrettyMembers, List.nil_append, readExpected.eq_def]
      dsimp only
      rw [skipSpace_indentation, skipSpace_cons (by decide), List.append_nil]
      rfl
  | cons m members ih =>
    obtain ⟨name, value⟩ := m
    cases fuel with
    | zero => cases hfuel
    | succ fuel =>
      have hcomma (cs : List Char) : readExpected (fuel + 1) (.members (some read))
          (',' :: (indentation (depth + 1) ++ '"' :: cs)) =
            readMember fuel (fun name value => .members (name.bind fun name =>
              some ((name, value) :: read))) cs := by
        rw [readExpected_comma, skipSpace_indentation, skipSpace_cons (by decide)]
        rfl
      have hvalue : value.Reads := hreads (name, value) List.mem_cons_self
      simp only [printPrettyMembers, List.cons_append, List.append_assoc, List.length_cons,
        List.length_append, printString_append, List.nil_append] at hfuel ⊢
      rw [hcomma, readMember_print hvalue _ name (depth + 1) (by omega)
        (stops_members depth members _), Option.bind_some,
        ih (fun m hm => hreads m (List.mem_cons_of_mem _ hm)) _ (by omega)]
      simp

theorem readExpected_brace (fuel : Nat) (cs : List Char) :
    readExpected (fuel + 1) .value ('\x7b' :: cs) =
      match skipSpace cs with
      | '\x7d' :: rest => some (.object [], rest)
      | '"' :: cs => readMember fuel (fun name value => .members (name.map fun name =>
          [(name, value)])) cs
      | _ => none := rfl

theorem reads_object {members : List (String × Json)} (hreads : ∀ m ∈ members, m.2.Reads) :
    (Json.object members).Reads := by
  intro depth fuel rest hfuel _
  rcases members with _ | ⟨⟨name, value⟩, members⟩
  · cases fuel with
    | zero => simp [printPretty] at hfuel
    | succ fuel => rw [printPretty]; rfl
  · cases fuel with
    | zero => simp [printPretty] at hfuel
    | succ fuel =>
      have hbrace (cs : List Char) : readExpected (fuel + 1) .value
          ('\x7b' :: (indentation (depth + 1) ++ '"' :: cs)) =
            readMember fuel (fun name value => .members (name.map fun name => [(name, value)]))
              cs := by
        rw [readExpected_brace, skipSpace_indentation, skipSpace_cons (by decide)]
        rfl
      have hvalue : value.Reads := hreads (name, value) List.mem_cons_self
      simp only [printPretty, List.cons_append, List.append_assoc, List.length_cons,
        List.length_append, printString_append, List.nil_append] at hfuel ⊢
      rw [hbrace, readMember_print hvalue _ name (depth + 1) (by omega)
        (stops_members depth members _), Option.map_some,
        readExpected_members (fun m hm => hreads m (List.mem_cons_of_mem _ hm)) _ _ _ (by omega)]
      rfl

/-! ### Documents -/

theorem reads_natural (n : Nat) : (Json.natural n).Reads := by
  intro depth fuel rest hfuel hrest
  obtain ⟨d, ds, hn, hd⟩ := exists_printNat n
  cases fuel with
  | zero => simp [printPretty, hn] at hfuel
  | succ fuel =>
    rw [readExpected.eq_def]
    dsimp only
    rw [skipSpace_printPretty (.natural n), printPretty, ← readNumber_printNat n hrest, hn,
      List.cons_append]
    -- A digit begins nothing but a number.
    split
    all_goals first
      | rfl
      | next heq => cases heq; exact absurd hd (by decide)

theorem reads_string (s : String) : (Json.string s).Reads := by
  intro depth fuel rest hfuel hrest
  cases fuel with
  | zero => simp [printPretty, printString] at hfuel
  | succ fuel =>
    have hquote (cs : List Char) : readExpected (fuel + 1) .value ('"' :: cs) =
        (readString cs).bind fun (s, rest) => some ((s.map Json.string).getD .illFormed, rest) :=
      rfl
    rw [printPretty, printString_append, hquote, readString_printString]
    rfl

theorem reads_of_plain {j : Json} (h : j.Plain) : j.Reads := by
  induction h with
  | array hplain ih => exact reads_array hplain ih
  | object _ ih => exact reads_object ih
  | natural n => exact reads_natural n
  | string s => exact reads_string s
  | null =>
    intro depth fuel rest hfuel _
    cases fuel with
    | zero => cases hfuel
    | succ fuel => rfl
  | bool b =>
    intro depth fuel rest hfuel _
    cases fuel with
    | zero => cases b <;> cases hfuel
    | succ fuel => cases b <;> rfl

/-- A document that was printed, with blanks behind it, is read as itself. -/
theorem read?_pretty {j : Json} (h : j.Plain) {blanks : String}
    (hblanks : blanks.toList.all isSpace = true) (hstops : Stops blanks.toList) :
    read? (j.pretty ++ blanks) = some j := by
  have htext : (j.pretty ++ blanks).toList = printPretty 0 j ++ blanks.toList := by
    rw [String.toList_append, pretty, String.toList_ofList]
  have hskip : skipSpace blanks.toList = [] := by
    rw [skipSpace, List.dropWhile_eq_nil_iff]
    simpa using hblanks
  rw [read?, htext]
  dsimp only
  rw [reads_of_plain h 0 _ _ (by rw [List.length_append]; omega) hstops, Option.bind_eq_bind,
    Option.bind_some]
  dsimp only
  rw [hskip]
  rfl

end ScriptKeeper.Json
