import Mathlib.Data.List.Basic
import Mathlib.Tactic.Common
import ScriptKeeper.Text.LineEnding

/-!
# Lines and their endings

Characters split into lines in one way only (`splitsInto_iff`): a line goes on up to the next line
ending, and a carriage return before a newline is no ending of its own. Replacing the line endings
joins the lines with the new one (`SplitsInto.replaceEndings_eq`), so all that is to be known of
normalised texts can be said of their lines.

* `splitsInto_intercalate`: lines joined with a line ending split into the same lines again;
* `isNormalized_iff`: a text that is found to be normalised is one that has the form already;
* `replaceEndings_append`: texts are normalised one by one, unless a line ending runs from one into
  the other;
* `normalize_canonical`: all of it for texts.
-/

namespace ScriptKeeper.Text

variable {newline cs ds rest line ending : List Char} {lines : List (List Char)}

/-! ### Lines -/

/-- Characters without a line ending. -/
def Unbroken (cs : List Char) : Prop := '\r' ∉ cs ∧ '\n' ∉ cs

/-- Whether `ending` ends a line if `rest` comes behind it. Before a newline, a carriage return is
    only a part of the ending. -/
def EndsLine (ending rest : List Char) : Prop :=
  ending = ['\r', '\n'] ∨ ending = ['\n'] ∨ ending = ['\r'] ∧ rest.head? ≠ some '\n'

/-- Characters split into lines at the line endings. -/
inductive SplitsInto : List Char → List (List Char) → Prop
  | last {line : List Char} : Unbroken line → SplitsInto line [line]
  | ended {line ending rest : List Char} {lines : List (List Char)} :
      Unbroken line → EndsLine ending rest → SplitsInto rest lines →
      SplitsInto (line ++ (ending ++ rest)) (line :: lines)

/-- The lines of characters. -/
def linesOf : List Char → List (List Char)
  | [] => [[]]
  | '\r' :: '\n' :: rest => [] :: linesOf rest
  | '\r' :: rest => [] :: linesOf rest
  | '\n' :: rest => [] :: linesOf rest
  | c :: rest => (linesOf rest).modifyHead (c :: ·)

theorem unbroken_nil : Unbroken [] := by simp [Unbroken]

theorem unbroken_cons {c : Char} : Unbroken (c :: cs) ↔ (c ≠ '\r' ∧ c ≠ '\n') ∧ Unbroken cs := by
  simp only [Unbroken, List.mem_cons, not_or, ne_eq, eq_comm (a := c)]
  tauto

theorem linesOf_return (h : rest.head? ≠ some '\n') :
    linesOf ('\r' :: rest) = [] :: linesOf rest := by
  rcases rest with _ | ⟨c, rest⟩
  · rfl
  · exact linesOf.eq_3 _ (by simpa using h)

theorem linesOf_cons {c : Char} (hc : c ≠ '\r' ∧ c ≠ '\n') :
    linesOf (c :: cs) = (linesOf cs).modifyHead (c :: ·) :=
  linesOf.eq_5 _ _ (by simp [hc.1]) hc.1 hc.2

/-- Without a line ending there is only one line. -/
theorem linesOf_of_unbroken (h : Unbroken line) : linesOf line = [line] := by
  induction line with
  | nil => rfl
  | cons c line ih =>
    obtain ⟨hc, hline⟩ := unbroken_cons.1 h
    rw [linesOf_cons hc, ih hline, List.modifyHead_cons]

/-- A line that is ended comes before the lines of what is behind its ending. -/
theorem linesOf_ended (h : Unbroken line) (he : EndsLine ending rest) :
    linesOf (line ++ (ending ++ rest)) = line :: linesOf rest := by
  induction line with
  | nil =>
    rcases he with rfl | rfl | ⟨rfl, hrest⟩
    · rfl
    · rfl
    · exact linesOf_return hrest
  | cons c line ih =>
    obtain ⟨hc, hline⟩ := unbroken_cons.1 h
    rw [List.cons_append, linesOf_cons hc, ih hline, List.modifyHead_cons]

/-- One more character on the first line. -/
theorem SplitsInto.cons {c : Char} (hc : c ≠ '\r' ∧ c ≠ '\n') (h : SplitsInto cs lines) :
    SplitsInto (c :: cs) (lines.modifyHead (c :: ·)) := by
  rcases h with hline | ⟨hline, he, hrest⟩
  · exact .last (unbroken_cons.2 ⟨hc, hline⟩)
  · exact .ended (unbroken_cons.2 ⟨hc, hline⟩) he hrest

theorem splitsInto_linesOf (cs : List Char) : SplitsInto cs (linesOf cs) := by
  fun_induction linesOf cs with
  | case1 => exact .last unbroken_nil
  | case2 rest ih => exact .ended unbroken_nil (.inl rfl) ih
  | case3 rest hrest ih =>
    refine .ended unbroken_nil (.inr (.inr ⟨rfl, ?_⟩)) ih
    intro hhead
    obtain ⟨rest', rfl⟩ := List.head?_eq_some_iff.1 hhead
    exact hrest rest' rfl
  | case4 rest ih => exact .ended unbroken_nil (.inr (.inl rfl)) ih
  | case5 c rest _ hr hn ih => exact ih.cons ⟨hr, hn⟩

/-- There is one way to split characters into lines. -/
theorem splitsInto_iff : SplitsInto cs lines ↔ lines = linesOf cs := by
  constructor
  · intro h
    induction h with
    | last hline => exact (linesOf_of_unbroken hline).symm
    | ended hline he _ ih => rw [linesOf_ended hline he, ih]
  · rintro rfl
    exact splitsInto_linesOf cs

theorem SplitsInto.ne_nil (h : SplitsInto cs lines) : lines ≠ [] := by
  rcases h with _ | _ <;> simp

theorem SplitsInto.unbroken (h : SplitsInto cs lines) : ∀ line ∈ lines, Unbroken line := by
  induction h with
  | last hline => simpa using hline
  | ended hline _ _ ih => exact List.forall_mem_cons.2 ⟨hline, ih⟩

theorem mem_of_mem_intercalate {c : Char} (h : c ∈ newline.intercalate lines) :
    c ∈ newline ∨ ∃ line ∈ lines, c ∈ line := by
  induction lines with
  | nil => simp at h
  | cons line lines ih =>
    rcases lines with _ | ⟨next, lines⟩
    · exact .inr ⟨line, by simp, by simpa using h⟩
    · rw [List.intercalate_cons_cons, List.mem_append, List.mem_append] at h
      rcases h with (h | h) | h
      · exact .inr ⟨line, by simp, h⟩
      · exact .inl h
      · rcases ih h with h | ⟨l, hl, hc⟩
        · exact .inl h
        · exact .inr ⟨l, List.mem_cons_of_mem _ hl, hc⟩

/-- The three line endings. -/
def endings : List String := ["\n", "\r\n", "\r"]

/-- Lines that are joined with a line ending split into the same lines again. -/
theorem splitsInto_intercalate {ending : String} (he : ending ∈ endings) (hne : lines ≠ [])
    (h : ∀ line ∈ lines, Unbroken line) : SplitsInto (ending.toList.intercalate lines) lines := by
  induction lines with
  | nil => exact absurd rfl hne
  | cons line lines ih =>
    obtain ⟨hline, hlines⟩ := List.forall_mem_cons.1 h
    rcases lines with _ | ⟨next, lines⟩
    · rw [List.intercalate_singleton]
      exact .last hline
    · rw [List.intercalate_cons_cons, List.append_assoc]
      refine .ended hline ?_ (ih (by simp) hlines)
      simp only [endings, List.mem_cons, List.not_mem_nil, or_false] at he
      rcases he with rfl | rfl | rfl
      · exact .inr (.inl rfl)
      · exact .inl rfl
      · -- Behind a carriage return there is a line or another one, but no newline.
        refine .inr (.inr ⟨rfl, fun hhead => ?_⟩)
        rcases mem_of_mem_intercalate (List.mem_of_head? hhead) with hmem | ⟨l, hl, hmem⟩
        · simp at hmem
        · exact (hlines l hl).2 hmem

/-! ### Replacing the endings -/

theorem replaceEndings_return (h : rest.head? ≠ some '\n') :
    replaceEndings newline ('\r' :: rest) = newline ++ replaceEndings newline rest := by
  rcases rest with _ | ⟨c, rest⟩
  · rfl
  · exact replaceEndings.eq_3 _ _ (by simpa using h)

theorem replaceEndings_cons {c : Char} (hc : c ≠ '\r' ∧ c ≠ '\n') :
    replaceEndings newline (c :: cs) = c :: replaceEndings newline cs :=
  replaceEndings.eq_5 _ _ _ (by simp [hc.1]) hc.1 hc.2

/-- The endings in two parts are replaced one by one, unless an ending begins in the first and ends
    in the second. -/
theorem replaceEndings_append (h : ¬ (cs.getLast? = some '\r' ∧ ds.head? = some '\n')) :
    replaceEndings newline (cs ++ ds) =
      replaceEndings newline cs ++ replaceEndings newline ds := by
  have hbehind {c : Char} {rest : List Char}
      (h : ¬ ((c :: rest).getLast? = some '\r' ∧ ds.head? = some '\n')) :
      ¬ (rest.getLast? = some '\r' ∧ ds.head? = some '\n') := by
    rintro ⟨hlast, hhead⟩
    exact h ⟨by rw [List.getLast?_cons, hlast, Option.getD_some], hhead⟩
  fun_induction replaceEndings newline cs with
  | case1 => rfl
  | case2 rest ih =>
    rw [List.cons_append, List.cons_append, replaceEndings, ih (hbehind (hbehind h)),
      List.append_assoc]
  | case3 rest hrest ih =>
    have hnext : (rest ++ ds).head? ≠ some '\n' := by
      rcases rest with _ | ⟨c, rest⟩
      · exact fun hhead => h ⟨rfl, hhead⟩
      · simpa using hrest
    rw [List.cons_append, replaceEndings_return hnext, ih (hbehind h), List.append_assoc]
  | case4 rest ih => rw [List.cons_append, replaceEndings, ih (hbehind h), List.append_assoc]
  | case5 c rest _ hr hn ih =>
    rw [List.cons_append, replaceEndings_cons ⟨hr, hn⟩, ih (hbehind h), List.cons_append]

/-- Replacing the endings joins the lines with the new one. -/
theorem SplitsInto.replaceEndings_eq (h : SplitsInto cs lines) :
    replaceEndings newline cs = newline.intercalate lines := by
  induction h with
  | last hline => rw [replaceEndings_of_not_mem hline.1 hline.2, List.intercalate_singleton]
  | @ended line ending rest lines hline he hrest ih =>
    have hending : replaceEndings newline ending = newline := by
      rcases he with rfl | rfl | ⟨rfl, _⟩ <;> exact List.append_nil newline
    have hline' : line.getLast? ≠ some '\r' := fun hlast => hline.1 (List.mem_of_getLast? hlast)
    have hnext : ¬ (ending.getLast? = some '\r' ∧ rest.head? = some '\n') := by
      rcases he with rfl | rfl | ⟨_, hhead⟩
      · simp
      · simp
      · exact fun hboth => hhead hboth.2
    rw [replaceEndings_append (fun hboth => hline' hboth.1), replaceEndings_append hnext, ih,
      replaceEndings_of_not_mem hline.1 hline.2, hending,
      List.intercalate_cons_of_ne_nil hrest.ne_nil, List.append_assoc]

/-- The endings are all of the one kind afterwards, so the lines are the same. -/
theorem linesOf_replaceEndings {ending : String} (he : ending ∈ endings) (cs : List Char) :
    linesOf (replaceEndings ending.toList cs) = linesOf cs := by
  have h := splitsInto_linesOf cs
  rw [h.replaceEndings_eq]
  exact (splitsInto_iff.1 (splitsInto_intercalate he h.ne_nil h.unbroken)).symm

/-! ### Normalised texts -/

/-- Newlines alone are the endings exactly if there is no carriage return. -/
theorem return_not_mem_iff : '\r' ∉ cs ↔ replaceEndings ['\n'] cs = cs := by
  constructor
  · intro h
    fun_induction replaceEndings ['\n'] cs with
    | case1 => rfl
    | case2 | case3 => simp at h
    | case4 rest ih => rw [ih (by simpa using h), List.singleton_append]
    | case5 c rest _ _ _ ih => rw [ih fun hmem => h (List.mem_cons_of_mem c hmem)]
  · intro h hmem
    have hlines := splitsInto_linesOf cs
    rw [← h, hlines.replaceEndings_eq] at hmem
    rcases mem_of_mem_intercalate hmem with hmem | ⟨line, hline, hmem⟩
    · simp at hmem
    · exact (hlines.unbroken line hline).1 hmem

theorem endingsPaired_cons {c : Char} (hc : c ≠ '\r' ∧ c ≠ '\n') :
    endingsPaired false (c :: cs) = endingsPaired false cs := by
  rw [endingsPaired, bne_iff_ne.2 hc.2, beq_false_of_ne hc.1, Bool.true_and]

/-- Pairs of a carriage return and a newline are the endings exactly if neither stands alone. -/
theorem endingsPaired_iff :
    endingsPaired false cs = true ↔ replaceEndings ['\r', '\n'] cs = cs := by
  have hreplaced (cs : List Char) :
      endingsPaired false (replaceEndings ['\r', '\n'] cs) = true := by
    fun_induction replaceEndings ['\r', '\n'] cs with
    | case1 => rfl
    | case2 rest ih => exact ih
    | case3 rest _ ih => exact ih
    | case4 rest ih => exact ih
    | case5 c rest _ hr hn ih => exact (endingsPaired_cons ⟨hr, hn⟩).trans ih
  constructor
  · intro h
    fun_induction replaceEndings ['\r', '\n'] cs with
    | case1 => rfl
    | case2 rest ih => rw [ih h, List.cons_append, List.singleton_append]
    | case3 rest hrest ih =>
      -- The character behind the carriage return would have to be a newline.
      rcases rest with _ | ⟨c, rest⟩
      · cases h
      · have hpair : endingsPaired true (c :: rest) = true := h
        rw [endingsPaired, Bool.and_eq_true, beq_iff_eq] at hpair
        exact absurd (by rw [hpair.1]) (hrest rest)
    | case4 rest ih => cases h
    | case5 c rest _ hr hn ih => rw [ih ((endingsPaired_cons ⟨hr, hn⟩).symm.trans h)]
  · intro h
    rw [← h]
    exact hreplaced cs

/-- A text is found to be normalised exactly if the ending is one of two, and replacing the endings
    changes nothing. -/
theorem isNormalized_iff {newline text : String} : isNormalized newline text = true ↔
    (newline = "\n" ∨ newline = "\r\n") ∧
      replaceEndings newline.toList text.toList = text.toList := by
  rw [isNormalized]
  split
  next hnewline =>
    subst hnewline
    have hcontains := @return_not_mem_iff text.toList
    simpa using hcontains
  next hnewline =>
  split
  next hpair =>
    subst hpair
    have hpaired := @endingsPaired_iff text.toList
    simpa using hpaired
  next hpair => simp [hnewline, hpair]

/-! ### Texts -/

/-- The lines of a text. -/
def logicalLines (text : String) : List String := (linesOf text.toList).map String.ofList

theorem replaceEndings_eq_intercalate (newline text : String) :
    String.ofList (replaceEndings newline.toList text.toList) =
      newline.intercalate (logicalLines text) := by
  rw [← String.toList_inj, String.toList_ofList, String.toList_intercalate,
    (splitsInto_linesOf text.toList).replaceEndings_eq, logicalLines, List.map_map]
  congr 1
  simp

/-- Whether it is found to be normalised or not, a text is normalised by replacing its endings. -/
theorem normalize_eq (newline text : String) :
    normalize newline text = String.ofList (replaceEndings newline.toList text.toList) := by
  rw [normalize]
  split
  next h => rw [(isNormalized_iff.1 h).2, String.ofList_toList]
  next => rfl

/-- Texts are normalised one by one, unless a line ending runs from one into the other. -/
theorem normalize_append {text more : String}
    (h : ¬ (text.toList.getLast? = some '\r' ∧ more.toList.head? = some '\n')) (newline : String) :
    normalize newline (text ++ more) = normalize newline text ++ normalize newline more := by
  simp only [normalize_eq, String.toList_append, replaceEndings_append h, String.ofList_append]

/-- A line ending that runs from one text into the other is replaced once. -/
theorem normalize_append_across {text more : String} (h : text.toList.getLast? = some '\r')
    (newline : String) :
    normalize newline (text ++ ("\n" ++ more)) =
      normalize newline text ++ normalize newline more := by
  obtain ⟨cs, hcs⟩ := List.getLast?_eq_some_iff.1 h
  have hpair : cs ++ ['\r'] ++ '\n' :: more.toList = cs ++ '\r' :: '\n' :: more.toList := by simp
  have hnewline : "\n".toList ++ more.toList = '\n' :: more.toList := rfl
  simp only [normalize_eq, String.toList_append, hcs, hnewline]
  rw [hpair, replaceEndings_append (by simp), replaceEndings_append (by simp), replaceEndings,
    replaceEndings_return (by simp), replaceEndings, ← String.ofList_append]
  simp

/-- The lines of a normalised text are those of the text. -/
theorem logicalLines_normalize {ending : String} (he : ending ∈ endings) (text : String) :
    logicalLines (normalize ending text) = logicalLines text := by
  rw [logicalLines, normalize_eq, String.toList_ofList, linesOf_replaceEndings he, logicalLines]

/-- Normalising joins the lines of a text with the new ending, and nothing else. The text is given
    back as it is exactly if the ending is one of the two that are tested for, and it has that form
    already. So the lines are the same afterwards, and an ending that was put in before makes no
    difference; and texts are normalised one by one, unless a line ending runs from one into the
    other, which is replaced once. -/
theorem normalize_canonical (newline text : String) :
    (∀ lines, SplitsInto text.toList lines ↔ lines.map String.ofList = logicalLines text) ∧
    normalize newline text = newline.intercalate (logicalLines text) ∧
    String.ofList (replaceEndings newline.toList text.toList) =
      newline.intercalate (logicalLines text) ∧
    (isNormalized newline text = true ↔
      (newline = "\n" ∨ newline = "\r\n") ∧ text = newline.intercalate (logicalLines text)) ∧
    (∀ ending ∈ endings, logicalLines (normalize ending text) = logicalLines text ∧
      normalize newline (normalize ending text) = normalize newline text) ∧
    (∀ more, ¬ (text.toList.getLast? = some '\r' ∧ more.toList.head? = some '\n') →
      normalize newline (text ++ more) = normalize newline text ++ normalize newline more) ∧
    ∀ more, text.toList.getLast? = some '\r' → normalize newline (text ++ ("\n" ++ more)) =
      normalize newline text ++ normalize newline more := by
  have hjoin := replaceEndings_eq_intercalate newline text
  have hnormalize : ∀ text, normalize newline text = newline.intercalate (logicalLines text) :=
    fun text => (normalize_eq newline text).trans (replaceEndings_eq_intercalate newline text)
  refine ⟨fun lines => ?_, hnormalize text, hjoin, ?_, fun ending hending => ?_,
    fun more hmore => normalize_append hmore newline,
    fun more htext => normalize_append_across htext newline⟩
  · have hinjective : Function.Injective String.ofList := fun _ _ => String.ofList_inj.1
    rw [splitsInto_iff, logicalLines, (List.map_injective_iff.2 hinjective).eq_iff]
  · have hsame : replaceEndings newline.toList text.toList = text.toList ↔
        text = newline.intercalate (logicalLines text) := by
      rw [← hjoin, ← String.toList_inj, String.toList_ofList, eq_comm]
    rw [isNormalized_iff, hsame]
  · have hlines := logicalLines_normalize hending text
    exact ⟨hlines, by rw [hnormalize, hlines, hnormalize]⟩

/-- The carriage return before a pair and the newline behind it are endings of their own. -/
example : normalize "\n" "\r\r\n\n" = "\n\n\n" := rfl

end ScriptKeeper.Text
