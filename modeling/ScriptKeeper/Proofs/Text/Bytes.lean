import Mathlib.Tactic.Common
import ScriptKeeper.Text.Bytes

/-!
# Stretches of bytes

A byte position is a boundary if some characters at the beginning of the text fill it exactly
(`splitBytes?_eq_some_iff`), so the stretches between boundaries are stretches of characters
(`ByteRange.slice?_eq_some`), and stretches that touch make up the stretch from end to end
(`covered_append`).

Ranges are in order (`InOrder`) if they come one behind the other, each between boundaries.
-/

namespace ScriptKeeper.Text

theorem byteLength_append (cs ds : List Char) :
    byteLength (cs ++ ds) = byteLength cs + byteLength ds := by
  induction cs with
  | nil => rw [List.nil_append, byteLength, Nat.zero_add]
  | cons c cs ih => rw [List.cons_append, byteLength, ih, byteLength, Nat.add_assoc]

theorem byteLength_eq_zero_iff {cs : List Char} : byteLength cs = 0 ↔ cs = [] := by
  cases cs with
  | nil => simp [byteLength]
  | cons c cs =>
    have hpos : 0 < c.utf8Size := c.utf8Size_pos
    simp only [byteLength, reduceCtorEq, iff_false]
    omega

/-- Of two beginnings of a text, the one with fewer bytes begins the other. -/
theorem prefix_of_byteLength_le {cs first first' : List Char} (h : first <+: cs)
    (h' : first' <+: cs) (hle : byteLength first ≤ byteLength first') : first <+: first' := by
  rcases List.prefix_or_prefix_of_prefix h h' with hp | ⟨more, rfl⟩
  · exact hp
  · rw [byteLength_append] at hle
    obtain rfl := byteLength_eq_zero_iff.1 (by omega : byteLength more = 0)
    exact ⟨[], by rw [List.append_nil, List.append_nil]⟩

/-- Beginnings of a text with as many bytes are the same. -/
theorem eq_of_byteLength_eq {cs first first' : List Char} (h : first <+: cs) (h' : first' <+: cs)
    (heq : byteLength first = byteLength first') : first = first' := by
  have hp := prefix_of_byteLength_le h h' (Nat.le_of_eq heq)
  have hp' := prefix_of_byteLength_le h' h (Nat.le_of_eq heq.symm)
  exact hp.eq_of_length_le hp'.length_le

/-- A text has as many bytes as its characters take. -/
theorem byteLength_toList (s : String) : byteLength s.toList = s.utf8ByteSize := by
  have h (cs : List Char) : (String.ofList cs).utf8ByteSize = byteLength cs := by
    induction cs with
    | nil => rfl
    | cons c cs ih =>
      rw [String.ofList_cons, String.utf8ByteSize_append, String.utf8ByteSize_singleton, ih,
        byteLength]
  rw [← h, String.ofList_toList]

/-- The characters that fill the first `n` bytes are those at the beginning of the text. -/
theorem splitBytes?_eq_some_iff {n : Nat} {cs first rest : List Char} :
    splitBytes? n cs = some (first, rest) ↔ cs = first ++ rest ∧ byteLength first = n := by
  induction cs generalizing n first with
  | nil =>
    rw [splitBytes?]
    split
    · next h =>
      subst h
      constructor
      · intro h; cases h; exact ⟨rfl, rfl⟩
      · rintro ⟨h, -⟩
        obtain ⟨rfl, rfl⟩ := List.append_eq_nil_iff.1 h.symm
        rfl
    · next h =>
      constructor
      · intro h; cases h
      · rintro ⟨h', hn⟩
        obtain ⟨rfl, rfl⟩ := List.append_eq_nil_iff.1 h'.symm
        exact absurd hn.symm h
  | cons c cs ih =>
    have hpos : 0 < c.utf8Size := c.utf8Size_pos
    rw [splitBytes?]
    cases first with
    | nil =>
      split
      · next h =>
        subst h
        constructor
        · intro h; cases h; exact ⟨rfl, rfl⟩
        · rintro ⟨rfl, -⟩; rfl
      · next h =>
        constructor
        · intro h'; split at h' <;> simp at h'
        · rintro ⟨-, rfl⟩; exact absurd rfl h
    | cons d first =>
      rw [byteLength, List.cons_append]
      split
      · next h =>
        constructor
        · intro h; cases h
        · rintro ⟨h', hn⟩
          cases h'
          omega
      · split
        · next hle =>
          rw [Option.map_eq_some_iff]
          constructor
          · rintro ⟨⟨first', rest'⟩, hsplit, heq⟩
            cases heq
            obtain ⟨rfl, hn⟩ := ih.1 hsplit
            exact ⟨rfl, by omega⟩
          · rintro ⟨h', hn⟩
            cases h'
            exact ⟨(first, rest), ih.2 ⟨rfl, by omega⟩, rfl⟩
        · next hlt =>
          constructor
          · intro h; cases h
          · rintro ⟨h', hn⟩
            cases h'
            omega

/-- The end of characters at the beginning of a text is a boundary. -/
theorem isBoundary_iff {text : String} {n : Nat} :
    isBoundary text n ↔ ∃ first rest, text.toList = first ++ rest ∧ byteLength first = n := by
  rw [isBoundary, Option.isSome_iff_exists]
  exact ⟨fun ⟨⟨first, rest⟩, h⟩ => ⟨first, rest, splitBytes?_eq_some_iff.1 h⟩,
    fun ⟨first, rest, h⟩ => ⟨(first, rest), splitBytes?_eq_some_iff.2 h⟩⟩

/-- The stretch between two boundaries is that of the characters between them. -/
theorem ByteRange.slice?_eq_some {text : String} {first covered rest : List Char}
    (h : text.toList = first ++ (covered ++ rest)) :
    ByteRange.slice? text ⟨byteLength first, byteLength first + byteLength covered⟩ =
      some (String.ofList covered) := by
  have hstart := splitBytes?_eq_some_iff.2 ⟨h, rfl⟩
  have hlength : splitBytes? (byteLength covered) (covered ++ rest) = some (covered, rest) :=
    splitBytes?_eq_some_iff.2 ⟨rfl, rfl⟩
  rw [slice?, if_pos (Nat.le_add_right _ _), hstart]
  dsimp only [ByteRange.length, bind, Option.bind]
  rw [Nat.add_sub_cancel_left, hlength]
  rfl

theorem isBoundary_zero (text : String) : isBoundary text 0 = true :=
  isBoundary_iff.2 ⟨[], text.toList, rfl, rfl⟩

theorem isBoundary_end (text : String) : isBoundary text text.utf8ByteSize = true :=
  isBoundary_iff.2 ⟨text.toList, [], (List.append_nil _).symm, byteLength_toList text⟩

theorem le_of_isBoundary {text : String} {n : Nat} (h : isBoundary text n = true) :
    n ≤ text.utf8ByteSize := by
  obtain ⟨first, rest, htext, rfl⟩ := isBoundary_iff.1 h
  rw [← byteLength_toList, htext, byteLength_append]
  exact Nat.le_add_right _ _

theorem fits_mk {text : String} {start stop : Nat} (hstart : isBoundary text start = true)
    (hstop : isBoundary text stop = true) (hle : start ≤ stop) :
    (ByteRange.mk start stop).fits text = true := by
  rw [ByteRange.fits, hstart, hstop, decide_eq_true hle]
  rfl

theorem boundaries_of_fits {text : String} {r : ByteRange} (h : r.fits text = true) :
    r.start ≤ r.stop ∧ isBoundary text r.start = true ∧ isBoundary text r.stop = true := by
  rw [ByteRange.fits, Bool.and_eq_true, Bool.and_eq_true, decide_eq_true_eq] at h
  exact ⟨h.1.1, h.1.2, h.2⟩

/-- The characters before a range, in it and behind it. -/
theorem exists_of_fits {text : String} {r : ByteRange} (h : r.fits text = true) :
    ∃ first inside rest, text.toList = first ++ (inside ++ rest) ∧
      r = ⟨byteLength first, byteLength first + byteLength inside⟩ := by
  obtain ⟨hle, hstart, hstop⟩ := boundaries_of_fits h
  obtain ⟨first, after, hfirst, hlength⟩ := isBoundary_iff.1 hstart
  obtain ⟨through, behind, hthrough, hlength'⟩ := isBoundary_iff.1 hstop
  obtain ⟨inside, rfl⟩ := prefix_of_byteLength_le ⟨after, hfirst.symm⟩ ⟨behind, hthrough.symm⟩
    (by omega)
  refine ⟨first, inside, behind, by rw [hthrough, List.append_assoc], ?_⟩
  rw [← byteLength_append, hlength, hlength']

/-- The text that a range covers. -/
def covered (document : String) (r : ByteRange) : String := (r.slice? document).getD ""

theorem covered_eq {document : String} {first inside rest : List Char}
    (h : document.toList = first ++ (inside ++ rest)) :
    covered document ⟨byteLength first, byteLength first + byteLength inside⟩ =
      String.ofList inside := by
  rw [covered, ByteRange.slice?_eq_some h, Option.getD_some]

theorem slice?_eq_covered {document : String} {r : ByteRange} (h : r.fits document = true) :
    r.slice? document = some (covered document r) := by
  obtain ⟨first, inside, rest, hdocument, rfl⟩ := exists_of_fits h
  rw [covered_eq hdocument, ByteRange.slice?_eq_some hdocument]

/-- A stretch is as long as the text that it covers. -/
theorem utf8ByteSize_covered {document : String} {r : ByteRange} (h : r.fits document = true) :
    r.start + (covered document r).utf8ByteSize = r.stop := by
  obtain ⟨first, inside, rest, hdocument, rfl⟩ := exists_of_fits h
  rw [covered_eq hdocument, ← byteLength_toList, String.toList_ofList]

/-- Stretches that touch make up the stretch from end to end. -/
theorem covered_append {document : String} {start middle stop : Nat}
    (h : (ByteRange.mk start middle).fits document = true)
    (h' : (ByteRange.mk middle stop).fits document = true) :
    covered document ⟨start, middle⟩ ++ covered document ⟨middle, stop⟩ =
      covered document ⟨start, stop⟩ := by
  obtain ⟨first, inside, rest, hdocument, heq⟩ := exists_of_fits h
  obtain ⟨through, inside', rest', hdocument', heq'⟩ := exists_of_fits h'
  rw [ByteRange.mk.injEq] at heq heq'
  obtain ⟨rfl, rfl⟩ := heq
  obtain ⟨hmiddle, rfl⟩ := heq'
  -- The second stretch begins where the characters of the first one end.
  obtain rfl : first ++ inside = through := by
    rw [← byteLength_append] at hmiddle
    exact eq_of_byteLength_eq ⟨rest, by rw [hdocument, List.append_assoc]⟩
      ⟨inside' ++ rest', hdocument'.symm⟩ hmiddle
  have hwhole : document.toList = first ++ (inside ++ inside' ++ rest') := by
    rw [hdocument']
    simp
  have hfirst : document.toList = first ++ (inside ++ (inside' ++ rest')) := by
    rw [hdocument', List.append_assoc]
  rw [← byteLength_append, covered_eq hdocument', byteLength_append, covered_eq hfirst,
    Nat.add_assoc, ← byteLength_append, covered_eq hwhole, String.ofList_append]

/-- Nothing lies between a boundary and itself. -/
theorem covered_self {document : String} {n : Nat} (h : isBoundary document n = true) :
    covered document ⟨n, n⟩ = "" := by
  obtain ⟨first, rest, hdocument, rfl⟩ := isBoundary_iff.1 h
  have hnone : document.toList = first ++ ([] ++ rest) := hdocument
  exact covered_eq hnone

/-- The whole text is the stretch from its beginning to its end. -/
theorem covered_all (document : String) :
    covered document ⟨0, document.utf8ByteSize⟩ = document := by
  have hall : document.toList = [] ++ (document.toList ++ []) := by simp
  have hcovered := covered_eq hall
  rwa [byteLength, Nat.zero_add, byteLength_toList, String.ofList_toList] at hcovered

/-- The ranges come in order from the position `cursor` on, and cover whole characters. -/
def InOrder (text : String) : Nat → List ByteRange → Prop
  | _, [] => True
  | cursor, r :: rest => cursor ≤ r.start ∧ r.fits text = true ∧ InOrder text r.stop rest

end ScriptKeeper.Text
