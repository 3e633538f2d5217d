import ScriptKeeper.Proofs.Files.Atomic
import ScriptKeeper.Proofs.Settings.Document

/-!
# Settings survive saving and loading

What is saved in a file is loaded from it again, with numbers for the rules that had none
(`load_saved`), if the path of the file still leads to it. A path that goes through the very entry
that is replaced does not: a link on the way to its own folder is a file afterwards
(`load_saved_through_link`).
-/

namespace ScriptKeeper.Settings

open FileTree

variable {s : Settings} {t t' : FileTree} {path : String}

/-- Settings are loaded from a file that holds their text. -/
theorem load_of_readText (hs : s.Storable) (h : t.readText path = .ok s.print) :
    load t path = .ok s.assignIds := by
  rw [load, h]
  dsimp only
  rw [parse?_print hs]

theorem locate_of_load {loaded : Settings} (h : load t path = .ok loaded) :
    ∃ loc, t.locate path = .ok loc := by
  cases hl : t.locate path with
  | ok loc => exact ⟨loc, rfl⟩
  | error e =>
    rw [load, readText, hl] at h
    cases h

theorem load_put_iff (hs : s.Storable) {loc : Location} (h : t.TargetOf path loc) :
    load (t.put loc (.file (.text s.print))) path = .ok s.assignIds ↔ t.AvoidsTarget path loc := by
  refine ⟨fun hload => ?_, fun havoids => load_of_readText hs ?_⟩
  · obtain ⟨other, hother⟩ := locate_of_load hload
    exact avoidsTarget_of_locate h hother
  · have hlocate := (locate_put_iff h (.text s.print)).2 havoids
    have htext := textAt_put_self t h.ne_nil s.print
    rw [readText, hlocate]
    exact htext

/-- Settings that have been created are loaded with numbers for all rules. Those that have been saved
    are, if and only if their path does not go through the entry that was replaced. With numbers for
    all rules beforehand they are loaded as they were, and whenever they are saved again, wherever
    that is, the text is the same. -/
theorem load_saved (hs : s.Storable) :
    (∀ path t t', (s.create path).run t = (.ok (), t') → load t' path = .ok s.assignIds) ∧
    (∀ path t t', (s.save path).run t = (.ok (), t') →
      ∃ loc, t.TargetOf path loc ∧ t'.get? loc = some (.file (.text s.print)) ∧
        (load t' path = .ok s.assignIds ↔ t.AvoidsTarget path loc)) ∧
    s.assignIds.Storable ∧
    (0 ∉ s.ids → s.assignIds = s ∧
      ∀ path t t', (s.assignIds.save path).run t = (.ok (), t') →
        ∃ loc, t.TargetOf path loc ∧ t'.get? loc = some (.file (.text s.print))) := by
  have hsave (s : Settings) (path : String) (t t' : FileTree)
      (h : (s.save path).run t = (.ok (), t')) :
      ∃ loc, t.TargetOf path loc ∧ t' = t.put loc (.file (.text s.print)) := by
    rcases s.run_save path t none with ⟨e, he⟩ | ⟨loc, _, htarget, _, hok⟩
    · rw [he] at h; cases h
    · rw [hok] at h; cases h; exact ⟨loc, htarget, rfl⟩
  refine ⟨fun path t t' h => ?_, fun path t t' h => ?_, hs.assignIds, fun hzero => ?_⟩
  · rcases s.run_create path t none with ⟨e, he⟩ | ⟨loc, _, htarget, hnew, hok⟩
    · rw [he] at h; cases h
    · rw [hok] at h
      cases h
      refine load_of_readText hs ?_
      have hself := get?_put_self t htarget.ne_nil (.file (.text s.print))
      rw [readText, (htarget.put hnew _).locate hself]
      exact textAt_put_self t htarget.ne_nil s.print
  · obtain ⟨loc, htarget, rfl⟩ := hsave s path t t' h
    exact ⟨loc, htarget, get?_put_self t htarget.ne_nil _, load_put_iff hs htarget⟩
  · rw [assignIds_eq_self hzero]
    refine ⟨rfl, fun path t t' h => ?_⟩
    obtain ⟨loc, htarget, rfl⟩ := hsave s path t t' h
    exact ⟨loc, htarget, get?_put_self t htarget.ne_nil _⟩

/-- Settings with one rule, which has no number, and a text that has to be escaped. -/
def unwantedOnly : Settings := ⟨"", [], [], [], "\"\\", [⟨0, "a", some 0, ""⟩], [], []⟩

theorem storable_unwantedOnly : unwantedOnly.Storable := ⟨by decide, by decide, by decide⟩

/-- The rule has its number after the settings have been created and loaded. -/
theorem load_saved_unwantedOnly :
    load (FileTree.put { base := "/home" } ["s"] (.file (.text unwantedOnly.print))) "s" =
      .ok { unwantedOnly with unwantedCode := [⟨1, "a", some 0, ""⟩] } :=
  (load_saved storable_unwantedOnly).1 "s" { base := "/home" } _ rfl

/-- A folder and a link to it. -/
def linkedFolder : FileTree where
  base := "/home"
  entries := [(["d"], .folder), (["l"], .link "d")]

/-- The path goes through the link, and then names the link. Saving replaces the link by the file,
    and then the path leads nowhere. -/
theorem load_saved_through_link : unwantedOnly.Storable ∧
    (unwantedOnly.save "l/../l").run linkedFolder =
      (.ok (), linkedFolder.put ["l"] (.file (.text unwantedOnly.print))) ∧
    load (linkedFolder.put ["l"] (.file (.text unwantedOnly.print))) "l/../l" =
      .error (.read "l/../l" .notFolder) :=
  ⟨storable_unwantedOnly, rfl, rfl⟩

end ScriptKeeper.Settings
