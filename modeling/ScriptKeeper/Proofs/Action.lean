import Mathlib.Data.List.Forall2

/-!
# Actions that can fail

An action with a state `σ` that can fail has type `ExceptT ε (StateM σ)`: what it has done before
it fails stays done. Its run from a state gives the result and the state afterwards, and the run of
two actions in a row is taken apart at the state between them (`run_bind`).

* `AllOrNothing`, `Total`, `ReadOnly`: the action changes nothing if it fails, it does not fail, or it
  changes nothing at all;
* `Ensures`, `Keeps`: what is true of the results of an action, and of the states it leaves;
* `Yields`: the action has the same result in all states with a property, which it keeps.
-/

namespace ScriptKeeper

variable {ε σ α β : Type}

/-! ### Results -/

@[simp] theorem ok_bind (a : α) (f : α → Except ε β) : (Except.ok a >>= f) = f a := rfl

@[simp] theorem error_bind (e : ε) (f : α → Except ε β) :
    (Except.error e >>= f) = Except.error e := rfl

/-- A sequence succeeds if both of its parts do. -/
theorem bind_eq_ok_iff {x : Except ε α} {f : α → Except ε β} {b : β} :
    (x >>= f) = .ok b ↔ ∃ a, x = .ok a ∧ f a = .ok b := by
  cases x with
  | error e => simp
  | ok a => simp

theorem bind_eq_error_iff {x : Except ε α} {f : α → Except ε β} {e : ε} :
    (x >>= f) = .error e ↔ x = .error e ∨ ∃ a, x = .ok a ∧ f a = .error e := by
  cases x with
  | error e' => simp
  | ok a => simp

/-- What is done with a result cannot make it fail. -/
theorem bind_pure_eq_error_iff {x : Except ε α} {f : α → β} {e : ε} :
    (x >>= fun a => pure (f a)) = .error e ↔ x = .error e := by
  rw [bind_eq_error_iff, or_iff_left]
  rintro ⟨a, _, h⟩
  cases h

/-- A sequence over a list fails where one of its steps does. -/
theorem exists_of_mapM_eq_error {f : α → Except ε β} {l : List α} {e : ε}
    (h : l.mapM f = .error e) : ∃ a ∈ l, f a = .error e := by
  induction l with
  | nil => cases h
  | cons a l ih =>
    rw [List.mapM_cons, bind_eq_error_iff] at h
    rcases h with ha | ⟨_, _, h⟩
    · exact ⟨a, List.mem_cons_self, ha⟩
    · obtain ⟨b, hb, hfail⟩ := ih (bind_pure_eq_error_iff.1 h)
      exact ⟨b, List.mem_cons_of_mem _ hb, hfail⟩

/-- A sequence over a list succeeds if every step of it does. -/
theorem mapM_eq_ok_iff {f : α → Except ε β} {l : List α} {results : List β} :
    l.mapM f = .ok results ↔ List.Forall₂ (fun a b => f a = .ok b) l results := by
  induction l generalizing results with
  | nil => cases results <;> simp [pure, Except.pure]
  | cons a l ih =>
    rw [List.mapM_cons, bind_eq_ok_iff]
    constructor
    · rintro ⟨b, hb, h⟩
      obtain ⟨rest, hrest, h⟩ := bind_eq_ok_iff.1 h
      cases h
      exact .cons hb (ih.1 hrest)
    · rintro (_ | ⟨hb, hrest⟩)
      exact ⟨_, hb, bind_eq_ok_iff.2 ⟨_, ih.2 hrest, rfl⟩⟩

/-- Runs are compared as pairs of result and state. -/
@[simp] theorem id_eq_iff (x y : α) : @Eq (Id α) x y ↔ x = y := Iff.rfl

@[simp] theorem run_pure (a : α) (s : σ) :
    (pure a : ExceptT ε (StateM σ) α).run s = (.ok a, s) := rfl

@[simp] theorem run_throw (e : ε) (s : σ) :
    (throw e : ExceptT ε (StateM σ) α).run s = (.error e, s) := rfl

@[simp] theorem run_get (s : σ) : (get : ExceptT ε (StateM σ) σ).run s = (.ok s, s) := rfl

@[simp] theorem run_set (s s' : σ) :
    (set s' : ExceptT ε (StateM σ) PUnit).run s = (.ok ⟨⟩, s') := rfl

@[simp] theorem run_modify (f : σ → σ) (s : σ) :
    (modify f : ExceptT ε (StateM σ) PUnit).run s = (.ok ⟨⟩, f s) := rfl

@[simp] theorem run_lift (x : Except ε α) (s : σ) :
    (liftM x : ExceptT ε (StateM σ) α).run s = (x, s) := rfl

theorem run_tryCatch (x : ExceptT ε (StateM σ) α) (f : ε → ExceptT ε (StateM σ) α) (s : σ) :
    (tryCatch x f).run s = match x.run s with
      | (.ok a, s') => (.ok a, s')
      | (.error e, s') => (f e).run s' := by
  show ExceptT.run (ExceptT.tryCatch x f) s = _
  simp only [ExceptT.tryCatch, ExceptT.run]
  show (match (x s).1 with | .ok a => _ | .error e => _ : StateM σ (Except ε α)) (x s).2 = _
  rcases x s with ⟨_ | _, _⟩ <;> rfl

theorem run_bind (x : ExceptT ε (StateM σ) α) (f : α → ExceptT ε (StateM σ) β) (s : σ) :
    (x >>= f).run s = match x.run s with
      | (.ok a, s') => (f a).run s'
      | (.error e, s') => (.error e, s') := by
  show ExceptT.bindCont f (x s).1 (x s).2 = _
  simp only [ExceptT.run]
  rcases x s with ⟨_ | _, _⟩ <;> rfl

/-- A result that is only looked at changes nothing else of a run. -/
theorem run_bind_pure (x : ExceptT ε (StateM σ) α) (f : α → β) (s : σ) :
    (x >>= fun a => pure (f a)).run s = ((x.run s).1.map f, (x.run s).2) := by
  rw [run_bind]
  rcases x.run s with ⟨_ | _, _⟩ <;> rfl

theorem bind_pure_eq_ok {x : ExceptT ε (StateM σ) α} {f : α → β} {s t : σ} {b : β}
    (h : (x >>= fun a => pure (f a)).run s = (.ok b, t)) :
    ∃ a, x.run s = (.ok a, t) ∧ f a = b := by
  rw [run_bind_pure] at h
  cases hr : x.run s with
  | mk result s' =>
  rw [hr] at h
  cases result <;> cases h
  exact ⟨_, rfl, rfl⟩

/-! ### Failing without a trace -/

/-- The action leaves the state as it was if it fails. -/
def AllOrNothing (x : ExceptT ε (StateM σ) α) : Prop :=
  ∀ s e t, x.run s = (.error e, t) → t = s

/-- The action does not fail. -/
def Total (x : ExceptT ε (StateM σ) α) : Prop := ∀ s, ∃ a t, x.run s = (.ok a, t)

theorem total_pure (a : α) : Total (pure a : ExceptT ε (StateM σ) α) := fun s => ⟨a, s, rfl⟩

theorem Total.bind {x : ExceptT ε (StateM σ) α} {f : α → ExceptT ε (StateM σ) β} (hx : Total x)
    (hf : ∀ a, Total (f a)) : Total (x >>= f) := by
  intro s
  obtain ⟨a, t, hr⟩ := hx s
  rw [run_bind, hr]
  exact hf a t

theorem Total.allOrNothing {x : ExceptT ε (StateM σ) α} (hx : Total x) : AllOrNothing x := by
  intro s e t h
  obtain ⟨a, t', hr⟩ := hx s
  rw [hr] at h
  cases h

/-- What comes after the last step that can fail may change the state. -/
theorem AllOrNothing.bind {x : ExceptT ε (StateM σ) α} {f : α → ExceptT ε (StateM σ) β}
    (hx : AllOrNothing x) (hf : ∀ a, Total (f a)) : AllOrNothing (x >>= f) := by
  intro s e t h
  rw [run_bind] at h
  cases hr : x.run s with
  | mk result s' =>
  rw [hr] at h
  cases result with
  | error e' => cases h; exact hx s _ _ hr
  | ok a =>
    obtain ⟨b, t', hb⟩ := hf a s'
    dsimp only at h
    rw [hb] at h
    cases h

theorem AllOrNothing.bind_pure {x : ExceptT ε (StateM σ) α} (hx : AllOrNothing x) (f : α → β) :
    AllOrNothing (x >>= fun a => pure (f a)) :=
  hx.bind fun a => total_pure (f a)

/-! ### Reading only -/

/-- The action leaves the state as it was, whether it fails or not. -/
def ReadOnly (x : ExceptT ε (StateM σ) α) : Prop := ∀ s, (x.run s).2 = s

theorem readOnly_get : ReadOnly (get : ExceptT ε (StateM σ) σ) := fun _ => rfl

/-- Reading before an action that is all or nothing leaves it so. -/
theorem ReadOnly.bind_allOrNothing {x : ExceptT ε (StateM σ) α}
    {f : α → ExceptT ε (StateM σ) β} (hx : ReadOnly x) (hf : ∀ a, AllOrNothing (f a)) :
    AllOrNothing (x >>= f) := by
  intro s e t h
  have hs := hx s
  rw [run_bind] at h
  cases hr : x.run s with
  | mk result s' =>
  rw [hr] at h hs
  cases hs
  cases result with
  | error e' => cases h; rfl
  | ok a => exact hf a _ e t h

/-! ### Results of a kind -/

/-- The action has a result of the kind if it does not fail. -/
def Ensures (Q : α → Prop) (x : ExceptT ε (StateM σ) α) : Prop :=
  ∀ s a t, x.run s = (.ok a, t) → Q a

theorem ensures_pure {Q : α → Prop} {a : α} (h : Q a) :
    Ensures Q (pure a : ExceptT ε (StateM σ) α) := by
  intro s b t hrun
  cases hrun
  exact h

theorem Ensures.bind {Q : β → Prop} {f : α → ExceptT ε (StateM σ) β} (hf : ∀ a, Ensures Q (f a))
    (x : ExceptT ε (StateM σ) α) : Ensures Q (x >>= f) := by
  intro s b t h
  rw [run_bind] at h
  cases hr : x.run s with
  | mk result s' =>
  rw [hr] at h
  cases result with
  | error e => cases h
  | ok a => exact hf a s' b t h

/-! ### Invariants -/

/-- The action keeps a property of the state, whether it fails or not. -/
def Keeps (P : σ → Prop) (x : ExceptT ε (StateM σ) α) : Prop := ∀ s, P s → P (x.run s).2

variable {P : σ → Prop}

theorem keeps_pure (a : α) : Keeps P (pure a : ExceptT ε (StateM σ) α) := fun _ h => h

theorem keeps_throw (e : ε) : Keeps P (throw e : ExceptT ε (StateM σ) α) := fun _ h => h

theorem Keeps.bind {x : ExceptT ε (StateM σ) α} {f : α → ExceptT ε (StateM σ) β}
    (hx : Keeps P x) (hf : ∀ a, Keeps P (f a)) : Keeps P (x >>= f) := by
  intro s h
  have hs := hx s h
  rw [run_bind]
  cases hr : x.run s with
  | mk result s' =>
  rw [hr] at hs
  cases result with
  | error e => exact hs
  | ok a => exact hf a s' hs

theorem keeps_mapM {f : α → ExceptT ε (StateM σ) β} (hf : ∀ a, Keeps P (f a)) (l : List α) :
    Keeps P (l.mapM f) := by
  induction l with
  | nil => exact keeps_pure _
  | cons a l ih =>
    rw [List.mapM_cons]
    exact (hf a).bind fun _ => ih.bind fun _ => keeps_pure _

/-- From every state with the property, the action has the result, and leaves a state with it. -/
def Yields (P : σ → Prop) (x : ExceptT ε (StateM σ) α) (result : Except ε α) : Prop :=
  ∀ s, P s → (x.run s).1 = result ∧ P (x.run s).2

theorem yields_pure (a : α) : Yields P (pure a : ExceptT ε (StateM σ) α) (.ok a) :=
  fun _ h => ⟨rfl, h⟩

theorem yields_throw (e : ε) : Yields P (throw e : ExceptT ε (StateM σ) α) (.error e) :=
  fun _ h => ⟨rfl, h⟩

theorem Yields.bind {x : ExceptT ε (StateM σ) α} {f : α → ExceptT ε (StateM σ) β}
    {result : Except ε α} {g : α → Except ε β} (hx : Yields P x result)
    (hf : ∀ a, Yields P (f a) (g a)) : Yields P (x >>= f) (result >>= g) := by
  intro s h
  obtain ⟨hresult, hs⟩ := hx s h
  rw [run_bind]
  cases hr : x.run s with
  | mk actual s' =>
  rw [hr] at hresult hs
  cases hresult
  cases actual with
  | error e => exact ⟨rfl, hs⟩
  | ok a => exact hf a s' hs

theorem yields_mapM {f : α → ExceptT ε (StateM σ) β} {g : α → Except ε β}
    (hf : ∀ a, Yields P (f a) (g a)) (l : List α) : Yields P (l.mapM f) (l.mapM g) := by
  induction l with
  | nil => exact yields_pure _
  | cons a l ih =>
    rw [List.mapM_cons, List.mapM_cons]
    exact (hf a).bind fun _ => ih.bind fun _ => yields_pure _

end ScriptKeeper
