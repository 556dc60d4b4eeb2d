import Mathlib.Logic.Basic

/-!
Commands on a state. A command that is cut short leaves the state as far as it has
changed it.
-/

namespace XeusZmq.Commands

abbrev Command (σ ε α : Type) := ExceptT ε (StateM σ) α

section Commands

variable {σ ε α β : Type}

def exec (c : Command σ ε α) (s : σ) : Except ε α × σ :=
  StateT.run (ExceptT.run c) s

def fromExcept (x : Except ε α) : Command σ ε α :=
  ExceptT.mk (pure x)

@[simp] theorem exec_pure (a : α) (s : σ) :
    exec (pure a : Command σ ε α) s = (.ok a, s) := rfl

@[simp] theorem exec_fromExcept (x : Except ε α) (s : σ) :
    exec (fromExcept x) s = (x, s) := rfl

@[simp] theorem exec_throw (e : ε) (s : σ) :
    exec (throw e : Command σ ε α) s = (.error e, s) := rfl

@[simp] theorem exec_get (s : σ) : exec (get : Command σ ε σ) s = (.ok s, s) := rfl

@[simp] theorem exec_modify (f : σ → σ) (s : σ) :
    exec (modify f : Command σ ε PUnit) s = (.ok ⟨⟩, f s) := rfl

theorem exec_bind (c : Command σ ε α) (f : α → Command σ ε β) (s : σ) :
    exec (c >>= f) s =
      match exec c s with
      | (.ok a, s') => exec (f a) s'
      | (.error e, s') => (.error e, s') := by
  simp only [exec, ExceptT.run_bind, StateT.run_bind]
  rcases StateT.run (ExceptT.run c) s with ⟨result, s'⟩
  cases result <;> rfl

@[simp] theorem exec_map (f : α → β) (c : Command σ ε α) (s : σ) :
    exec (f <$> c) s = ((exec c s).1.map f, (exec c s).2) := by
  rw [← bind_pure_comp, exec_bind]
  rcases exec c s with ⟨result, s'⟩
  cases result <;> rfl

theorem exec_tryCatch (c : Command σ ε α) (handler : ε → Command σ ε α) (s : σ) :
    exec (tryCatch c handler) s =
      match exec c s with
      | (.ok a, s') => (.ok a, s')
      | (.error e, s') => exec (handler e) s' := by
  have hrun : exec (tryCatch c handler) s =
      match exec c s with
      | (result, s') =>
          exec (match result with
            | .ok a => pure a
            | .error e => handler e) s' := by
    change StateT.run (ExceptT.tryCatch c handler) s = _
    rfl
  rw [hrun]
  rcases exec c s with ⟨result, s'⟩
  cases result <;> rfl

theorem exec_bind_of_ok {c : Command σ ε α} {s s' : σ} {a : α} (hc : exec c s = (.ok a, s'))
    (f : α → Command σ ε β) : exec (c >>= f) s = exec (f a) s' := by
  rw [exec_bind, hc]

theorem exec_bind_of_error {c : Command σ ε α} {s s' : σ} {e : ε}
    (hc : exec c s = (.error e, s')) (f : α → Command σ ε β) :
    exec (c >>= f) s = (.error e, s') := by
  rw [exec_bind, hc]

theorem exec_bind_eq_ok {c : Command σ ε α} {f : α → Command σ ε β} {s s'' : σ} {b : β} :
    exec (c >>= f) s = (.ok b, s'') ↔
      ∃ a s', exec c s = (.ok a, s') ∧ exec (f a) s' = (.ok b, s'') := by
  rw [exec_bind]
  rcases exec c s with ⟨result, s'⟩
  cases result with
  | ok a =>
      constructor
      · exact fun h => ⟨a, s', rfl, h⟩
      · rintro ⟨a', s₁, heq, h⟩
        cases heq
        exact h
  | error e =>
      constructor
      · intro h
        cases h
      · rintro ⟨a', s₁, heq, -⟩
        cases heq

/-- However the command ends, the relation holds between the states before and
after it. -/
def Keeps (R : σ → σ → Prop) (c : Command σ ε α) : Prop :=
  ∀ s, R s (exec c s).2

variable {R : σ → σ → Prop}

theorem keeps_bind (htrans : ∀ {s₁ s₂ s₃}, R s₁ s₂ → R s₂ s₃ → R s₁ s₃)
    {c : Command σ ε α} {f : α → Command σ ε β} (hc : Keeps R c) (hf : ∀ a, Keeps R (f a)) :
    Keeps R (c >>= f) := by
  intro s
  have hfirst := hc s
  rw [exec_bind]
  generalize exec c s = outcome at hfirst
  rcases outcome with ⟨result, s'⟩
  cases result with
  | ok a => exact htrans hfirst (hf a s')
  | error e => exact hfirst

theorem keeps_fromExcept (hrefl : ∀ s, R s s) (x : Except ε α) :
    Keeps R (fromExcept x : Command σ ε α) :=
  fun s => hrefl s

/-- The command returns in a state that meets `Q`, or is cut short in one that meets
`E`. -/
def Ends (c : Command σ ε α) (s : σ) (Q : α → σ → Prop) (E : ε → σ → Prop) : Prop :=
  match exec c s with
  | (.ok a, s') => Q a s'
  | (.error e, s') => E e s'

variable {Q : α → σ → Prop} {E : ε → σ → Prop} {s : σ}

theorem ends_of_exec {c : Command σ ε α} (hQ : ∀ a s', exec c s = (.ok a, s') → Q a s')
    (hE : ∀ e s', exec c s = (.error e, s') → E e s') : Ends c s Q E := by
  unfold Ends
  split
  · next a s' h => exact hQ a s' h
  · next e s' h => exact hE e s' h

@[simp] theorem ends_pure {a : α} : Ends (pure a : Command σ ε α) s Q E ↔ Q a s :=
  Iff.rfl

@[simp] theorem ends_throw {e : ε} : Ends (throw e : Command σ ε α) s Q E ↔ E e s :=
  Iff.rfl

@[simp] theorem ends_get {Q : σ → σ → Prop} : Ends (get : Command σ ε σ) s Q E ↔ Q s s :=
  Iff.rfl

@[simp] theorem ends_modify {f : σ → σ} {Q : PUnit → σ → Prop} :
    Ends (modify f : Command σ ε PUnit) s Q E ↔ Q ⟨⟩ (f s) :=
  Iff.rfl

theorem ends_bind {c : Command σ ε α} {f : α → Command σ ε β} {Q : β → σ → Prop} :
    Ends (c >>= f) s Q E ↔ Ends c s (fun a s' => Ends (f a) s' Q E) E := by
  simp only [Ends, exec_bind]
  rcases exec c s with ⟨result, s'⟩
  cases result <;> rfl

theorem Ends.mono {c : Command σ ε α} {Q' : α → σ → Prop} {E' : ε → σ → Prop}
    (h : Ends c s Q E) (hQ : ∀ a s', Q a s' → Q' a s') (hE : ∀ e s', E e s' → E' e s') :
    Ends c s Q' E' := by
  unfold Ends at h ⊢
  generalize exec c s = outcome at h ⊢
  rcases outcome with ⟨result, s'⟩
  cases result with
  | ok a => exact hQ a s' h
  | error e => exact hE e s' h

theorem Ends.of_ok {c : Command σ ε α} {a : α} {s' : σ} (h : Ends c s Q E)
    (hc : exec c s = (.ok a, s')) : Q a s' := by
  rwa [Ends, hc] at h

theorem Ends.of_error {c : Command σ ε α} {e : ε} {s' : σ} (h : Ends c s Q E)
    (hc : exec c s = (.error e, s')) : E e s' := by
  rwa [Ends, hc] at h

end Commands

end XeusZmq.Commands
