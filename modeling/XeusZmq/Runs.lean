import Mathlib.Data.List.Induction

/-!
Runs of a deterministic machine over a list of events, and what holds in every
state they reach.
-/

namespace XeusZmq.Runs

/-- Where a list that ends with `last` can be cut before one of its members. -/
theorem concat_eq_append_cons_iff {α : Type*} {events before after : List α} {last event : α} :
    events ++ [last] = before ++ event :: after ↔
      (before = events ∧ event = last ∧ after = []) ∨
        ∃ rest, after = rest ++ [last] ∧ events = before ++ event :: rest := by
  constructor
  · intro heq
    rcases List.eq_nil_or_concat after with rfl | ⟨rest, last', rfl⟩
    · obtain ⟨rfl, hlast⟩ := List.append_inj' heq rfl
      exact .inl ⟨rfl, (List.singleton_inj.mp hlast).symm, rfl⟩
    · rw [List.concat_eq_append, ← List.cons_append, ← List.append_assoc] at heq
      obtain ⟨rfl, hlast⟩ := List.append_inj' heq rfl
      obtain rfl := List.singleton_inj.mp hlast
      exact .inr ⟨rest, List.concat_eq_append, rfl⟩
  · rintro (⟨rfl, rfl, rfl⟩ | ⟨rest, rfl, rfl⟩)
    · rfl
    · simp

section Runs

variable {σ ε : Type*} (step : σ → ε → σ)

def run (s : σ) (events : List ε) : σ :=
  events.foldl step s

@[simp] theorem run_nil (s : σ) : run step s [] = s := rfl

@[simp] theorem run_cons (s : σ) (event : ε) (events : List ε) :
    run step s (event :: events) = run step (step s event) events := rfl

theorem run_append (s : σ) (front events : List ε) :
    run step s (front ++ events) = run step (run step s front) events :=
  List.foldl_append

theorem run_concat (s : σ) (events : List ε) (event : ε) :
    run step s (events ++ [event]) = step (run step s events) event := by
  rw [run_append, run_cons, run_nil]

/-- What every step preserves, given the events before it, holds after every
run. -/
theorem run_induction {P : List ε → σ → Prop} {s : σ} (hinit : P [] s)
    (hstep : ∀ events event, P events (run step s events) →
      P (events ++ [event]) (step (run step s events) event))
    (events : List ε) : P events (run step s events) := by
  induction events using List.reverseRecOn with
  | nil => exact hinit
  | append_singleton events event ih =>
      rw [run_concat]
      exact hstep events event ih

/-- An event that makes progress until a goal is reached, taken again and again,
reaches it. -/
theorem run_replicate_reaches (event : ε) (P goal : σ → Prop) (work : σ → Nat)
    (hstep : ∀ s, P s → ¬ goal s → P (step s event) ∧ work (step s event) < work s)
    {s : σ} (hs : P s) :
    ∃ n, P (run step s (List.replicate n event)) ∧ goal (run step s (List.replicate n event)) := by
  induction hwork : work s using Nat.strongRecOn generalizing s with
  | _ bound ih =>
      by_cases hgoal : goal s
      · exact ⟨0, hs, hgoal⟩
      · obtain ⟨hnext, hless⟩ := hstep s hs hgoal
        obtain ⟨n, hn⟩ := ih _ (hwork ▸ hless) hnext rfl
        exact ⟨n + 1, hn⟩

/-- Every step of the run meets the condition in the state in which it is taken. -/
def Guarded (ok : σ → ε → Prop) (s : σ) (events : List ε) : Prop :=
  ∀ before event after, events = before ++ event :: after → ok (run step s before) event

variable {step}

theorem Guarded.front {ok : σ → ε → Prop} {s : σ} {front events : List ε}
    (h : Guarded step ok s (front ++ events)) : Guarded step ok s front := by
  rintro before event after rfl
  exact h before event (after ++ events) (by simp)

theorem Guarded.last {ok : σ → ε → Prop} {s : σ} {events : List ε} {event : ε}
    (h : Guarded step ok s (events ++ [event])) : ok (run step s events) event :=
  h events event [] rfl

@[simp] theorem guarded_nil {ok : σ → ε → Prop} {s : σ} : Guarded step ok s [] := by
  intro before event after heq
  simp at heq

theorem guarded_cons {ok : σ → ε → Prop} {s : σ} {event : ε} {events : List ε} :
    Guarded step ok s (event :: events) ↔ ok s event ∧ Guarded step ok (step s event) events := by
  constructor
  · intro h
    refine ⟨h [] event events rfl, ?_⟩
    rintro before event' after rfl
    exact h (event :: before) event' after rfl
  · rintro ⟨hevent, hevents⟩ before event' after heq
    cases before with
    | nil =>
        obtain ⟨rfl, -⟩ := List.cons.inj heq
        exact hevent
    | cons first before =>
        obtain ⟨rfl, htail⟩ := List.cons.inj heq
        exact hevents before event' after htail

instance decidableGuarded {ok : σ → ε → Prop} [∀ s event, Decidable (ok s event)] :
    ∀ (s : σ) (events : List ε), Decidable (Guarded step ok s events)
  | _, [] => .isTrue guarded_nil
  | s, event :: events =>
      have : Decidable (Guarded step ok (step s event) events) :=
        decidableGuarded (step s event) events
      decidable_of_iff _ guarded_cons.symm

theorem guarded_concat {ok : σ → ε → Prop} {s : σ} {events : List ε} {event : ε} :
    Guarded step ok s (events ++ [event]) ↔
      Guarded step ok s events ∧ ok (run step s events) event := by
  constructor
  · exact fun h => ⟨h.front, h.last⟩
  · rintro ⟨hevents, hevent⟩ before event' after heq
    rcases concat_eq_append_cons_iff.mp heq with ⟨rfl, rfl, -⟩ | ⟨rest, -, hrest⟩
    · exact hevent
    · exact hevents before event' rest hrest

theorem run_induction_guarded {ok : σ → ε → Prop} {P : List ε → σ → Prop} {s : σ}
    (hinit : P [] s)
    (hstep : ∀ events event, P events (run step s events) →
      ok (run step s events) event → P (events ++ [event]) (step (run step s events) event))
    (events : List ε) (h : Guarded step ok s events) : P events (run step s events) := by
  induction events using List.reverseRecOn with
  | nil => exact hinit
  | append_singleton events event ih =>
      rw [run_concat]
      exact hstep events event (ih h.front) h.last

/-- What a step keeps exactly when it meets the condition, a run keeps exactly when
all its steps do. -/
theorem run_iff_guarded {ok : σ → ε → Prop} {I P : σ → Prop} {s : σ} (hs : I s) (hP : P s)
    (hI : ∀ s event, I s → I (step s event))
    (hstep : ∀ s event, I s → (P (step s event) ↔ P s ∧ ok s event)) (events : List ε) :
    P (run step s events) ↔ Guarded step ok s events := by
  have hinv : ∀ events, I (run step s events) :=
    run_induction step hs fun _ event h => hI _ event h
  induction events using List.reverseRecOn with
  | nil => simpa using hP
  | append_singleton events event ih =>
      rw [run_concat, hstep _ _ (hinv events), guarded_concat]
      exact and_congr_left' ih

end Runs

end XeusZmq.Runs
