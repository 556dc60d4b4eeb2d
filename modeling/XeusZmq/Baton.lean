import XeusZmq.Runs

/-!
Procedures that several threads carry out in turns: a phase that never falls, and for
each phase the steps that end it.
-/

namespace XeusZmq.Baton

open XeusZmq.Runs

variable {σ ε : Type*} {step : σ → ε → σ} {inv : σ → Prop} {ok : ε → Prop} {phase : σ → Nat}
  {turn : Nat → ε → Prop} {last : Nat}

/-- As long as all steps are `ok`, no step takes the procedure back, and one whose turn it
is takes it on. -/
structure Passes (step : σ → ε → σ) (inv : σ → Prop) (ok : ε → Prop) (phase : σ → Nat)
    (turn : Nat → ε → Prop) (last : Nat) : Prop where
  keeps : ∀ s event, inv s → ok event → inv (step s event)
  mono : ∀ s event, inv s → ok event → phase s ≤ phase (step s event)
  leads : ∀ s event, inv s → ok event → phase s < last → turn (phase s) event →
    phase s < phase (step s event)

/-- One step for each phase, from the first one given. -/
def Turns (turn : Nat → ε → Prop) : Nat → List ε → Prop
  | _, [] => True
  | first, event :: turns => turn first event ∧ Turns turn (first + 1) turns

theorem Passes.inv_run (h : Passes step inv ok phase turn last) {s : σ} (hinv : inv s)
    {events : List ε} (hok : ∀ event ∈ events, ok event) : inv (run step s events) := by
  induction events generalizing s with
  | nil => exact hinv
  | cons event events ih =>
      exact ih (h.keeps s event hinv (hok event List.mem_cons_self)) fun event' hmem =>
        hok event' (List.mem_cons_of_mem event hmem)

/-- Whatever steps come between them, steps taken in turn lead through all their phases. -/
theorem Passes.reaches (h : Passes step inv ok phase turn last) {turns events : List ε}
    (hsub : turns.Sublist events) {first : Nat} (hturns : Turns turn first turns)
    (hlast : first + turns.length ≤ last) {s : σ} (hinv : inv s) (hphase : first ≤ phase s)
    (hok : ∀ event ∈ events, ok event) : first + turns.length ≤ phase (run step s events) := by
  induction hsub generalizing first s with
  | slnil => exact hphase
  | cons event hsub ih =>
      have hevent := hok event List.mem_cons_self
      exact ih hturns hlast (h.keeps s event hinv hevent)
        (Nat.le_trans hphase (h.mono s event hinv hevent))
        fun event' hmem => hok event' (List.mem_cons_of_mem event hmem)
  | cons_cons event hsub ih =>
      have hevent := hok event List.mem_cons_self
      have hnext : first + 1 ≤ phase (step s event) := by
        rcases Nat.eq_or_lt_of_le hphase with hfirst | hpast
        · have hbound : phase s < last := by
            rw [List.length_cons] at hlast
            omega
          have hleads := h.leads s event hinv hevent hbound (hfirst ▸ hturns.1)
          omega
        · exact Nat.le_trans hpast (h.mono s event hinv hevent)
      rw [List.length_cons] at hlast ⊢
      have hrest := ih hturns.2 (by omega) (h.keeps s event hinv hevent) hnext
        fun event' hmem => hok event' (List.mem_cons_of_mem event hmem)
      rw [run_cons]
      omega

end XeusZmq.Baton
