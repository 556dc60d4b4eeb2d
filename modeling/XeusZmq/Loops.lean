import Mathlib.Logic.Function.Iterate

/-!
Loops whose body tells whether it is to be run again, run for at most a number of rounds.
-/

namespace XeusZmq.Loops

variable {σ : Type*} (step : σ → Bool × σ)

/-- The state behind the loop, unless the rounds do not suffice. -/
def loop : Nat → σ → Option σ
  | 0, _ => none
  | fuel + 1, s =>
      match step s with
      | (true, s') => loop fuel s'
      | (false, s') => some s'

def round (s : σ) : σ :=
  (step s).2

def Stays (n : Nat) (s : σ) : Prop :=
  ∀ i < n, (step ((round step)^[i] s)).1 = true

variable {step}

theorem loop_of_true {s : σ} (h : (step s).1 = true) (fuel : Nat) :
    loop step (fuel + 1) s = loop step fuel (round step s) := by
  unfold round
  rw [loop]
  rcases hstep : step s with ⟨again, s'⟩
  rw [hstep] at h
  obtain rfl : again = true := h
  rfl

theorem loop_of_false {s : σ} (h : (step s).1 = false) (fuel : Nat) :
    loop step (fuel + 1) s = some (round step s) := by
  unfold round
  rw [loop]
  rcases hstep : step s with ⟨again, s'⟩
  rw [hstep] at h
  obtain rfl : again = false := h
  rfl

theorem stays_succ {n : Nat} {s : σ} :
    Stays step (n + 1) s ↔ (step s).1 = true ∧ Stays step n (round step s) := by
  constructor
  · intro h
    exact ⟨h 0 (Nat.succ_pos n), fun i hi => h (i + 1) (Nat.succ_lt_succ hi)⟩
  · rintro ⟨hfirst, hrest⟩ i hi
    cases i with
    | zero => exact hfirst
    | succ i => exact hrest i (Nat.lt_of_succ_lt_succ hi)

/-- The first round that is not to be followed by another is the last. -/
theorem loop_eq_some_iff {fuel : Nat} {s s' : σ} :
    loop step fuel s = some s' ↔
      ∃ n < fuel, Stays step n s ∧ (step ((round step)^[n] s)).1 = false ∧
        s' = (round step)^[n + 1] s := by
  induction fuel generalizing s with
  | zero => simp [loop]
  | succ fuel ih =>
      cases hstep : (step s).1 with
      | true =>
          rw [loop_of_true hstep, ih]
          constructor
          · rintro ⟨n, hn, hstays, hleaves, rfl⟩
            exact ⟨n + 1, Nat.succ_lt_succ hn, stays_succ.mpr ⟨hstep, hstays⟩, hleaves, rfl⟩
          · rintro ⟨n, hn, hstays, hleaves, rfl⟩
            cases n with
            | zero =>
                rw [Function.iterate_zero, id_eq, hstep] at hleaves
                cases hleaves
            | succ n =>
                exact ⟨n, Nat.lt_of_succ_lt_succ hn, (stays_succ.mp hstays).2, hleaves, rfl⟩
      | false =>
          rw [loop_of_false hstep]
          constructor
          · intro h
            refine ⟨0, Nat.succ_pos fuel, fun i hi => absurd hi (Nat.not_lt_zero i), hstep, ?_⟩
            exact (Option.some.inj h).symm
          · rintro ⟨n, hn, hstays, -, rfl⟩
            cases n with
            | zero => rfl
            | succ n =>
                have hfirst := (stays_succ.mp hstays).1
                rw [hstep] at hfirst
                cases hfirst

theorem loop_of_leaves {n fuel : Nat} {s : σ} (hstays : Stays step n s)
    (hleaves : (step ((round step)^[n] s)).1 = false) (hfuel : n < fuel) :
    loop step fuel s = some ((round step)^[n + 1] s) :=
  loop_eq_some_iff.mpr ⟨n, hfuel, hstays, hleaves, rfl⟩

theorem loop_unique {fuel fuel' : Nat} {s a b : σ} (ha : loop step fuel s = some a)
    (hb : loop step fuel' s = some b) : a = b := by
  obtain ⟨n, -, hstays, hleaves, rfl⟩ := loop_eq_some_iff.mp ha
  obtain ⟨n', -, hstays', hleaves', rfl⟩ := loop_eq_some_iff.mp hb
  obtain hlt | rfl | hgt := Nat.lt_trichotomy n n'
  · rw [hstays' n hlt] at hleaves
    cases hleaves
  · rfl
  · rw [hstays n' hgt] at hleaves'
    cases hleaves'

theorem loop_eq_none_of_stays {s : σ} (h : ∀ n, Stays step n s) (fuel : Nat) :
    loop step fuel s = none := by
  rw [Option.eq_none_iff_forall_ne_some]
  intro s' hs'
  obtain ⟨n, -, -, hleaves, -⟩ := loop_eq_some_iff.mp hs'
  have hstays := h (n + 1) n (Nat.lt_succ_self n)
  rw [hleaves] at hstays
  cases hstays

end XeusZmq.Loops
