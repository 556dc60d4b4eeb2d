import XeusZmq.Baton
import Mathlib.Logic.Function.Basic

/-!
A caller that stops threads one after another. Each thread has a REP socket, replies to
the first request that it sees there, and leaves; the caller waits for the reply before it
asks the next one.
-/

namespace XeusZmq.StopChain

open XeusZmq.Runs
open XeusZmq.Baton

inductive RepStatus
  | running
  | left
  | failed
  deriving DecidableEq, Repr

structure Rep (μ : Type*) where
  waiting : List μ
  replies : List μ
  status : RepStatus

section Chain

variable {μ : Type*} {n : Nat}

namespace Rep

def fresh : Rep μ :=
  ⟨[], [], .running⟩

def ask (m : μ) (self : Rep μ) : Rep μ :=
  { self with waiting := self.waiting ++ [m] }

/-- An iteration of the thread, with whether it looks at the socket. -/
def pass (sees : Bool) (self : Rep μ) : Rep μ :=
  match self.status, sees, self.waiting with
  | .running, true, m :: rest => ⟨rest, self.replies ++ [m], .left⟩
  | _, _, _ => self

@[simp] theorem pass_fresh (sees : Bool) : (fresh : Rep μ).pass sees = fresh := by
  cases sees <;> rfl

@[simp] theorem pass_left (sees : Bool) (waiting replies : List μ) :
    (⟨waiting, replies, .left⟩ : Rep μ).pass sees = ⟨waiting, replies, .left⟩ := by
  cases sees <;> rfl

end Rep

/-- The threads with how many of them have replied to the caller, and whether it waits for
the next one. -/
structure Chain (n : Nat) (μ : Type*) where
  rep : Fin n → Rep μ
  asked : Nat
  awaiting : Bool

inductive Label (n : Nat)
  | call
  | serve (i : Fin n) (sees : Bool)

namespace Chain

def initial : Chain n μ :=
  ⟨fun _ => .fresh, 0, false⟩

/-- The caller sends the next request, or takes the reply if it is there. -/
def call (m : Fin n → μ) (self : Chain n μ) : Chain n μ :=
  if h : self.asked < n then
    if self.awaiting then
      if (self.rep ⟨self.asked, h⟩).replies.isEmpty then self
      else { self with asked := self.asked + 1, awaiting := false }
    else
      { self with
        rep := Function.update self.rep ⟨self.asked, h⟩
          ((self.rep ⟨self.asked, h⟩).ask (m ⟨self.asked, h⟩))
        awaiting := true }
  else self

def serve (i : Fin n) (sees : Bool) (self : Chain n μ) : Chain n μ :=
  { self with rep := Function.update self.rep i ((self.rep i).pass sees) }

def step (m : Fin n → μ) (self : Chain n μ) : Label n → Chain n μ
  | .call => self.call m
  | .serve i sees => self.serve i sees

/-- A thread that has been asked has its request or has replied and left, the ones before
it have replied and left, and the ones behind it have not been asked. -/
structure Inv (m : Fin n → μ) (s : Chain n μ) : Prop where
  bound : s.asked + (if s.awaiting then 1 else 0) ≤ n
  before : ∀ i : Fin n, i.val < s.asked → s.rep i = ⟨[], [m i], .left⟩
  asked : ∀ i : Fin n, i.val = s.asked → s.awaiting = true →
    s.rep i = ⟨[m i], [], .running⟩ ∨ s.rep i = ⟨[], [m i], .left⟩
  behind : ∀ i : Fin n, s.asked + (if s.awaiting then 1 else 0) ≤ i.val → s.rep i = .fresh

theorem inv_initial (m : Fin n → μ) : (initial : Chain n μ).Inv m where
  bound := Nat.zero_le n
  before _ hi := absurd hi (Nat.not_lt_zero _)
  asked _ _ hawaiting := absurd hawaiting Bool.false_ne_true
  behind _ _ := rfl

theorem inv_serve {m : Fin n → μ} {s : Chain n μ} (h : s.Inv m) (i : Fin n) (sees : Bool) :
    (s.serve i sees).Inv m := by
  have hrep (j : Fin n) : (s.serve i sees).rep j = if j = i then (s.rep i).pass sees else s.rep j :=
    Function.update_apply _ _ _ _
  refine ⟨h.bound, fun j hj => ?_, fun j hj hawaiting => ?_, fun j hj => ?_⟩
  · rw [hrep]
    split_ifs with hji
    · rw [← hji, h.before j hj, Rep.pass_left]
    · exact h.before j hj
  · rw [hrep]
    split_ifs with hji
    · rw [← hji]
      rcases h.asked j hj hawaiting with hwaiting | hleft
      · rw [hwaiting]
        cases sees with
        | true => exact Or.inr rfl
        | false => exact Or.inl rfl
      · rw [hleft, Rep.pass_left]
        exact Or.inr rfl
    · exact h.asked j hj hawaiting
  · rw [hrep]
    split_ifs with hji
    · rw [← hji, h.behind j hj, Rep.pass_fresh]
    · exact h.behind j hj

theorem inv_call {m : Fin n → μ} {s : Chain n μ} (h : s.Inv m) : (s.call m).Inv m := by
  unfold call
  split_ifs with hbound hawaiting hnone
  · exact h
  · have hleft : s.rep ⟨s.asked, hbound⟩ = ⟨[], [m ⟨s.asked, hbound⟩], .left⟩ := by
      rcases h.asked ⟨s.asked, hbound⟩ rfl hawaiting with hwaiting | hleft
      · rw [hwaiting] at hnone
        exact absurd rfl hnone
      · exact hleft
    have hbehind := h.behind
    rw [if_pos hawaiting] at hbehind
    refine ⟨hbound, fun i hi => ?_, fun _ _ h => absurd h Bool.false_ne_true, hbehind⟩
    rcases Nat.lt_succ_iff_lt_or_eq.mp hi with hi | hi
    · exact h.before i hi
    · obtain rfl : i = ⟨s.asked, hbound⟩ := Fin.ext hi
      exact hleft
  · have hnot : s.awaiting = false := by simpa using hawaiting
    have hbehind := h.behind
    rw [hnot] at hbehind
    have hrep (j : Fin n) : Function.update s.rep ⟨s.asked, hbound⟩
        ((s.rep ⟨s.asked, hbound⟩).ask (m ⟨s.asked, hbound⟩)) j =
          if j = ⟨s.asked, hbound⟩ then
            (s.rep ⟨s.asked, hbound⟩).ask (m ⟨s.asked, hbound⟩) else s.rep j :=
      Function.update_apply _ _ _ _
    refine ⟨hbound, fun i hi => ?_, fun i hi _ => Or.inl ?_, fun i hi => ?_⟩
    · have hne : i ≠ ⟨s.asked, hbound⟩ := fun hi' => absurd (congrArg Fin.val hi') (Nat.ne_of_lt hi)
      exact (hrep i).trans ((if_neg hne).trans (h.before i hi))
    · obtain rfl : i = ⟨s.asked, hbound⟩ := Fin.ext hi
      refine (hrep _).trans ((if_pos rfl).trans ?_)
      rw [hbehind ⟨s.asked, hbound⟩ (Nat.le_refl _)]
      rfl
    · have hi' : s.asked + 1 ≤ i.val := hi
      have hne : i ≠ ⟨s.asked, hbound⟩ := fun hi'' => by
        have hval := congrArg Fin.val hi''
        simp only at hval
        omega
      exact (hrep i).trans ((if_neg hne).trans (hbehind i (Nat.le_of_succ_le hi')))
  · exact h

theorem inv_step {m : Fin n → μ} {s : Chain n μ} (h : s.Inv m) (label : Label n) :
    (s.step m label).Inv m := by
  cases label with
  | call => exact inv_call h
  | serve i sees => exact inv_serve h i sees

/-- Every thread has replied and left when the caller has gone through all of them. -/
theorem Inv.left {m : Fin n → μ} {s : Chain n μ} (h : s.Inv m) (hall : s.asked = n) (i : Fin n) :
    s.rep i = ⟨[], [m i], .left⟩ :=
  h.before i (hall.symm ▸ i.isLt)

/-- The threads before one that has been asked have replied and left. -/
theorem Inv.left_of_asked {m : Fin n → μ} {s : Chain n μ} (h : s.Inv m) {i j : Fin n}
    (hij : i.val < j.val) (hasked : s.rep j ≠ .fresh) : s.rep i = ⟨[], [m i], .left⟩ := by
  refine h.before i ?_
  by_contra hnot
  refine hasked (h.behind j ?_)
  split_ifs <;> omega

/-! How far the caller has come. -/

/-- Three phases for each thread: before it is asked, before it replies, and before the
caller has the reply. -/
def phase (s : Chain n μ) : Nat :=
  3 * s.asked +
    if h : s.asked < n then
      if s.awaiting then if (s.rep ⟨s.asked, h⟩).status = .left then 2 else 1 else 0
    else 0

def turn (p : Nat) (label : Label n) : Prop :=
  if p % 3 = 1 then ∃ i, label = .serve i true ∧ i.val = p / 3 else label = .call

/-- What the phase says about the caller and the thread whose turn it is. -/
inductive At (m : Fin n → μ) (s : Chain n μ) : Nat → Prop
  | between (hawaiting : s.awaiting = false) : At m s (3 * s.asked)
  | waits (h : s.asked < n) (hawaiting : s.awaiting = true)
      (hrep : s.rep ⟨s.asked, h⟩ = ⟨[m ⟨s.asked, h⟩], [], .running⟩) : At m s (3 * s.asked + 1)
  | replied (h : s.asked < n) (hawaiting : s.awaiting = true)
      (hrep : s.rep ⟨s.asked, h⟩ = ⟨[], [m ⟨s.asked, h⟩], .left⟩) : At m s (3 * s.asked + 2)

theorem phase_between {s : Chain n μ} (hawaiting : s.awaiting = false) :
    s.phase = 3 * s.asked := by
  simp [phase, hawaiting]

theorem phase_waits {m : μ} {s : Chain n μ} (h : s.asked < n) (hawaiting : s.awaiting = true)
    (hrep : s.rep ⟨s.asked, h⟩ = ⟨[m], [], .running⟩) : s.phase = 3 * s.asked + 1 := by
  simp [phase, h, hawaiting, hrep]

theorem phase_replied {m : μ} {s : Chain n μ} (h : s.asked < n) (hawaiting : s.awaiting = true)
    (hrep : s.rep ⟨s.asked, h⟩ = ⟨[], [m], .left⟩) : s.phase = 3 * s.asked + 2 := by
  simp [phase, h, hawaiting, hrep]

theorem Inv.at_phase {m : Fin n → μ} {s : Chain n μ} (h : s.Inv m) : s.At m s.phase := by
  cases hawaiting : s.awaiting with
  | false =>
      rw [phase_between hawaiting]
      exact .between hawaiting
  | true =>
      have hbound : s.asked < n := by
        have hle := h.bound
        rw [if_pos hawaiting] at hle
        exact hle
      rcases h.asked ⟨s.asked, hbound⟩ rfl hawaiting with hrep | hrep
      · rw [phase_waits hbound hawaiting hrep]
        exact .waits hbound hawaiting hrep
      · rw [phase_replied hbound hawaiting hrep]
        exact .replied hbound hawaiting hrep

/-- A call leads on before a thread is asked and when it has replied. -/
theorem phase_call {m : Fin n → μ} {s : Chain n μ} (h : s.Inv m) :
    (s.call m).phase =
      if s.phase < 3 * n ∧ s.phase % 3 ≠ 1 then s.phase + 1 else s.phase := by
  have hat := h.at_phase
  generalize hphase : s.phase = p at hat
  cases hat with
  | between hawaiting =>
      by_cases hbound : s.asked < n
      · rw [if_pos ⟨by omega, by omega⟩, call, dif_pos hbound, hawaiting,
          if_neg Bool.false_ne_true]
        refine phase_waits (m := m ⟨s.asked, hbound⟩) hbound rfl ?_
        have hbehind := h.behind
        rw [hawaiting] at hbehind
        show Function.update _ _ _ _ = _
        rw [Function.update_self, hbehind ⟨s.asked, hbound⟩ (Nat.le_refl _)]
        rfl
      · rw [if_neg (by omega), call, dif_neg hbound, hphase]
  | waits hbound hawaiting hrep =>
      rw [if_neg (by omega), call, dif_pos hbound, if_pos hawaiting, hrep]
      exact hphase
  | replied hbound hawaiting hrep =>
      rw [if_pos ⟨by omega, by omega⟩, call, dif_pos hbound, if_pos hawaiting, hrep]
      show ({ s with asked := s.asked + 1, awaiting := false } : Chain n μ).phase = _
      rw [phase_between rfl]
      show 3 * (s.asked + 1) = _
      omega

/-- Only the thread whose turn it is leads on. -/
theorem phase_serve {m : Fin n → μ} {s : Chain n μ} (h : s.Inv m) (i : Fin n) (sees : Bool) :
    (s.serve i sees).phase =
      if s.phase % 3 = 1 ∧ i.val = s.phase / 3 ∧ sees = true then s.phase + 1 else s.phase := by
  have hat := h.at_phase
  generalize hphase : s.phase = p at hat
  cases hat with
  | between hawaiting =>
      rw [if_neg (by omega), phase_between (by exact hawaiting)]
      rfl
  | waits hbound hawaiting hrep =>
      have hrep' : (s.serve i sees).rep ⟨s.asked, hbound⟩ =
          if (⟨s.asked, hbound⟩ : Fin n) = i then (s.rep i).pass sees
          else s.rep ⟨s.asked, hbound⟩ := Function.update_apply _ _ _ _
      by_cases hi : (⟨s.asked, hbound⟩ : Fin n) = i
      · subst hi
        rw [if_pos rfl, hrep] at hrep'
        cases sees with
        | true =>
            rw [if_pos ⟨by omega, by simp only; omega, rfl⟩]
            exact phase_replied hbound hawaiting hrep'
        | false =>
            rw [if_neg (by simp)]
            exact phase_waits hbound hawaiting hrep'
      · have hval : i.val ≠ s.asked := fun hval => hi (Fin.ext hval.symm)
        rw [if_neg hi, hrep] at hrep'
        rw [if_neg (by omega)]
        exact phase_waits hbound hawaiting hrep'
  | replied hbound hawaiting hrep =>
      have hrep' : (s.serve i sees).rep ⟨s.asked, hbound⟩ =
          if (⟨s.asked, hbound⟩ : Fin n) = i then (s.rep i).pass sees
          else s.rep ⟨s.asked, hbound⟩ := Function.update_apply _ _ _ _
      rw [if_neg (by omega)]
      refine phase_replied (m := m ⟨s.asked, hbound⟩) hbound hawaiting ?_
      show (s.serve i sees).rep ⟨s.asked, hbound⟩ = _
      rw [hrep']
      split_ifs with hi
      · rw [← hi, hrep, Rep.pass_left]
      · exact hrep

theorem passes (m : Fin n → μ) :
    Passes (step m) (Inv m) (fun _ => True) phase turn (3 * n) where
  keeps _ label h _ := inv_step h label
  mono s label h _ := by
    cases label with
    | call =>
        rw [step, phase_call h]
        split_ifs <;> omega
    | serve i sees =>
        rw [step, phase_serve h]
        split_ifs <;> omega
  leads s label h _ hlast hturn := by
    unfold turn at hturn
    split_ifs at hturn with hmod
    · obtain ⟨i, rfl, hi⟩ := hturn
      rw [step, phase_serve h, if_pos ⟨hmod, hi, rfl⟩]
      exact Nat.lt_succ_self _
    · subst hturn
      rw [step, phase_call h, if_pos ⟨hlast, hmod⟩]
      exact Nat.lt_succ_self _

theorem asked_of_phase {m : Fin n → μ} {s : Chain n μ} (h : s.Inv m) (hphase : 3 * n ≤ s.phase) :
    s.asked = n := by
  have hbound := h.bound
  have hat := h.at_phase
  generalize s.phase = p at hat hphase
  cases hat with
  | between hawaiting =>
      rw [hawaiting] at hbound
      simp only [Bool.false_eq_true, if_false] at hbound
      omega
  | waits hlt => omega
  | replied hlt => omega

end Chain

end Chain

end XeusZmq.StopChain
