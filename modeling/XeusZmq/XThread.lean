import XeusZmq.Commands
import XeusZmq.Runs
import Mathlib.Logic.Equiv.Basic

/-!
`xthread`: a `std::thread` that is joined when it is destroyed or assigned to.
-/

namespace XeusZmq.XThread

open XeusZmq.Commands
open XeusZmq.Runs

/-- What an operation does that does not return: it waits until a thread has ended, it
throws, or it ends the program. -/
inductive Halt
  | waits
  | systemError
  | terminates
  deriving DecidableEq

inductive Release
  | joined
  | detached
  deriving DecidableEq

/-- The thread that each object stands for, if any, and what has become of the threads
for which no object stands any more. -/
structure Threads (κ : Type) where
  handle : κ → Option Nat
  spawned : Nat
  finished : Nat → Bool
  released : List (Nat × Release)

def Threads.initial {κ : Type} : Threads κ :=
  ⟨fun _ => none, 0, fun _ => false, []⟩

/-- Each thread that has been started has one object that stands for it, or has been
joined behind its end or detached, once. -/
structure Owned {κ : Type} (s : Threads κ) : Prop where
  held : ∀ k t, s.handle k = some t → t < s.spawned ∧ t ∉ s.released.map Prod.fst
  unique : ∀ k k' t, s.handle k = some t → s.handle k' = some t → k = k'
  accounted : ∀ t < s.spawned, (∃ k, s.handle k = some t) ∨ t ∈ s.released.map Prod.fst
  once : (s.released.map Prod.fst).Nodup
  started : ∀ t ∈ s.released.map Prod.fst, t < s.spawned
  ended : ∀ t, (t, .joined) ∈ s.released → s.finished t = true

theorem owned_initial {κ : Type} : Owned (.initial : Threads κ) where
  held _ _ h := by cases h
  unique _ _ _ h := by cases h
  accounted _ h := absurd h (Nat.not_lt_zero _)
  once := List.nodup_nil
  started _ h := by cases h
  ended _ h := by cases h

def Threads.finish {κ : Type} (t : Nat) (self : Threads κ) : Threads κ :=
  { self with finished := Function.update self.finished t true }

theorem Owned.finish {κ : Type} {s : Threads κ} (h : Owned s) (t : Nat) : Owned (s.finish t) := by
  refine ⟨h.held, h.unique, h.accounted, h.once, h.started, fun t' hmem => ?_⟩
  by_cases htt : t' = t
  · rw [htt]
    exact Function.update_self _ _ _
  · exact (Function.update_of_ne htt _ _).trans (h.ended t' hmem)

abbrev Operation (κ : Type) := Command (Threads κ) Halt

/-- An exception that leaves a destructor ends the program. -/
def noexcept {κ : Type} (c : Operation κ PUnit) : Operation κ PUnit :=
  tryCatch c fun
    | .systemError => throw .terminates
    | halt => throw halt

theorem exec_noexcept {κ : Type} (c : Operation κ PUnit) (s : Threads κ) :
    exec (noexcept c) s =
      match exec c s with
      | (.ok a, s') => (.ok a, s')
      | (.error .systemError, s') => (.error .terminates, s')
      | (.error halt, s') => (.error halt, s') := by
  rw [noexcept, exec_tryCatch]
  rcases exec c s with ⟨result, s'⟩
  cases result with
  | ok a => rfl
  | error halt => cases halt <;> rfl

section Threads

variable {κ : Type} [DecidableEq κ]

namespace Threads

def spawn (k : κ) (self : Threads κ) : Threads κ :=
  { self with
    handle := Function.update self.handle k (some self.spawned)
    spawned := self.spawned + 1 }

def exchange (k k' : κ) (self : Threads κ) : Threads κ :=
  { self with handle := fun other => self.handle (Equiv.swap k k' other) }

def release (k : κ) (t : Nat) (how : Release) (self : Threads κ) : Threads κ :=
  { self with
    handle := Function.update self.handle k none
    released := self.released ++ [(t, how)] }

end Threads

/-! `std::thread`, whose operations are called on some thread, if not on one of those. -/

def stdJoin (caller : Option Nat) (k : κ) : Operation κ PUnit := do
  let s ← get
  match s.handle k with
  | none => throw .systemError
  | some t =>
      -- a thread that waited for itself would never go on
      if caller = some t then throw .systemError
      else if s.finished t then modify (Threads.release k t .joined)
      else throw .waits

def stdDetach (k : κ) : Operation κ PUnit := do
  let s ← get
  match s.handle k with
  | none => throw .systemError
  | some t => modify (Threads.release k t .detached)

/-- The object on the right is left without a thread, as the one on the left was. -/
def stdMoveAssign (k rhs : κ) : Operation κ PUnit := do
  let s ← get
  if (s.handle k).isSome then throw .terminates
  else modify (Threads.exchange k rhs)

def stdDestroy (k : κ) : Operation κ PUnit := do
  let s ← get
  if (s.handle k).isSome then throw .terminates

/-! `xthread`. -/

/-- The object has no thread yet. -/
def default : Operation κ PUnit :=
  pure ⟨⟩

def construct (k : κ) : Operation κ PUnit :=
  modify (Threads.spawn k)

def moveConstruct (k rhs : κ) : Operation κ PUnit :=
  modify (Threads.exchange k rhs)

def join (caller : Option Nat) (k : κ) : Operation κ PUnit :=
  stdJoin caller k

def detach (k : κ) : Operation κ PUnit :=
  stdDetach k

def swap (k other : κ) : Operation κ PUnit :=
  modify (Threads.exchange k other)

def destroy (caller : Option Nat) (k : κ) : Operation κ PUnit :=
  noexcept do
    let s ← get
    if (s.handle k).isSome then
      join caller k
    stdDestroy k

def moveAssign (caller : Option Nat) (k rhs : κ) : Operation κ PUnit := do
  let s ← get
  if (s.handle k).isSome then
    join caller k
  stdMoveAssign k rhs

/-! What the operations keep. -/

theorem handle_spawn (s : Threads κ) (k other : κ) :
    (s.spawn k).handle other = if other = k then some s.spawned else s.handle other :=
  Function.update_apply _ _ _ _

theorem handle_release (s : Threads κ) (k other : κ) (t : Nat) (how : Release) :
    (s.release k t how).handle other = if other = k then none else s.handle other :=
  Function.update_apply _ _ _ _

theorem handle_exchange_of_ne (s : Threads κ) {k k' other : κ} (hk : other ≠ k)
    (hk' : other ≠ k') : (s.exchange k k').handle other = s.handle other :=
  congrArg s.handle (Equiv.swap_apply_of_ne_of_ne hk hk')

theorem handle_exchange_left (s : Threads κ) (k k' : κ) :
    (s.exchange k k').handle k = s.handle k' :=
  congrArg s.handle (Equiv.swap_apply_left k k')

theorem handle_exchange_right (s : Threads κ) (k k' : κ) :
    (s.exchange k k').handle k' = s.handle k :=
  congrArg s.handle (Equiv.swap_apply_right k k')

theorem Owned.spawn {s : Threads κ} (h : Owned s) {k : κ} (hk : s.handle k = none) :
    Owned (s.spawn k) := by
  have hfresh : s.spawned ∉ s.released.map Prod.fst := fun hmem =>
    absurd (h.started _ hmem) (Nat.lt_irrefl _)
  have hcases : ∀ k' t, (s.spawn k).handle k' = some t →
      k' = k ∧ t = s.spawned ∨ s.handle k' = some t ∧ t < s.spawned := by
    intro k' t ht
    by_cases hkk : k' = k
    · rw [handle_spawn, if_pos hkk] at ht
      exact Or.inl ⟨hkk, (Option.some.inj ht).symm⟩
    · rw [handle_spawn, if_neg hkk] at ht
      exact Or.inr ⟨ht, (h.held k' t ht).1⟩
  refine ⟨fun k' t ht => ?_, fun k₁ k₂ t h₁ h₂ => ?_, fun t ht => ?_, h.once,
    fun t hmem => Nat.lt_succ_of_lt (h.started t hmem), h.ended⟩
  · rcases hcases k' t ht with ⟨-, rfl⟩ | ⟨hold, hlt⟩
    · exact ⟨Nat.lt_succ_self _, hfresh⟩
    · exact ⟨Nat.lt_succ_of_lt hlt, (h.held k' t hold).2⟩
  · rcases hcases k₁ t h₁ with ⟨rfl, rfl⟩ | ⟨hold₁, hlt₁⟩
    · rcases hcases k₂ _ h₂ with ⟨rfl, -⟩ | ⟨-, hlt₂⟩
      · rfl
      · exact absurd hlt₂ (Nat.lt_irrefl _)
    · rcases hcases k₂ t h₂ with ⟨-, rfl⟩ | ⟨hold₂, -⟩
      · exact absurd hlt₁ (Nat.lt_irrefl _)
      · exact h.unique k₁ k₂ t hold₁ hold₂
  · rcases Nat.lt_succ_iff_lt_or_eq.mp ht with hlt | rfl
    · rcases h.accounted t hlt with ⟨k', hk'⟩ | hmem
      · have hne : k' ≠ k := by
          rintro rfl
          cases hk.symm.trans hk'
        exact Or.inl ⟨k', (Function.update_of_ne hne _ _).trans hk'⟩
      · exact Or.inr hmem
    · exact Or.inl ⟨k, Function.update_self _ _ _⟩

theorem Owned.exchange {s : Threads κ} (h : Owned s) (k k' : κ) : Owned (s.exchange k k') where
  held other t ht := h.held _ t ht
  unique k₁ k₂ t h₁ h₂ := (Equiv.swap k k').injective (h.unique _ _ t h₁ h₂)
  accounted t ht := by
    rcases h.accounted t ht with ⟨other, hother⟩ | hmem
    · refine Or.inl ⟨Equiv.swap k k' other, ?_⟩
      exact (congrArg s.handle (Equiv.swap_apply_self k k' other)).trans hother
    · exact Or.inr hmem
  once := h.once
  started := h.started
  ended := h.ended

theorem Owned.release {s : Threads κ} (h : Owned s) {k : κ} {t : Nat} (hk : s.handle k = some t)
    {how : Release} (hended : how = .joined → s.finished t = true) :
    Owned (s.release k t how) := by
  have hmap : (s.release k t how).released.map Prod.fst = s.released.map Prod.fst ++ [t] := by
    rw [Threads.release, List.map_append]
    rfl
  have hcases : ∀ k' t', (s.release k t how).handle k' = some t' →
      k' ≠ k ∧ s.handle k' = some t' := by
    intro k' t' ht'
    by_cases hkk : k' = k
    · rw [handle_release, if_pos hkk] at ht'
      cases ht'
    · rw [handle_release, if_neg hkk] at ht'
      exact ⟨hkk, ht'⟩
  refine ⟨fun k' t' ht' => ?_, fun k₁ k₂ t' h₁ h₂ => ?_, fun t' ht' => ?_, ?_, fun t' hmem => ?_,
    fun t' hmem => ?_⟩
  · obtain ⟨hne, hold⟩ := hcases k' t' ht'
    obtain ⟨hlt, hnot⟩ := h.held k' t' hold
    refine ⟨hlt, fun hmem => ?_⟩
    rw [hmap] at hmem
    rcases List.mem_append.mp hmem with hmem | hmem
    · exact hnot hmem
    · rw [List.mem_singleton.mp hmem] at hold
      exact hne (h.unique k' k t hold hk)
  · exact h.unique k₁ k₂ t' (hcases k₁ t' h₁).2 (hcases k₂ t' h₂).2
  · rw [hmap]
    rcases h.accounted t' ht' with ⟨k', hk'⟩ | hmem
    · by_cases hkk : k' = k
      · subst hkk
        obtain rfl := Option.some.inj (hk.symm.trans hk')
        exact Or.inr List.mem_concat_self
      · exact Or.inl ⟨k', (Function.update_of_ne hkk _ _).trans hk'⟩
    · exact Or.inr (List.mem_append_left _ hmem)
  · rw [hmap]
    exact List.nodup_append.mpr ⟨h.once, by simp, by
      rintro t₁ hmem t₂ hmem₂ rfl
      rw [List.mem_singleton.mp hmem₂] at hmem
      exact (h.held k t hk).2 hmem⟩
  · rw [hmap] at hmem
    rcases List.mem_append.mp hmem with hmem | hmem
    · exact h.started t' hmem
    · rw [List.mem_singleton.mp hmem]
      exact (h.held k t hk).1
  · rcases List.mem_append.mp hmem with hmem | hmem
    · exact h.ended t' hmem
    · obtain ⟨rfl, rfl⟩ := Prod.mk.inj (List.mem_singleton.mp hmem)
      exact hended rfl

/-! What each operation does. -/

theorem exec_join (caller : Option Nat) (k : κ) (s : Threads κ) :
    exec (join caller k) s =
      match s.handle k with
      | none => (.error .systemError, s)
      | some t =>
          if caller = some t then (.error .systemError, s)
          else if s.finished t then (.ok ⟨⟩, s.release k t .joined)
          else (.error .waits, s) := by
  rw [join, stdJoin, exec_bind_of_ok (exec_get s)]
  cases s.handle k with
  | none => rfl
  | some t =>
      by_cases hself : caller = some t
      · simp [hself]
      · cases hfinished : s.finished t <;> simp [hself, hfinished]

theorem exec_detach (k : κ) (s : Threads κ) :
    exec (detach k) s =
      match s.handle k with
      | none => (.error .systemError, s)
      | some t => (.ok ⟨⟩, s.release k t .detached) := by
  rw [detach, stdDetach, exec_bind_of_ok (exec_get s)]
  cases s.handle k <;> rfl

/-- An object is joined first, so that `std::thread` finds no thread to end the program
for. -/
theorem exec_joined (caller : Option Nat) (k : κ) {c : Operation κ PUnit}
    {f : Threads κ → Threads κ}
    (hc : ∀ s : Threads κ, s.handle k = none → exec c s = (.ok ⟨⟩, f s)) (s : Threads κ) :
    exec (do
        let s ← get
        if (s.handle k).isSome then
          join caller k
        c) s =
      match s.handle k with
      | none => (.ok ⟨⟩, f s)
      | some t =>
          if caller = some t then (.error .systemError, s)
          else if s.finished t then (.ok ⟨⟩, f (s.release k t .joined))
          else (.error .waits, s) := by
  rw [exec_bind_of_ok (exec_get s)]
  cases hk : s.handle k with
  | none => simpa [hk] using hc s hk
  | some t =>
      have hjoin := exec_join caller k s
      rw [hk] at hjoin
      have hnone : (s.release k t .joined).handle k = none :=
        (handle_release _ _ _ _ _).trans (if_pos rfl)
      by_cases hself : caller = some t
      · subst hself
        simp [exec_bind, hjoin]
      · cases hfinished : s.finished t <;> simp [exec_bind, hjoin, hself, hfinished, hc _ hnone]

theorem exec_destroy (caller : Option Nat) (k : κ) (s : Threads κ) :
    exec (destroy caller k) s =
      match s.handle k with
      | none => (.ok ⟨⟩, s)
      | some t =>
          if caller = some t then (.error .terminates, s)
          else if s.finished t then (.ok ⟨⟩, s.release k t .joined)
          else (.error .waits, s) := by
  have hjoined := exec_joined caller k (c := stdDestroy k) (f := id)
    (fun s hs => by simp [stdDestroy, exec_bind, hs]) s
  rw [destroy, exec_noexcept, hjoined]
  cases s.handle k with
  | none => rfl
  | some t =>
      by_cases hself : caller = some t
      · simp [hself]
      · cases hfinished : s.finished t <;> simp [hself, hfinished]

theorem exec_moveAssign (caller : Option Nat) (k rhs : κ) (s : Threads κ) :
    exec (moveAssign caller k rhs) s =
      match s.handle k with
      | none => (.ok ⟨⟩, s.exchange k rhs)
      | some t =>
          if caller = some t then (.error .systemError, s)
          else if s.finished t then (.ok ⟨⟩, (s.release k t .joined).exchange k rhs)
          else (.error .waits, s) :=
  exec_joined caller k (fun s hs => by simp [stdMoveAssign, exec_bind, hs]) s

end Threads

/-! Programs. -/

inductive Op (κ : Type)
  | default (k : κ)
  | construct (k : κ)
  | moveConstruct (k rhs : κ)
  | moveAssign (k rhs : κ)
  | swap (k other : κ)
  | join (k : κ)
  | detach (k : κ)
  | destroy (k : κ)

/-- Operations are called on one of the threads that have been started or on another. -/
inductive Event (κ : Type)
  | call (caller : Option Nat) (op : Op κ)
  | finish (t : Nat)

/-- The objects that there are, with their threads. -/
structure Program (κ : Type) where
  threads : Threads κ
  alive : κ → Bool
  terminated : Bool

def Program.initial {κ : Type} : Program κ :=
  ⟨.initial, fun _ => false, false⟩

def Program.running {κ : Type} (self : Program κ) (t : Nat) : Bool :=
  t < self.threads.spawned && !self.threads.finished t

/-- A thread ends the object behind which it runs. -/
def Program.DestroysItself {κ : Type} (self : Program κ) : Event κ → Prop
  | .call (some t) (.destroy k) => self.running t = true ∧ self.threads.handle k = some t
  | _ => False

/-- No thread belongs to an object that is gone. -/
structure Sound {κ : Type} (s : Program κ) : Prop where
  owned : Owned s.threads
  gone : ∀ k, s.alive k = false → s.threads.handle k = none

theorem sound_initial {κ : Type} : Sound (.initial : Program κ) :=
  ⟨owned_initial, fun _ _ => rfl⟩

/-- The object on the left has the thread that the object on the right had. -/
structure Moved {κ : Type} (before after : Threads κ) (k rhs : κ) : Prop where
  left : k ≠ rhs → after.handle k = before.handle rhs
  right : after.handle rhs = none

section Programs

variable {κ : Type}

/-- A constructor makes a new object, anything else is done to objects that there are. -/
def Op.possible (alive : κ → Bool) : Op κ → Bool
  | .default k => !alive k
  | .construct k => !alive k
  | .moveConstruct k rhs => !alive k && alive rhs
  | .moveAssign k rhs => alive k && alive rhs
  | .swap k other => alive k && alive other
  | .join k => alive k
  | .detach k => alive k
  | .destroy k => alive k

/-- A thread that has ended calls nothing. -/
def Program.possible (self : Program κ) (caller : Option Nat) (op : Op κ) : Bool :=
  caller.all self.running && op.possible self.alive

theorem destroysItself_call {s : Program κ} (h : Sound s) {caller : Option Nat} {op : Op κ} :
    s.DestroysItself (.call caller op) ↔ s.possible caller op = true ∧
      ∃ t k, caller = some t ∧ op = .destroy k ∧ s.threads.handle k = some t := by
  constructor
  · intro hself
    match caller, op, hself with
    | some t, .destroy k, ⟨hrunning, hhandle⟩ =>
        refine ⟨Bool.and_eq_true_iff.mpr ⟨hrunning, ?_⟩, t, k, rfl, rfl, hhandle⟩
        by_contra hdead
        cases (h.gone k (Bool.eq_false_iff.mpr hdead)).symm.trans hhandle
  · rintro ⟨hpossible, t, k, rfl, rfl, hhandle⟩
    exact ⟨(Bool.and_eq_true_iff.mp hpossible).1, hhandle⟩

variable [DecidableEq κ]

def Op.operation (caller : Option Nat) : Op κ → Operation κ PUnit
  | .default _ => XThread.default
  | .construct k => XThread.construct k
  | .moveConstruct k rhs => XThread.moveConstruct k rhs
  | .moveAssign k rhs => XThread.moveAssign caller k rhs
  | .swap k other => XThread.swap k other
  | .join k => XThread.join caller k
  | .detach k => XThread.detach k
  | .destroy k => XThread.destroy caller k

def Op.objects (alive : κ → Bool) : Op κ → κ → Bool
  | .default k => Function.update alive k true
  | .construct k => Function.update alive k true
  | .moveConstruct k _ => Function.update alive k true
  | .destroy k => Function.update alive k false
  | _ => alive

/-- An operation that waits may be tried again. -/
def Program.step (self : Program κ) : Event κ → Program κ
  | .finish t =>
      if self.terminated = false ∧ t < self.threads.spawned then
        { self with threads := self.threads.finish t }
      else self
  | .call caller op =>
      if self.terminated = false ∧ self.possible caller op = true then
        match exec (op.operation caller) self.threads with
        | (.ok _, threads) => { self with threads, alive := op.objects self.alive }
        | (.error .terminates, threads) => { self with threads, terminated := true }
        | (.error _, threads) => { self with threads }
      else self

def run : List (Event κ) → Program κ :=
  Runs.run Program.step .initial

theorem moved_exchange {s : Threads κ} {k rhs : κ} (hk : s.handle k = none) :
    Moved s (s.exchange k rhs) k rhs where
  left _ := handle_exchange_left s k rhs
  right := (handle_exchange_right s k rhs).trans hk

theorem moved_moveAssign {caller : Option Nat} {k rhs : κ} {s after : Threads κ}
    (hexec : exec (moveAssign caller k rhs) s = (.ok ⟨⟩, after)) : Moved s after k rhs := by
  rw [exec_moveAssign] at hexec
  cases hhandle : s.handle k with
  | none =>
      simp only [hhandle] at hexec
      cases hexec
      exact moved_exchange hhandle
  | some t =>
      have hnone : (s.release k t .joined).handle k = none :=
        (handle_release _ _ _ _ _).trans (if_pos rfl)
      simp only [hhandle] at hexec
      split_ifs at hexec with hself hfinished
      · cases hexec
      · cases hexec
        refine ⟨fun hne => ?_, (moved_exchange hnone).right⟩
        rw [handle_exchange_left, handle_release, if_neg hne.symm]
      · cases hexec

theorem update_true_eq_false {alive : κ → Bool} {k other : κ}
    (h : Function.update alive k true other = false) : other ≠ k ∧ alive other = false := by
  have hne : other ≠ k := by
    rintro rfl
    cases (Function.update_self _ _ _).symm.trans h
  exact ⟨hne, (Function.update_of_ne hne _ _).symm.trans h⟩

theorem update_false_eq_false {alive : κ → Bool} {k other : κ}
    (h : Function.update alive k false other = false) : other = k ∨ alive other = false := by
  by_cases hk : other = k
  · exact Or.inl hk
  · exact Or.inr ((Function.update_of_ne hk _ _).symm.trans h)

/-- What an operation on objects that there are keeps. An object that is not there has no
thread behind it, either. -/
theorem exec_operation {s : Program κ} (h : Sound s) (caller : Option Nat) {op : Op κ}
    (hop : op.possible s.alive = true) :
    Ends (op.operation caller) s.threads
      (fun _ threads => Owned threads ∧
        ∀ k, op.objects s.alive k = false → threads.handle k = none)
      fun _ threads => threads = s.threads := by
  have hrelease (k : κ) (t : Nat) (how : Release) (other : κ) (hother : s.alive other = false) :
      (s.threads.release k t how).handle other = none := by
    rw [handle_release, h.gone other hother, ite_self]
  have hne {k other : κ} (hk : s.alive k = true) (hother : s.alive other = false) : other ≠ k := by
    rintro rfl
    cases hk.symm.trans hother
  cases op with
  | default k =>
      refine ends_pure.mpr ⟨h.owned, fun other hother => ?_⟩
      exact h.gone other (update_true_eq_false hother).2
  | construct k =>
      have hdead : s.alive k = false := (Bool.not_eq_true' _).mp hop
      refine ends_modify.mpr ⟨h.owned.spawn (h.gone k hdead), fun other hother => ?_⟩
      obtain ⟨hk, hother⟩ := update_true_eq_false hother
      rw [handle_spawn, if_neg hk, h.gone other hother]
  | moveConstruct k rhs =>
      obtain ⟨hdead, hrhs⟩ := Bool.and_eq_true_iff.mp hop
      refine ends_modify.mpr ⟨h.owned.exchange k rhs, fun other hother => ?_⟩
      obtain ⟨hk, hother⟩ := update_true_eq_false hother
      rw [handle_exchange_of_ne _ hk (hne hrhs hother), h.gone other hother]
  | moveAssign k rhs =>
      obtain ⟨hk, hrhs⟩ := Bool.and_eq_true_iff.mp hop
      rw [Op.operation, Ends, exec_moveAssign]
      cases hhandle : s.threads.handle k with
      | none =>
          refine ⟨h.owned.exchange k rhs, fun other hother => ?_⟩
          rw [handle_exchange_of_ne _ (hne hk hother) (hne hrhs hother), h.gone other hother]
      | some t =>
          by_cases hself : caller = some t
          · simp [hself]
          cases hfinished : s.threads.finished t with
          | false => simp [hself, hfinished]
          | true =>
              simp only [if_neg hself, hfinished, if_true]
              refine ⟨(h.owned.release hhandle fun _ => hfinished).exchange k rhs,
                fun other hother => ?_⟩
              rw [handle_exchange_of_ne _ (hne hk hother) (hne hrhs hother)]
              exact hrelease k t .joined other hother
  | swap k other =>
      obtain ⟨hk, hother⟩ := Bool.and_eq_true_iff.mp hop
      refine ends_modify.mpr ⟨h.owned.exchange k other, fun third hthird => ?_⟩
      rw [handle_exchange_of_ne _ (hne hk hthird) (hne hother hthird), h.gone third hthird]
  | join k =>
      rw [Op.operation, Ends, exec_join]
      cases hhandle : s.threads.handle k with
      | none => rfl
      | some t =>
          by_cases hself : caller = some t
          · simp [hself]
          cases hfinished : s.threads.finished t with
          | false => simp [hself, hfinished]
          | true =>
              simp only [if_neg hself, hfinished, if_true]
              exact ⟨h.owned.release hhandle fun _ => hfinished, hrelease k t .joined⟩
  | detach k =>
      rw [Op.operation, Ends, exec_detach]
      cases hhandle : s.threads.handle k with
      | none => rfl
      | some t => exact ⟨h.owned.release hhandle (by simp), hrelease k t .detached⟩
  | destroy k =>
      rw [Op.operation, Ends, exec_destroy]
      cases hhandle : s.threads.handle k with
      | none =>
          refine ⟨h.owned, fun other hother => ?_⟩
          rcases update_false_eq_false hother with rfl | hother
          · exact hhandle
          · exact h.gone other hother
      | some t =>
          by_cases hself : caller = some t
          · simp [hself]
          cases hfinished : s.threads.finished t with
          | false => simp [hself, hfinished]
          | true =>
              simp only [if_neg hself, hfinished, if_true]
              refine ⟨h.owned.release hhandle fun _ => hfinished, fun other hother => ?_⟩
              rcases update_false_eq_false hother with rfl | hother
              · rw [handle_release, if_pos rfl]
              · exact hrelease k t .joined other hother

/-- The destructor throws if the thread behind the object calls it, and only then. -/
theorem terminates_iff {caller : Option Nat} {op : Op κ} {s : Threads κ} :
    (exec (op.operation caller) s).1 = .error .terminates ↔
      ∃ t k, caller = some t ∧ op = .destroy k ∧ s.handle k = some t := by
  cases op with
  | default k | construct k | moveConstruct k rhs | swap k other =>
      constructor
      · rintro ⟨⟩
      · rintro ⟨t, k, -, ⟨⟩, -⟩
  | moveAssign k rhs =>
      rw [Op.operation, exec_moveAssign]
      cases s.handle k with
      | none => simp
      | some t =>
          dsimp only
          split_ifs <;> simp
  | join k =>
      rw [Op.operation, exec_join]
      cases s.handle k with
      | none => simp
      | some t =>
          dsimp only
          split_ifs <;> simp
  | detach k =>
      rw [Op.operation, exec_detach]
      cases s.handle k <;> simp
  | destroy k =>
      rw [Op.operation, exec_destroy]
      cases hhandle : s.handle k with
      | none =>
          refine ⟨(by rintro ⟨⟩), ?_⟩
          rintro ⟨t, _, -, ⟨⟩, hself⟩
          cases hhandle.symm.trans hself
      | some t =>
          have hiff : (∃ t' k', caller = some t' ∧ Op.destroy k = .destroy k' ∧
              s.handle k' = some t') ↔ caller = some t := by
            constructor
            · rintro ⟨t', k', hcaller, ⟨⟩, ht'⟩
              rw [hcaller, ← ht', hhandle]
            · exact fun hcaller => ⟨t, k, hcaller, rfl, hhandle⟩
          rw [hiff]
          by_cases hself : caller = some t
          · simp [hself]
          · cases hfinished : s.finished t <;> simp [hself, hfinished]

theorem sound_step {s : Program κ} (h : Sound s) (event : Event κ) : Sound (s.step event) := by
  cases event with
  | finish t =>
      rw [Program.step]
      split_ifs
      · exact ⟨h.owned.finish t, h.gone⟩
      · exact h
  | call caller op =>
      rw [Program.step]
      split_ifs with hpossible
      · have hends := exec_operation h caller (Bool.and_eq_true_iff.mp hpossible.2).2
        rcases hexec : exec (op.operation caller) s.threads with ⟨result, threads⟩
        cases result with
        | ok a =>
            obtain ⟨howned, hgone⟩ := hends.of_ok hexec
            exact ⟨howned, hgone⟩
        | error halt =>
            obtain rfl := hends.of_error hexec
            cases halt <;> exact ⟨h.owned, h.gone⟩
      · exact h

theorem sound_run (events : List (Event κ)) : Sound (run events) :=
  run_induction (P := fun _ (s : Program κ) => Sound s) _ sound_initial
    (fun _ event h => sound_step h event) events

theorem terminated_step {s : Program κ} (h : Sound s) (event : Event κ) :
    (s.step event).terminated = false ↔ s.terminated = false ∧ ¬ s.DestroysItself event := by
  cases event with
  | finish t =>
      have hnot : ¬ s.DestroysItself (.finish t) := id
      rw [Program.step]
      split_ifs <;> simp [hnot]
  | call caller op =>
      rw [Program.step, destroysItself_call h, ← terminates_iff]
      split_ifs with hpossible
      · rcases exec (op.operation caller) s.threads with ⟨result, threads⟩
        cases result with
        | ok a => simp [hpossible]
        | error halt => cases halt <;> simp [hpossible]
      · exact ⟨fun hgoesOn => ⟨hgoesOn, fun hself => hpossible ⟨hgoesOn, hself.1⟩⟩, And.left⟩

/-- The destructor returns as soon as the thread has ended. -/
theorem destroy_returns {s : Program κ} (hgoesOn : s.terminated = false) {k : κ}
    (hk : s.alive k = true)
    (hended : ∀ t, s.threads.handle k = some t → s.threads.finished t = true) :
    (s.step (.call none (.destroy k))).alive k = false := by
  have hpossible : s.possible none (.destroy k) = true := hk
  have hreturns : ∃ threads,
      exec ((Op.destroy k).operation none) s.threads = (.ok ⟨⟩, threads) := by
    rw [Op.operation, exec_destroy]
    cases hhandle : s.threads.handle k with
    | none => exact ⟨_, rfl⟩
    | some t => exact ⟨_, by simp only [hended t hhandle, if_true]; rfl⟩
  obtain ⟨threads, hexec⟩ := hreturns
  rw [Program.step, if_pos ⟨hgoesOn, hpossible⟩, hexec]
  exact Function.update_self _ _ _

theorem destroyed_behind {s : Program κ} (h : Sound s) (hgoesOn : s.terminated = false) {k : κ}
    (hk : s.alive k = true) :
    ∃ t, ((s.step (.finish t)).step (.call none (.destroy k))).alive k = false := by
  cases hhandle : s.threads.handle k with
  | none =>
      refine ⟨s.threads.spawned, ?_⟩
      have hnothing : s.step (.finish s.threads.spawned) = s :=
        if_neg fun hfinish => Nat.lt_irrefl _ hfinish.2
      rw [hnothing]
      refine destroy_returns hgoesOn hk fun t ht => ?_
      cases hhandle.symm.trans ht
  | some t =>
      refine ⟨t, ?_⟩
      have hended : s.step (.finish t) = { s with threads := s.threads.finish t } :=
        if_pos ⟨hgoesOn, (h.owned.held k t hhandle).1⟩
      rw [hended]
      refine destroy_returns (s := { s with threads := s.threads.finish t }) hgoesOn hk
        fun t' ht' => ?_
      obtain rfl := Option.some.inj (hhandle.symm.trans ht')
      exact Function.update_self _ _ _

/-- In every run of a program the threads behind `xthread` objects are owned. The program
ends only when a thread destroys the object behind which it runs. Each thread that has been
started has one object behind which it runs, or it has been detached once, or joined once
and has ended. When a move returns, the object on the right has no thread, and that on the
left has its thread. Every object can be destroyed as soon as the thread behind it ends. -/
theorem xthreads_owned (events : List (Event κ)) :
    let s := run events
    Sound s ∧
      (s.terminated = false ↔
        Guarded Program.step (fun s event => ¬ s.DestroysItself event) .initial events) ∧
      (∀ t < s.threads.spawned, s.threads.finished t = false →
        (t, .detached) ∈ s.threads.released ∨
          ∃ k, s.alive k = true ∧ s.threads.handle k = some t) ∧
      (∀ k rhs threads, s.alive k = false →
        exec (moveConstruct k rhs) s.threads = (.ok ⟨⟩, threads) →
          Moved s.threads threads k rhs) ∧
      (∀ caller k rhs threads,
        exec (moveAssign caller k rhs) s.threads = (.ok ⟨⟩, threads) →
          Moved s.threads threads k rhs) ∧
      (s.terminated = false → ∀ k, s.alive k = true → ∃ t,
        (run (events ++ [.finish t, .call none (.destroy k)])).alive k = false) := by
  have h : Sound (run events) := sound_run events
  refine ⟨h, ?_, fun t ht hrunning => ?_, fun k rhs threads hdead hexec => ?_,
    fun caller k rhs threads => moved_moveAssign, fun hgoesOn k hk => ?_⟩
  · exact run_iff_guarded (I := fun s : Program κ => Sound s)
      (P := fun s => s.terminated = false) sound_initial rfl
      (fun s event hs => sound_step hs event) (fun s event hs => terminated_step hs event) events
  · rcases h.owned.accounted t ht with ⟨k, hhandle⟩ | hmem
    · refine Or.inr ⟨k, ?_, hhandle⟩
      by_contra hdead
      cases (h.gone k (Bool.eq_false_iff.mpr hdead)).symm.trans hhandle
    · obtain ⟨⟨_, how⟩, hreleased, rfl⟩ := List.mem_map.mp hmem
      cases how with
      | joined => cases (h.owned.ended _ hreleased).symm.trans hrunning
      | detached => exact Or.inl hreleased
  · cases hexec
    exact moved_exchange (h.gone k hdead)
  · obtain ⟨t, ht⟩ := destroyed_behind h hgoesOn hk
    refine ⟨t, ?_⟩
    rw [run, run_append, run_cons, run_cons, run_nil]
    exact ht

end Programs

end XeusZmq.XThread
