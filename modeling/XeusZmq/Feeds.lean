import XeusZmq.Lanes
import Mathlib.Data.List.Infix

/-!
A log that readers join: each gets on a lane of its own what is posted from then on, unless
it is dropped.
-/

namespace XeusZmq.Feeds

open XeusZmq.FifoPort (HighWater)

variable {κ α : Type*}

/-- The log with where each reader has joined it, what is on the lanes, what has been taken
from them and what has been dropped. -/
structure Feed (κ α : Type*) where
  log : List α
  joined : κ → Option Nat
  lane : κ → List α
  taken : κ → List α
  dropped : κ → List α

namespace Feed

def initial : Feed κ α :=
  ⟨[], fun _ => none, fun _ => [], fun _ => [], fun _ => []⟩

/-- What has reached a reader and what is on its lane. -/
def kept (k : κ) (self : Feed κ α) : List α :=
  self.taken k ++ self.lane k

/-- How many entries have come for a reader. -/
def count (k : κ) (self : Feed κ α) : Nat :=
  (self.kept k).length + (self.dropped k).length

def Drops (water : HighWater κ) (k : κ) (self : Feed κ α) : Prop :=
  water.Drops k (self.lane k).length (self.count k)

instance (water : HighWater κ) (k : κ) (self : Feed κ α) : Decidable (self.Drops water k) :=
  inferInstanceAs (Decidable (water.Drops _ _ _))

def postOne (water : HighWater κ) (self : Feed κ α) (a : α) : Feed κ α :=
  { self with
    log := self.log ++ [a]
    lane := fun k =>
      if (self.joined k).isSome ∧ ¬ self.Drops water k then self.lane k ++ [a] else self.lane k
    dropped := fun k =>
      if (self.joined k).isSome ∧ self.Drops water k then self.dropped k ++ [a]
      else self.dropped k }

def post (water : HighWater κ) (entries : List α) (self : Feed κ α) : Feed κ α :=
  entries.foldl (postOne water) self

theorem log_post (water : HighWater κ) (entries : List α) (s : Feed κ α) :
    (s.post water entries).log = s.log ++ entries := by
  induction entries generalizing s with
  | nil => exact (List.append_nil _).symm
  | cons a entries ih => exact (ih (s.postOne water a)).trans (List.append_assoc _ _ _)

theorem joined_post (water : HighWater κ) (entries : List α) (s : Feed κ α) :
    (s.post water entries).joined = s.joined := by
  induction entries generalizing s with
  | nil => rfl
  | cons a entries ih => exact ih (s.postOne water a)

theorem taken_post (water : HighWater κ) (entries : List α) (s : Feed κ α) :
    (s.post water entries).taken = s.taken := by
  induction entries generalizing s with
  | nil => rfl
  | cons a entries ih => exact ih (s.postOne water a)

/-- What has come for a reader is the log from where it has joined, less what has been
dropped, and only behind as many entries as the mark says. -/
structure Follows (water : HighWater κ) (s : Feed κ α) : Prop where
  outside : ∀ k, s.joined k = none → s.kept k = [] ∧ s.dropped k = []
  bound : ∀ k n, s.joined k = some n → n ≤ s.log.length
  sublist : ∀ k n, s.joined k = some n → (s.kept k).Sublist (s.log.drop n)
  count : ∀ k n, s.joined k = some n → s.count k = (s.log.drop n).length
  mark : ∀ k, s.dropped k ≠ [] → water.mark ≠ 0 ∧ water.mark ≤ (s.kept k).length

variable {water : HighWater κ} {s : Feed κ α}

theorem follows_initial (water : HighWater κ) : (initial : Feed κ α).Follows water where
  outside _ _ := ⟨rfl, rfl⟩
  bound _ _ h := by cases h
  sublist _ _ h := by cases h
  count _ _ h := by cases h
  mark _ h := absurd rfl h

/-- An entry goes to the lane of a reader that has joined, or is dropped for it. -/
theorem postOne_cases (water : HighWater κ) (s : Feed κ α) (a : α) {k : κ} {n : Nat}
    (hjoined : s.joined k = some n) :
    ((s.postOne water a).kept k = s.kept k ++ [a] ∧ (s.postOne water a).dropped k = s.dropped k) ∨
      s.Drops water k ∧ (s.postOne water a).kept k = s.kept k ∧
        (s.postOne water a).dropped k = s.dropped k ++ [a] := by
  by_cases hdrops : s.Drops water k
  · refine Or.inr ⟨hdrops, ?_, ?_⟩ <;> simp [postOne, kept, hjoined, hdrops]
  · refine Or.inl ⟨?_, ?_⟩ <;> simp [postOne, kept, hjoined, hdrops]

theorem Follows.postOne (h : s.Follows water) (a : α) : (s.postOne water a).Follows water := by
  have hlog (k : κ) (n : Nat) (hjoined : s.joined k = some n) :
      (s.postOne water a).log.drop n = s.log.drop n ++ [a] :=
    List.drop_append_of_le_length (h.bound k n hjoined)
  refine ⟨fun k hjoined => ?_, fun k n hjoined => ?_, fun k n hjoined => ?_,
    fun k n hjoined => ?_, fun k hdropped => ?_⟩
  · have hnone : s.joined k = none := hjoined
    simpa [Feed.postOne, Feed.kept, hnone] using h.outside k hnone
  · rw [Feed.postOne, List.length_append]
    exact Nat.le_add_right_of_le (h.bound k n hjoined)
  · rw [hlog k n hjoined]
    rcases postOne_cases water s a hjoined with ⟨hkept, -⟩ | ⟨-, hkept, -⟩
    · rw [hkept]
      exact (h.sublist k n hjoined).append (List.Sublist.refl _)
    · rw [hkept]
      exact (h.sublist k n hjoined).trans (List.sublist_append_left _ _)
  · have hcount := h.count k n hjoined
    rw [Feed.count] at hcount
    rw [Feed.count, hlog k n hjoined, List.length_append, ← hcount, List.length_singleton]
    rcases postOne_cases water s a hjoined with ⟨hkept, hdropped⟩ | ⟨-, hkept, hdropped⟩
    · rw [hkept, hdropped, List.length_append, List.length_singleton]
      omega
    · rw [hkept, hdropped, List.length_append, List.length_singleton]
      omega
  · cases hjoined : s.joined k with
    | none =>
        have hsame : (s.postOne water a).dropped k = s.dropped k := by
          simp [Feed.postOne, hjoined]
        rw [hsame, (h.outside k hjoined).2] at hdropped
        exact absurd rfl hdropped
    | some n =>
        rcases postOne_cases water s a hjoined with ⟨hkept, hsame⟩ | ⟨hdrops, hkept, -⟩
        · rw [hsame] at hdropped
          obtain ⟨hmark, hle⟩ := h.mark k hdropped
          rw [hkept, List.length_append]
          exact ⟨hmark, Nat.le_add_right_of_le hle⟩
        · rw [hkept, Feed.kept, List.length_append]
          exact ⟨hdrops.1, Nat.le_add_left_of_le hdrops.2.1⟩

theorem Follows.post (h : s.Follows water) (entries : List α) :
    (s.post water entries).Follows water := by
  induction entries generalizing s with
  | nil => exact h
  | cons a entries ih => exact ih (h.postOne a)

/-- Where nothing has been dropped nothing is missing. -/
theorem Follows.kept_eq (h : s.Follows water) {k : κ} {n : Nat} (hjoined : s.joined k = some n)
    (hnone : s.dropped k = []) : s.kept k = s.log.drop n := by
  have hcount := h.count k n hjoined
  rw [Feed.count, hnone, List.length_nil, Nat.add_zero] at hcount
  exact (h.sublist k n hjoined).eq_of_length hcount

/-- Of two readers, the one that has joined later follows the other one from there on. -/
theorem Follows.suffix (h : s.Follows water) {k k' : κ} {n n' : Nat}
    (hk : s.joined k = some n) (hk' : s.joined k' = some n') (hle : n ≤ n')
    (hnone : s.dropped k = []) (hnone' : s.dropped k' = []) : s.kept k' <:+ s.kept k := by
  rw [h.kept_eq hk hnone, h.kept_eq hk' hnone']
  exact List.drop_suffix_drop_left _ hle

/-- What fits into the lane of a reader is not dropped. -/
theorem dropped_post {k : κ} {entries : List α}
    (hroom : water.mark = 0 ∨ (s.lane k).length + entries.length ≤ water.mark) :
    (s.post water entries).dropped k = s.dropped k := by
  induction entries generalizing s with
  | nil => rfl
  | cons a entries ih =>
      have hfits : ¬ s.Drops water k := HighWater.not_drops (hroom.imp_right fun hle => by
        rw [List.length_cons] at hle
        omega)
      have hsame : (s.postOne water a).dropped k = s.dropped k := by simp [postOne, hfits]
      refine (ih (hroom.imp_right fun hle => ?_)).trans hsame
      have hlane : ((s.postOne water a).lane k).length ≤ (s.lane k).length + 1 := by
        simp only [postOne]
        split_ifs <;> simp
      rw [List.length_cons] at hle
      omega

section Readers

variable [DecidableEq κ]

/-- A reader that has joined stays where it is. -/
def join (k : κ) (self : Feed κ α) : Feed κ α :=
  match self.joined k with
  | some _ => self
  | none => { self with joined := Function.update self.joined k (some self.log.length) }

def take (k : κ) (self : Feed κ α) : Feed κ α :=
  match self.lane k with
  | [] => self
  | a :: rest =>
      { self with
        lane := Function.update self.lane k rest
        taken := Function.update self.taken k (self.taken k ++ [a]) }

theorem log_join (k : κ) (s : Feed κ α) : (s.join k).log = s.log := by
  unfold join
  split <;> rfl

theorem taken_join (k : κ) (s : Feed κ α) : (s.join k).taken = s.taken := by
  unfold join
  split <;> rfl

theorem Follows.join (h : s.Follows water) (k : κ) : (s.join k).Follows water := by
  unfold Feed.join
  cases hjoined : s.joined k with
  | some n => exact h
  | none =>
      dsimp only
      obtain ⟨hkept, hdropped⟩ := h.outside k hjoined
      have hcases (other : κ) (n : Nat)
          (hother : Function.update s.joined k (some s.log.length) other = some n) :
          other = k ∧ n = s.log.length ∨ s.joined other = some n := by
        by_cases hk : other = k
        · subst hk
          rw [Function.update_self] at hother
          exact Or.inl ⟨rfl, (Option.some.inj hother).symm⟩
        · rw [Function.update_of_ne hk] at hother
          exact Or.inr hother
      refine ⟨fun other hother => ?_, fun other n hother => ?_, fun other n hother => ?_,
        fun other n hother => ?_, h.mark⟩
      · change Function.update s.joined k (some s.log.length) other = none at hother
        by_cases hk : other = k
        · subst hk
          rw [Function.update_self] at hother
          cases hother
        · rw [Function.update_of_ne hk] at hother
          exact h.outside other hother
      · rcases hcases other n hother with ⟨-, rfl⟩ | hold
        · exact Nat.le_refl _
        · exact h.bound other n hold
      · rcases hcases other n hother with ⟨rfl, rfl⟩ | hold
        · show (s.kept other).Sublist _
          rw [hkept]
          exact List.nil_sublist _
        · exact h.sublist other n hold
      · rcases hcases other n hother with ⟨rfl, rfl⟩ | hold
        · show (s.kept other).length + (s.dropped other).length = _
          rw [hkept, hdropped, List.drop_length]
          rfl
        · exact h.count other n hold

@[simp] theorem kept_take (k other : κ) (s : Feed κ α) :
    (s.take k).kept other = s.kept other := by
  unfold take kept
  cases hlane : s.lane k with
  | nil => rfl
  | cons a rest =>
      by_cases hk : other = k
      · subst hk
        simp [hlane]
      · simp [Function.update_of_ne hk]

theorem joined_take (k : κ) (s : Feed κ α) : (s.take k).joined = s.joined := by
  unfold take
  split <;> rfl

theorem log_take (k : κ) (s : Feed κ α) : (s.take k).log = s.log := by
  unfold take
  split <;> rfl

theorem dropped_take (k : κ) (s : Feed κ α) : (s.take k).dropped = s.dropped := by
  unfold take
  split <;> rfl

theorem Follows.take (h : s.Follows water) (k : κ) : (s.take k).Follows water := by
  refine ⟨fun other => ?_, fun other n => ?_, fun other n => ?_, fun other n => ?_,
    fun other => ?_⟩
  · rw [joined_take, kept_take, dropped_take]
    exact h.outside other
  · rw [joined_take, log_take]
    exact h.bound other n
  · rw [joined_take, log_take, kept_take]
    exact h.sublist other n
  · rw [joined_take, log_take, Feed.count, kept_take, dropped_take]
    exact h.count other n
  · rw [dropped_take, kept_take]
    exact h.mark other

theorem lane_take (k other : κ) (s : Feed κ α) :
    (s.take k).lane other = if other = k then (s.lane k).tail else s.lane other := by
  unfold take
  cases hlane : s.lane k with
  | nil =>
      split_ifs with hk
      · rw [hk, hlane]
        rfl
      · rfl
  | cons a rest =>
      show Function.update s.lane k rest other = _
      split_ifs with hk
      · rw [hk, Function.update_self]
        rfl
      · rw [Function.update_of_ne hk]

end Readers

end Feed

end XeusZmq.Feeds
