import XeusZmq.Runs

/-!
Finite traces, read backwards: what has happened since, and what held whenever
something happened.
-/

namespace XeusZmq.Traces

open XeusZmq.Runs

section Traces

variable {ε : Type*}

/-- Some event meets `P`, given the events before it, and none after it meets `Q`. -/
def Since (P : List ε → ε → Prop) (Q : ε → Prop) (events : List ε) : Prop :=
  ∃ before event after,
    events = before ++ event :: after ∧ P before event ∧ ∀ later ∈ after, ¬ Q later

/-- Every event meets `P`, given the events before it. -/
def Always (P : List ε → ε → Prop) (events : List ε) : Prop :=
  ∀ before event after, events = before ++ event :: after → P before event

variable {P : List ε → ε → Prop} {Q : ε → Prop}

@[simp] theorem not_since_nil : ¬ Since P Q [] := by
  rintro ⟨before, event, after, heq, -, -⟩
  simp at heq

theorem since_concat {events : List ε} {event : ε} :
    Since P Q (events ++ [event]) ↔ P events event ∨ ¬ Q event ∧ Since P Q events := by
  constructor
  · rintro ⟨before, found, after, heq, hfound, hafter⟩
    rcases concat_eq_append_cons_iff.mp heq with ⟨rfl, rfl, -⟩ | ⟨rest, rfl, rfl⟩
    · exact .inl hfound
    · right
      constructor
      · exact hafter event (by simp)
      · exact ⟨before, found, rest, rfl, hfound,
          fun later hlater => hafter later (by simp [hlater])⟩
  · rintro (hevent | ⟨hevent, before, found, after, rfl, hfound, hafter⟩)
    · exact ⟨events, event, [], rfl, hevent, by simp⟩
    · refine ⟨before, found, after ++ [event], by simp, hfound, ?_⟩
      intro later hlater
      rcases List.mem_append.mp hlater with hlater | hlater
      · exact hafter later hlater
      · obtain rfl := List.mem_singleton.mp hlater
        exact hevent

/-- Events of neither kind change nothing. -/
theorem since_append_of_neither {events more : List ε}
    (hmore : ∀ event ∈ more, ¬ Q event ∧ ∀ before, ¬ P before event) :
    Since P Q (events ++ more) ↔ Since P Q events := by
  induction more using List.reverseRecOn with
  | nil => simp
  | append_singleton more event ih =>
      obtain ⟨hQ, hP⟩ := hmore event (by simp)
      rw [← List.append_assoc, since_concat, ih fun other hother => hmore other (by simp [hother])]
      simp [hQ, hP]

@[simp] theorem always_nil : Always P [] := by
  intro before event after heq
  simp at heq

theorem always_concat {events : List ε} {event : ε} :
    Always P (events ++ [event]) ↔ Always P events ∧ P events event := by
  constructor
  · intro h
    constructor
    · rintro before found after rfl
      exact h before found (after ++ [event]) (by simp)
    · exact h events event [] rfl
  · rintro ⟨hevents, hevent⟩ before found after heq
    rcases concat_eq_append_cons_iff.mp heq with ⟨rfl, rfl, -⟩ | ⟨rest, -, rfl⟩
    · exact hevent
    · exact hevents before found rest rfl

theorem always_append {events more : List ε} :
    Always P (events ++ more) ↔
      Always P events ∧ Always (fun before event => P (events ++ before) event) more := by
  induction more using List.reverseRecOn with
  | nil => simp
  | append_singleton more event ih =>
      rw [← List.append_assoc, always_concat, ih, always_concat, and_assoc]

theorem always_cons {event : ε} {events : List ε} :
    Always P (event :: events) ↔
      P [] event ∧ Always (fun before => P (event :: before)) events := by
  rw [← List.singleton_append, always_append, ← List.nil_append [event], always_concat]
  simp

theorem always_of_forall {events : List ε}
    (h : ∀ before event, (∀ other ∈ before, other ∈ events) → event ∈ events → P before event) :
    Always P events := by
  rintro before event after rfl
  exact h before event (fun other hother => by simp [hother]) (by simp)

end Traces

end XeusZmq.Traces
