import Mathlib.Data.List.Basic
import Mathlib.Logic.Function.Basic

/-!
Ports that hand over what arrives at them in order, some of it dropped: the
relation between everything that has arrived, what is still pending, and what
has come out.
-/

namespace XeusZmq.FifoPort

variable {α β : Type*} {f : α → Option β}

theorem filterMap_concat (f : α → Option β) (front : List α) (a : α) :
    (front ++ [a]).filterMap f = front.filterMap f ++ (f a).toList := by
  cases hf : f a <;> simp [hf]

/-- What came out is what `f` makes of all that is no longer pending. -/
def Relays (f : α → Option β) (arrived pending : List α) (output : List β) : Prop :=
  ∃ taken, arrived = taken ++ pending ∧ output = taken.filterMap f

theorem Relays.initial : Relays f [] [] [] :=
  ⟨[], rfl, rfl⟩

theorem Relays.arrive {arrived pending : List α} {output : List β}
    (h : Relays f arrived pending output) (a : α) :
    Relays f (arrived ++ [a]) (pending ++ [a]) output := by
  obtain ⟨taken, rfl, rfl⟩ := h
  exact ⟨taken, List.append_assoc _ _ _, rfl⟩

theorem Relays.take {a : α} {arrived pending : List α} {output : List β}
    (h : Relays f arrived (a :: pending) output) :
    Relays f arrived pending (output ++ (f a).toList) := by
  obtain ⟨taken, rfl, rfl⟩ := h
  exact ⟨taken ++ [a], List.append_cons _ _ _, (filterMap_concat f taken a).symm⟩

theorem Relays.output_append {arrived pending : List α} {output : List β}
    (h : Relays f arrived pending output) :
    output ++ pending.filterMap f = arrived.filterMap f := by
  obtain ⟨taken, rfl, rfl⟩ := h
  rw [List.filterMap_append]

theorem Relays.output_eq {arrived : List α} {output : List β}
    (h : Relays f arrived [] output) : output = arrived.filterMap f := by
  simpa using h.output_append

theorem Relays.arrived_eq {arrived pending output : List α}
    (h : Relays some arrived pending output) : arrived = output ++ pending := by
  simpa using h.output_append.symm

theorem Relays.mem_arrived {arrived pending : List α} {output : List β}
    (h : Relays f arrived pending output) {a : α} (ha : a ∈ pending) : a ∈ arrived := by
  obtain ⟨taken, rfl, -⟩ := h
  exact List.mem_append_right _ ha

/-! Several ports with one common output. -/

section Ports

variable {γ : Type*} [DecidableEq γ]

/-- The entries of a common list that belong to one port. -/
def on (port : γ) (entries : List (γ × α)) : List α :=
  entries.filterMap fun entry => if entry.1 = port then some entry.2 else none

@[simp] theorem on_nil (port : γ) : on port ([] : List (γ × α)) = [] := rfl

@[simp] theorem on_append (port : γ) (front entries : List (γ × α)) :
    on port (front ++ entries) = on port front ++ on port entries :=
  List.filterMap_append

@[simp] theorem on_cons_self (port : γ) (a : α) (entries : List (γ × α)) :
    on port ((port, a) :: entries) = a :: on port entries := by
  simp [on]

theorem on_cons_of_ne {port port' : γ} (h : port' ≠ port) (a : α)
    (entries : List (γ × α)) : on port ((port', a) :: entries) = on port entries := by
  simp [on, h]

/-- The first entry of a port, and the entries without it. -/
def takeFrom (port : γ) : List (γ × α) → Option (α × List (γ × α))
  | [] => none
  | entry :: entries =>
      if entry.1 = port then some (entry.2, entries)
      else (takeFrom port entries).map fun taken => (taken.1, entry :: taken.2)

theorem on_takeFrom {port : γ} {entries rest : List (γ × α)} {a : α}
    (h : takeFrom port entries = some (a, rest)) :
    (fun other => on other rest) =
        Function.update (fun other => on other entries) port (on port rest) ∧
      on port entries = a :: on port rest := by
  induction entries generalizing rest with
  | nil => exact absurd h nofun
  | cons entry entries ih =>
      obtain ⟨port', a'⟩ := entry
      rw [takeFrom] at h
      split_ifs at h with hport
      · obtain rfl : port' = port := hport
        obtain ⟨rfl, rfl⟩ := Prod.mk.inj (Option.some.inj h)
        refine ⟨?_, on_cons_self _ _ _⟩
        funext other
        by_cases hother : other = port'
        · subst hother
          simp
        · rw [Function.update_of_ne hother, on_cons_of_ne (Ne.symm hother)]
      · obtain ⟨⟨a'', rest'⟩, htake, heq⟩ := Option.map_eq_some_iff.mp h
        obtain ⟨rfl, rfl⟩ := Prod.mk.inj heq
        obtain ⟨hothers, hself⟩ := ih htake
        constructor
        · funext other
          by_cases hother : other = port
          · subst hother
            simp
          · have hrest := congrFun hothers other
            rw [Function.update_of_ne hother] at hrest ⊢
            by_cases hentry : port' = other
            · subst hentry
              rw [on_cons_self, on_cons_self, hrest]
            · rw [on_cons_of_ne hentry, on_cons_of_ne hentry, hrest]
        · rw [on_cons_of_ne hport, on_cons_of_ne hport, hself]

theorem takeFrom_split {port : γ} {entries rest : List (γ × α)} {a : α}
    (h : takeFrom port entries = some (a, rest)) :
    ∃ front back, entries = front ++ (port, a) :: back ∧ rest = front ++ back := by
  induction entries generalizing rest with
  | nil => exact absurd h nofun
  | cons entry entries ih =>
      rw [takeFrom] at h
      split_ifs at h with hport
      · obtain ⟨rfl, rfl⟩ := Prod.mk.inj (Option.some.inj h)
        exact ⟨[], entries, by rw [← hport]; rfl, rfl⟩
      · obtain ⟨⟨a', rest'⟩, htake, heq⟩ := Option.map_eq_some_iff.mp h
        obtain ⟨rfl, rfl⟩ := Prod.mk.inj heq
        obtain ⟨front, back, rfl, rfl⟩ := ih htake
        exact ⟨entry :: front, back, rfl, rfl⟩

theorem length_takeFrom {port : γ} {entries rest : List (γ × α)} {a : α}
    (h : takeFrom port entries = some (a, rest)) : entries.length = rest.length + 1 := by
  obtain ⟨front, back, rfl, rfl⟩ := takeFrom_split h
  simp only [List.length_append, List.length_cons]
  omega

/-- Without the entry taken, none is left that satisfies `p` if none did before
or that one alone. -/
theorem filter_takeFrom_eq_nil_iff {port : γ} {entries rest : List (γ × α)} {a : α}
    (p : γ × α → Bool) (h : takeFrom port entries = some (a, rest)) :
    rest.filter p = [] ↔ entries.filter p = [] ∨ entries.filter p = [(port, a)] := by
  obtain ⟨front, back, rfl, rfl⟩ := takeFrom_split h
  simp only [List.filter_append, List.filter_cons, List.append_eq_nil_iff]
  constructor
  · rintro ⟨hfront, hback⟩
    rw [hfront, hback]
    cases p (port, a)
    · exact Or.inl ⟨rfl, rfl⟩
    · exact Or.inr rfl
  · rintro (⟨hfront, hrest⟩ | hone)
    · refine ⟨hfront, ?_⟩
      split_ifs at hrest
      exact hrest
    · cases hp : p (port, a) with
      | false =>
          rw [hp, if_neg Bool.false_ne_true, ← List.filter_append] at hone
          have hmem : (port, a) ∈ (front ++ back).filter p := by
            rw [hone]
            exact List.mem_singleton.mpr rfl
          exact absurd (hp.symm.trans (List.mem_filter.mp hmem).2) Bool.false_ne_true
      | true =>
          have hlength := congrArg List.length hone
          simp only [hp, if_true, List.length_append, List.length_cons, List.length_nil] at hlength
          constructor
          · exact List.length_eq_zero_iff.mp (by omega)
          · exact List.length_eq_zero_iff.mp (by omega)

structure Ports (γ α β : Type*) where
  pending : γ → List α
  output : List (γ × β)

/-- A step of the ports, with what arrives in it. -/
inductive Ports.Step (f : α → Option β) (ports : Ports γ α β) :
    Option (γ × α) → Ports γ α β → Prop
  | idle : Step f ports none ports
  | arrive (port : γ) (a : α) :
      Step f ports (some (port, a))
        ⟨Function.update ports.pending port (ports.pending port ++ [a]), ports.output⟩
  | take (port : γ) (a : α) (rest : List α) (hpending : ports.pending port = a :: rest) :
      Step f ports none
        ⟨Function.update ports.pending port rest,
          ports.output ++ (f a).toList.map (port, ·)⟩

def Ports.Relay (f : α → Option β) (arrived : List (γ × α)) (ports : Ports γ α β) : Prop :=
  ∀ port, Relays f (on port arrived) (ports.pending port) (on port ports.output)

theorem Ports.Step.relay {ports ports' : Ports γ α β} {arrival : Option (γ × α)}
    {arrived : List (γ × α)} (h : Ports.Step f ports arrival ports')
    (hrelay : ports.Relay f arrived) : ports'.Relay f (arrived ++ arrival.toList) := by
  intro other
  have hother := hrelay other
  cases h with
  | idle => simpa using hother
  | arrive port a =>
      by_cases hport : other = port
      · subst hport
        simpa using hother.arrive a
      · simpa [on_cons_of_ne (Ne.symm hport), Function.update_of_ne hport] using hother
  | take port a rest hpending =>
      by_cases hport : other = port
      · subst hport
        rw [hpending] at hother
        have htake := hother.take
        cases hf : f a <;> simpa [hf] using htake
      · cases hf : f a <;>
          simpa [hf, on_cons_of_ne (Ne.symm hport), Function.update_of_ne hport] using hother

end Ports

end XeusZmq.FifoPort
