import XeusZmq.FifoPort

/-!
Lanes between the peers of a network: ports that hold the messages of several senders,
what has come out of them, and what a socket drops that does not wait for room.
-/

namespace XeusZmq.FifoPort

variable {α β : Type*} {f : α → Option β}

/-- What is left of one run of a port is where another run of it begins. -/
theorem Relays.continue {arrived pending late rest : List α} {output more : List β}
    (hbefore : Relays f arrived pending output) (h : Relays f (pending ++ late) rest more) :
    Relays f (arrived ++ late) rest (output ++ more) := by
  obtain ⟨taken, rfl, rfl⟩ := hbefore
  obtain ⟨taken', hpending, rfl⟩ := h
  refine ⟨taken ++ taken', ?_, List.filterMap_append.symm⟩
  rw [List.append_assoc, hpending, List.append_assoc]

/-- The messages of one sender, if what comes out tells the sender. -/
theorem Relays.filter {p : α → Bool} {q : β → Bool} (hpq : ∀ a b, f a = some b → q b = p a)
    {arrived pending : List α} {output : List β} (h : Relays f arrived pending output) :
    Relays f (arrived.filter p) (pending.filter p) (output.filter q) := by
  obtain ⟨taken, rfl, rfl⟩ := h
  refine ⟨taken.filter p, List.filter_append _ _, ?_⟩
  induction taken with
  | nil => rfl
  | cons a taken ih =>
      rw [List.filterMap_cons, List.filter_cons]
      cases hf : f a with
      | none => cases p a <;> simpa [hf] using ih
      | some b => cases hp : p a <;> simp [hf, hpq a b hf, hp, ih]

theorem Relays.mem_output {arrived pending : List α} {output : List β}
    (h : Relays f arrived pending output) {b : β} (hb : b ∈ output) :
    ∃ a ∈ arrived, f a = some b := by
  obtain ⟨taken, rfl, rfl⟩ := h
  obtain ⟨a, ha, hfa⟩ := List.mem_filterMap.mp hb
  exact ⟨a, List.mem_append_left _ ha, hfa⟩

/-- Where a socket drops messages instead of waiting. There is room for fewer than `mark`
messages in any case, and for any number if it is 0. A lane that holds as many may be full;
`full` tells when its end of the lane takes it to be, given how many messages have come
before. -/
structure HighWater (γ : Type*) where
  mark : Nat
  full : γ → Nat → Bool

def HighWater.Drops {γ : Type*} (water : HighWater γ) (port : γ) (waiting came : Nat) : Prop :=
  water.mark ≠ 0 ∧ water.mark ≤ waiting ∧ water.full port came = true

instance {γ : Type*} (water : HighWater γ) (port : γ) (waiting came : Nat) :
    Decidable (water.Drops port waiting came) :=
  inferInstanceAs (Decidable (_ ∧ _ ∧ _))

/-- There is room for a message below the mark. -/
theorem HighWater.not_drops {γ : Type*} {water : HighWater γ} {port : γ} {waiting came : Nat}
    (hroom : water.mark = 0 ∨ waiting < water.mark) : ¬ water.Drops port waiting came := by
  rintro ⟨hmark, hwaiting, -⟩
  rcases hroom with hzero | hless
  · exact hmark hzero
  · exact Nat.lt_irrefl _ (Nat.lt_of_lt_of_le hless hwaiting)

section Ports

variable {γ : Type*} [DecidableEq γ]

theorem mem_on {port : γ} {a : α} {entries : List (γ × α)} :
    a ∈ on port entries ↔ (port, a) ∈ entries := by
  simp only [on, List.mem_filterMap, Option.ite_none_right_eq_some, Option.some.injEq]
  constructor
  · rintro ⟨⟨port', a'⟩, hmem, rfl, rfl⟩
    exact hmem
  · exact fun hmem => ⟨(port, a), hmem, rfl, rfl⟩

namespace Ports

def initial : Ports γ α β :=
  ⟨fun _ => [], []⟩

theorem initial_relay (f : α → Option β) : (initial : Ports γ α β).Relay f [] :=
  fun _ => .initial

def put (port : γ) (a : α) (ports : Ports γ α β) : Ports γ α β :=
  ⟨Function.update ports.pending port (ports.pending port ++ [a]), ports.output⟩

theorem Relay.put {ports : Ports γ α β} {arrived : List (γ × α)} (h : ports.Relay f arrived)
    (port : γ) (a : α) : (ports.put port a).Relay f (arrived ++ [(port, a)]) :=
  (Step.arrive port a).relay h

/-- The first message of a port leaves it as it is. -/
def take (port : γ) (ports : Ports γ α α) : Ports γ α α :=
  match ports.pending port with
  | [] => ports
  | a :: rest =>
      ⟨Function.update ports.pending port rest, ports.output ++ [(port, a)]⟩

theorem take_step (port : γ) (ports : Ports γ α α) :
    Step some ports none (ports.take port) := by
  unfold take
  cases hpending : ports.pending port with
  | nil => exact .idle
  | cons a rest => exact .take port a rest hpending

theorem Relay.take {ports : Ports γ α α} {arrived : List (γ × α)}
    (h : ports.Relay some arrived) (port : γ) : (ports.take port).Relay some arrived := by
  simpa using (take_step port ports).relay h

theorem pending_take (port other : γ) (ports : Ports γ α α) :
    (ports.take port).pending other =
      if other = port then (ports.pending other).tail else ports.pending other := by
  unfold take
  cases hpending : ports.pending port with
  | nil =>
      split_ifs with hother
      · rw [hother, hpending]
        rfl
      · rfl
  | cons a rest =>
      show Function.update ports.pending port rest other = _
      split_ifs with hother
      · subst hother
        rw [Function.update_self, hpending]
        rfl
      · rw [Function.update_of_ne hother]

/-- A message that is taken is not lost. -/
theorem on_output_take (port other : γ) (ports : Ports γ α α) :
    on other (ports.take port).output ++ (ports.take port).pending other =
      on other ports.output ++ ports.pending other := by
  unfold take
  cases hpending : ports.pending port with
  | nil => rfl
  | cons a rest =>
      show on other (ports.output ++ [(port, a)]) ++
        Function.update ports.pending port rest other = _
      by_cases hother : other = port
      · subst hother
        simp [hpending]
      · simp [on_cons_of_ne (Ne.symm hother), Function.update_of_ne hother]

theorem pending_put (port other : γ) (a : α) (ports : Ports γ α β) :
    (ports.put port a).pending other = ports.pending other ++ on other [(port, a)] := by
  unfold put
  by_cases hother : other = port
  · subst hother
    simp
  · simp [on_cons_of_ne (Ne.symm hother), Function.update_of_ne hother]

/-- One message after another from the ports of a list. -/
def takeAll (sources : List γ) (ports : Ports γ α α) : Ports γ α α :=
  sources.foldl (fun ports port => ports.take port) ports

theorem pending_takeAll (sources : List γ) (other : γ) (ports : Ports γ α α) :
    (ports.takeAll sources).pending other = (ports.pending other).drop (sources.count other) := by
  induction sources generalizing ports with
  | nil => rfl
  | cons port sources ih =>
      rw [takeAll, List.foldl_cons, ← takeAll, ih, pending_take, List.count_cons]
      by_cases hother : other = port
      · rw [if_pos hother, if_pos (beq_iff_eq.mpr hother.symm), List.drop_tail]
      · rw [if_neg hother, if_neg fun h => hother (beq_iff_eq.mp h).symm, Nat.add_zero]

theorem length_on (port : γ) (entries : List (γ × α)) :
    (on port entries).length = (entries.map Prod.fst).count port := by
  induction entries with
  | nil => rfl
  | cons entry entries ih =>
      obtain ⟨port', a⟩ := entry
      rw [List.map_cons, List.count_cons]
      by_cases hport : port' = port
      · subst hport
        rw [on_cons_self, List.length_cons, ih, if_pos (beq_self_eq_true port')]
      · rw [on_cons_of_ne hport, ih, if_neg fun h => hport (beq_iff_eq.mp h), Nat.add_zero]

/-- Taking as often from each port as something has been put there empties them all. -/
theorem Relay.pending_takeAll {ports : Ports γ α α} {arrived : List (γ × α)}
    (h : ports.Relay some arrived) (port : γ) :
    (ports.takeAll (arrived.map Prod.fst)).pending port = [] := by
  rw [Ports.pending_takeAll, ← length_on, (h port).arrived_eq, List.length_append]
  exact List.drop_eq_nil_of_le (Nat.le_add_left _ _)

end Ports

/-- The lanes from a socket that drops messages, and what it has dropped. -/
structure Outlets (γ α : Type*) where
  lanes : Ports γ α α
  dropped : List (γ × α)

namespace Outlets

def initial : Outlets γ α :=
  ⟨Ports.initial, []⟩

/-- What has come out of a lane, and what is in it. -/
def kept (port : γ) (self : Outlets γ α) : List α :=
  on port self.lanes.output ++ self.lanes.pending port

/-- How many messages have come for a lane. -/
def count (port : γ) (self : Outlets γ α) : Nat :=
  (self.kept port).length + (on port self.dropped).length

def offer (water : HighWater γ) (port : γ) (a : α) (self : Outlets γ α) : Outlets γ α :=
  if water.Drops port (self.lanes.pending port).length (self.count port) then
    { self with dropped := self.dropped ++ [(port, a)] }
  else { self with lanes := self.lanes.put port a }

def take (port : γ) (self : Outlets γ α) : Outlets γ α :=
  { self with lanes := self.lanes.take port }

def takeAll (sources : List γ) (self : Outlets γ α) : Outlets γ α :=
  { self with lanes := self.lanes.takeAll sources }

/-- What was offered is in the lanes, has come out of them or has been dropped, and only
behind as many messages as the mark says. -/
structure Carries (water : HighWater γ) (offered : List (γ × α)) (o : Outlets γ α) : Prop where
  sublist : ∀ port, (o.kept port).Sublist (on port offered)
  count : ∀ port, o.count port = (on port offered).length
  mark : ∀ port, on port o.dropped ≠ [] → water.mark ≠ 0 ∧ water.mark ≤ (o.kept port).length

variable {water : HighWater γ} {offered : List (γ × α)} {o : Outlets γ α}

theorem initial_carries (water : HighWater γ) : (initial : Outlets γ α).Carries water [] where
  sublist _ := List.Sublist.refl _
  count _ := rfl
  mark _ h := absurd rfl h

theorem kept_put (port other : γ) (a : α) (o : Outlets γ α) :
    { o with lanes := o.lanes.put port a }.kept other = o.kept other ++ on other [(port, a)] := by
  rw [kept, Ports.pending_put, ← List.append_assoc]
  rfl

@[simp] theorem kept_take (port other : γ) (o : Outlets γ α) :
    (o.take port).kept other = o.kept other :=
  Ports.on_output_take port other o.lanes

theorem Carries.offer (h : o.Carries water offered) (port : γ) (a : α) :
    (o.offer water port a).Carries water (offered ++ [(port, a)]) := by
  rw [Outlets.offer]
  split_ifs with hdrop
  · refine ⟨fun other => ?_, fun other => ?_, fun other hother => ?_⟩
    · rw [on_append]
      exact (h.sublist other).trans (List.sublist_append_left _ _)
    · have hcount := h.count other
      simp only [Outlets.count, kept, on_append, List.length_append] at hcount ⊢
      omega
    · by_cases hport : other = port
      · subst hport
        refine ⟨hdrop.1, Nat.le_trans hdrop.2.1 ?_⟩
        rw [kept, List.length_append]
        exact Nat.le_add_left _ _
      · rw [on_append, on_cons_of_ne (Ne.symm hport), on_nil, List.append_nil] at hother
        exact h.mark other hother
  · refine ⟨fun other => ?_, fun other => ?_, fun other hother => ?_⟩
    · rw [kept_put, on_append]
      exact (h.sublist other).append (List.Sublist.refl _)
    · have hcount := h.count other
      rw [Outlets.count] at hcount
      rw [Outlets.count, kept_put, on_append, List.length_append, List.length_append, ← hcount]
      exact Nat.add_right_comm _ _ _
    · obtain ⟨hmark, hkept⟩ := h.mark other hother
      rw [kept_put, List.length_append]
      exact ⟨hmark, Nat.le_trans hkept (Nat.le_add_right _ _)⟩

theorem Carries.take (h : o.Carries water offered) (port : γ) :
    (o.take port).Carries water offered where
  sublist other := (kept_take port other o).symm ▸ h.sublist other
  count other := by
    rw [Outlets.count, kept_take]
    exact h.count other
  mark other hother := (kept_take port other o).symm ▸ h.mark other hother

/-- Where nothing has been dropped nothing is missing. -/
theorem Carries.kept_eq (h : o.Carries water offered) {port : γ} (hnone : on port o.dropped = []) :
    o.kept port = on port offered := by
  have hcount := h.count port
  rw [Outlets.count, hnone, List.length_nil, Nat.add_zero] at hcount
  exact (h.sublist port).eq_of_length hcount

/-- Taking as often from each lane as something has come for it empties them all. -/
theorem Carries.pending_takeAll (h : o.Carries water offered) (port : γ) :
    (o.takeAll (offered.map Prod.fst)).lanes.pending port = [] := by
  have hcount := h.count port
  rw [takeAll, Ports.pending_takeAll, ← Ports.length_on, ← hcount, Outlets.count, kept,
    List.length_append]
  exact List.drop_eq_nil_of_le (by omega)

end Outlets

end Ports

end XeusZmq.FifoPort
