import XeusZmq.XThread

/-!
Objects with `xthread` members: the members are destroyed in the reverse order of their
declaration, while the threads may still run functions of other members.
-/

namespace XeusZmq.ThreadLifetimes

open XeusZmq.Commands
open XeusZmq.Runs (run_append run_cons run_nil run_induction)
open XeusZmq.XThread

/-- A member that is a thread, or any other that is not trivially destroyed. -/
inductive Member (ο κ : Type)
  | object (o : ο)
  | thread (k : κ)
  deriving DecidableEq

/-- No thread is declared ahead of what it uses. -/
def MayPrecede {ο κ : Type} (uses : κ → List ο) : Member ο κ → Member ο κ → Prop
  | .thread k, .object o => o ∉ uses k
  | _, _ => True

instance {ο κ : Type} [DecidableEq ο] (uses : κ → List ο) :
    DecidableRel (MayPrecede uses : Member ο κ → Member ο κ → Prop)
  | .thread k, .object o => inferInstanceAs (Decidable (o ∉ uses k))
  | .thread _, .thread _ => isTrue trivial
  | .object _, _ => isTrue trivial

/-- The members of a class in the order of their declaration, and those that the function
of each thread uses. -/
structure ClassLayout (ο κ : Type) where
  members : List (Member ο κ)
  uses : κ → List ο
  declared : ∀ k, .thread k ∈ members → ∀ o ∈ uses k, .object o ∈ members
  ordered : members.Pairwise (MayPrecede uses)

/-- An object of the class: its threads with the temporary on the right of an assignment,
the member that each thread has been started for, the members that have not been
destroyed, and the assignment that has not returned. -/
structure Instance (ο κ : Type) where
  threads : Threads (Option κ)
  startedFor : Nat → Option κ
  left : List (Member ο κ)
  assigning : Option κ
  destroying : Bool
  terminated : Bool

inductive Event (κ : Type)
  | start (k : κ)
  | destroy
  | goOn
  | finish (t : Nat)

/-- Each thread is behind the member that it has been started for, or behind the temporary
of the assignment, or it has been joined. -/
structure Placed {ο κ : Type} (layout : ClassLayout ο κ) (s : Instance ο κ) (t : Nat) (k : κ) :
    Prop where
  startedFor : s.startedFor t = some k
  member : .thread k ∈ layout.members
  place : s.threads.handle (some k) = some t ∨
    s.threads.handle none = some t ∧ s.assigning = some k ∨ (t, .joined) ∈ s.threads.released

structure Sound {ο κ : Type} (layout : ClassLayout ο κ) (s : Instance ο κ) : Prop where
  owned : Owned s.threads
  terminated : s.terminated = false
  joined : ∀ released ∈ s.threads.released, released.2 = .joined
  placed : ∀ t < s.threads.spawned, ∃ k, Placed layout s t k
  temporary : s.assigning = none → s.threads.handle none = none
  assigning : ∀ k, s.assigning = some k → .thread k ∈ layout.members ∧ s.destroying = false
  left : s.left <+: layout.members
  whole : s.destroying = false → s.left = layout.members
  gone : ∀ k, .thread k ∉ s.left → s.threads.handle (some k) = none

def Instance.initial {ο κ : Type} (layout : ClassLayout ο κ) : Instance ο κ where
  threads := .initial
  startedFor _ := none
  left := layout.members
  assigning := none
  destroying := false
  terminated := false

theorem sound_initial {ο κ : Type} (layout : ClassLayout ο κ) :
    Sound layout (.initial layout) where
  owned := owned_initial
  terminated := rfl
  joined _ h := by cases h
  placed _ h := absurd h (Nat.not_lt_zero _)
  temporary _ := rfl
  assigning _ h := by cases h
  left := List.prefix_refl _
  whole _ := rfl
  gone _ _ := rfl

theorem Placed.congr {ο κ : Type} {layout : ClassLayout ο κ} {s s' : Instance ο κ} {t : Nat}
    {k : κ} (h : Placed layout s t k) (hstarted : s'.startedFor t = s.startedFor t)
    (hplace : (s.threads.handle (some k) = some t ∨
        s.threads.handle none = some t ∧ s.assigning = some k ∨
        (t, .joined) ∈ s.threads.released) →
      s'.threads.handle (some k) = some t ∨
        s'.threads.handle none = some t ∧ s'.assigning = some k ∨
        (t, .joined) ∈ s'.threads.released) : Placed layout s' t k :=
  ⟨hstarted.trans h.startedFor, h.member, hplace h.place⟩

section Instances

variable {ο κ : Type} [DecidableEq κ]

/-- The rest of `m_thread = xthread(f, object)`. -/
def assign (k : κ) : Operation (Option κ) PUnit := do
  moveAssign none (some k) none
  XThread.destroy none none

/-- The operation waits for the thread behind the member, if there is one. -/
def JoinsFirst (k : κ) (operation : Operation (Option κ) PUnit)
    (f : Threads (Option κ) → Threads (Option κ)) : Prop :=
  ∀ s, exec operation s =
    match s.handle (some k) with
    | none => (.ok ⟨⟩, f s)
    | some t =>
        if s.finished t then (.ok ⟨⟩, f (s.release (some k) t .joined)) else (.error .waits, s)

theorem joinsFirst_destroy (k : κ) : JoinsFirst k (XThread.destroy none (some k)) id := by
  intro s
  rw [exec_destroy]
  cases s.handle (some k) with
  | none => rfl
  | some t => simp

theorem joinsFirst_assign (k : κ) : JoinsFirst k (assign k) (Threads.exchange (some k) none) := by
  intro s
  have hdestroy {s : Threads (Option κ)} (hnone : s.handle (some k) = none) :
      exec (XThread.destroy none none) (s.exchange (some k) none) =
        (.ok ⟨⟩, s.exchange (some k) none) := by
    have htemporary : (s.exchange (some k) none).handle none = none :=
      (handle_exchange_right _ _ _).trans hnone
    rw [exec_destroy, htemporary]
  rw [assign, exec_bind, exec_moveAssign]
  cases hhandle : s.handle (some k) with
  | none => exact hdestroy hhandle
  | some t =>
      have hnone : (s.release (some k) t .joined).handle (some k) = none :=
        (handle_release _ _ _ _ _).trans (if_pos rfl)
      cases hfinished : s.finished t with
      | true => simpa [hfinished] using hdestroy hnone
      | false => simp [hfinished]

namespace Instance

/-- An operation that waits is gone on with later. -/
def attempt (operation : Operation (Option κ) PUnit) (returned : Instance ο κ → Instance ο κ)
    (self : Instance ο κ) : Instance ο κ :=
  match exec operation self.threads with
  | (.ok _, threads) => returned { self with threads }
  | (.error .terminates, threads) => { self with threads, terminated := true }
  | (.error _, threads) => { self with threads }

def dropLast (self : Instance ο κ) : Instance ο κ :=
  { self with left := self.left.dropLast }

/-- The next step of the destructor. -/
def destroyLast (self : Instance ο κ) : Instance ο κ :=
  match self.left.getLast? with
  | none => self
  | some (.object _) => self.dropLast
  | some (.thread k) => self.attempt (XThread.destroy none (some k)) dropLast

def goOn (self : Instance ο κ) : Instance ο κ :=
  match self.assigning with
  | some k => self.attempt (assign k) fun self => { self with assigning := none }
  | none => if self.destroying then self.destroyLast else self

def start (k : κ) (self : Instance ο κ) : Instance ο κ :=
  { self.attempt (construct none) id with
    startedFor := Function.update self.startedFor self.threads.spawned (some k)
    assigning := some k }

end Instance

variable {layout : ClassLayout ο κ} {s : Instance ο κ}

theorem Sound.start (h : Sound layout s) {k : κ} (hassigning : s.assigning = none)
    (hdestroying : s.destroying = false) (hk : .thread k ∈ layout.members) :
    Sound layout (s.start k) := by
  have hnone := h.temporary hassigning
  have hthreads : (s.start k).threads = s.threads.spawn none := rfl
  have hother (k' : κ) : (s.threads.spawn none).handle (some k') = s.threads.handle (some k') :=
    (handle_spawn _ _ _).trans (if_neg (by simp))
  refine ⟨h.owned.spawn hnone, h.terminated, h.joined, fun t ht => ?_, (by rintro ⟨⟩),
    fun k' hk' => ?_, h.left, h.whole, fun k' hk' => (hother k').trans (h.gone k' hk')⟩
  · rcases Nat.lt_succ_iff_lt_or_eq.mp ht with hlt | rfl
    · obtain ⟨k', hplaced⟩ := h.placed t hlt
      refine ⟨k', hplaced.congr (Function.update_of_ne (Nat.ne_of_lt hlt) _ _) ?_⟩
      rintro (hhandle | ⟨htemporary, -⟩ | hjoined)
      · exact Or.inl ((hother k').trans hhandle)
      · cases hnone.symm.trans htemporary
      · exact Or.inr (Or.inr hjoined)
    · refine ⟨k, Function.update_self _ _ _, hk, Or.inr (Or.inl ⟨?_, rfl⟩)⟩
      rw [hthreads, handle_spawn, if_pos rfl]
  · obtain rfl := Option.some.inj hk'
    exact ⟨hk, hdestroying⟩

/-- A member whose thread has ended is joined. -/
theorem Sound.join (h : Sound layout s) {k : κ} {t : Nat}
    (hhandle : s.threads.handle (some k) = some t) (hfinished : s.threads.finished t = true) :
    Sound layout { s with threads := s.threads.release (some k) t .joined } := by
  have hkept (k' : Option κ) (hnone : s.threads.handle k' = none) :
      (s.threads.release (some k) t .joined).handle k' = none := by
    rw [handle_release, hnone, ite_self]
  refine ⟨h.owned.release hhandle fun _ => hfinished, h.terminated, fun released hmem => ?_,
    fun t' ht' => ?_, fun hidle => hkept none (h.temporary hidle), h.assigning, h.left, h.whole,
    fun k' hk' => hkept (some k') (h.gone k' hk')⟩
  · rcases List.mem_append.mp hmem with hmem | hmem
    · exact h.joined released hmem
    · rw [List.mem_singleton.mp hmem]
  · obtain ⟨k', hplaced⟩ := h.placed t' ht'
    refine ⟨k', hplaced.congr rfl ?_⟩
    rintro (hheld | ⟨htemporary, hassigning⟩ | hjoined)
    · by_cases hk : k' = k
      · subst hk
        obtain rfl := Option.some.inj (hhandle.symm.trans hheld)
        exact Or.inr (Or.inr List.mem_concat_self)
      · exact Or.inl ((handle_release _ _ _ _ _).trans ((if_neg (by simpa using hk)).trans hheld))
    · exact Or.inr (Or.inl ⟨(handle_release _ _ _ _ _).trans ((if_neg (by simp)).trans htemporary),
        hassigning⟩)
    · exact Or.inr (Or.inr (List.mem_append_left _ hjoined))

/-- The member takes the thread of the temporary. -/
theorem Sound.assign (h : Sound layout s) {k : κ} (hassigning : s.assigning = some k)
    (hnone : s.threads.handle (some k) = none) :
    Sound layout { s with threads := s.threads.exchange (some k) none, assigning := none } := by
  obtain ⟨hmember, hdestroying⟩ := h.assigning k hassigning
  have htaken : (s.threads.exchange (some k) none).handle (some k) = s.threads.handle none :=
    handle_exchange_left _ _ _
  have hleft : (s.threads.exchange (some k) none).handle none = none :=
    (handle_exchange_right _ _ _).trans hnone
  have hother {k' : κ} (hne : k' ≠ k) :
      (s.threads.exchange (some k) none).handle (some k') = s.threads.handle (some k') :=
    handle_exchange_of_ne _ (by simpa using hne) (by simp)
  refine ⟨h.owned.exchange _ _, h.terminated, h.joined, fun t ht => ?_, fun _ => hleft,
    (by rintro _ ⟨⟩), h.left, h.whole, fun k' hk' => ?_⟩
  · obtain ⟨k', hplaced⟩ := h.placed t ht
    refine ⟨k', hplaced.congr rfl ?_⟩
    rintro (hheld | ⟨htemporary, hfor⟩ | hjoined)
    · have hne : k' ≠ k := by
        rintro rfl
        cases hnone.symm.trans hheld
      exact Or.inl ((hother hne).trans hheld)
    · obtain rfl := Option.some.inj (hassigning.symm.trans hfor)
      exact Or.inl (htaken.trans htemporary)
    · exact Or.inr (Or.inr hjoined)
  · have hne : k' ≠ k := by
      rintro rfl
      exact hk' (h.whole hdestroying ▸ hmember)
    exact (hother hne).trans (h.gone k' hk')

/-- The last member is destroyed, which has no thread any more if it is one. -/
theorem Sound.dropLast (h : Sound layout s) (hdestroying : s.destroying = true)
    (hlast : ∀ k, s.left.getLast? = some (.thread k) → s.threads.handle (some k) = none) :
    Sound layout s.dropLast := by
  refine ⟨h.owned, h.terminated, h.joined, fun t ht => ?_, h.temporary, h.assigning,
    (List.dropLast_prefix _).trans h.left, fun hnot => ?_, fun k hk => ?_⟩
  · obtain ⟨k, hplaced⟩ := h.placed t ht
    exact ⟨k, hplaced.congr rfl id⟩
  · cases hdestroying.symm.trans hnot
  · by_cases hmem : .thread k ∈ s.left
    · apply hlast k
      cases hleft : s.left.getLast? with
      | none =>
          rw [List.getLast?_eq_none_iff.mp hleft] at hmem
          cases hmem
      | some last =>
          obtain ⟨front, hfront⟩ := List.getLast?_eq_some_iff.mp hleft
          rw [Instance.dropLast, hfront, List.dropLast_concat] at hk
          rw [hfront] at hmem
          rcases List.mem_append.mp hmem with hmem | hmem
          · exact absurd hmem hk
          · rw [List.mem_singleton.mp hmem]
    · exact h.gone k hmem

namespace Instance

theorem attempt_eq {k : κ} {operation : Operation (Option κ) PUnit}
    {f : Threads (Option κ) → Threads (Option κ)} (hjoins : JoinsFirst k operation f)
    (returned : Instance ο κ → Instance ο κ) (s : Instance ο κ) :
    s.attempt operation returned =
      match s.threads.handle (some k) with
      | none => returned { s with threads := f s.threads }
      | some t =>
          if s.threads.finished t then
            returned { s with threads := f (s.threads.release (some k) t .joined) }
          else s := by
  rw [attempt, hjoins]
  cases s.threads.handle (some k) with
  | none => rfl
  | some t => cases hfinished : s.threads.finished t <;> simp [hfinished]

end Instance

/-- Whether it returns or waits, an operation that joins the member first keeps what holds
after it when there was no thread to join. -/
theorem Sound.attempt (h : Sound layout s) {k : κ} {operation : Operation (Option κ) PUnit}
    {f : Threads (Option κ) → Threads (Option κ)} (hjoins : JoinsFirst k operation f)
    {returned : Instance ο κ → Instance ο κ}
    (hreturned : ∀ threads, Sound layout { s with threads } → threads.handle (some k) = none →
      Sound layout (returned { s with threads := f threads })) :
    Sound layout (s.attempt operation returned) := by
  rw [Instance.attempt_eq hjoins]
  cases hhandle : s.threads.handle (some k) with
  | none => exact hreturned s.threads h hhandle
  | some t =>
      cases hfinished : s.threads.finished t with
      | false => simpa [hfinished] using h
      | true =>
          simp only [hfinished, if_true]
          exact hreturned _ (h.join hhandle hfinished)
            ((handle_release _ _ _ _ _).trans (if_pos rfl))

theorem Sound.goOn (h : Sound layout s) : Sound layout s.goOn := by
  rw [Instance.goOn]
  cases hassigning : s.assigning with
  | some k =>
      exact h.attempt (joinsFirst_assign k) fun _ hjoined hnone => hjoined.assign hassigning hnone
  | none =>
      cases hdestroying : s.destroying with
      | false => exact h
      | true =>
          simp only [if_true, Instance.destroyLast]
          cases hlast : s.left.getLast? with
          | none => exact h
          | some last =>
              cases last with
              | object o =>
                  refine h.dropLast hdestroying fun k hk => ?_
                  cases hlast.symm.trans hk
              | thread k =>
                  refine h.attempt (joinsFirst_destroy k) fun threads hjoined hnone =>
                    hjoined.dropLast hdestroying fun k' hk' => ?_
                  obtain rfl := Member.thread.inj (Option.some.inj (hlast.symm.trans hk'))
                  exact hnone

/-- Once the threads have ended, each step of the destructor destroys a member. -/
theorem Sound.goOn_ended (h : Sound layout s) (hdestroying : s.destroying = true)
    (hended : ∀ t < s.threads.spawned, s.threads.finished t = true) (hleft : s.left ≠ []) :
    ∃ threads, s.goOn = Instance.dropLast { s with threads } ∧
      threads.spawned = s.threads.spawned ∧ threads.finished = s.threads.finished := by
  have hassigning : s.assigning = none := by
    cases hassigning : s.assigning with
    | none => rfl
    | some k => cases (h.assigning k hassigning).2.symm.trans hdestroying
  have hgoOn : s.goOn = s.destroyLast := by rw [Instance.goOn, hassigning, hdestroying]; rfl
  rw [hgoOn, Instance.destroyLast, List.getLast?_eq_some_getLast hleft]
  cases s.left.getLast hleft with
  | object o => exact ⟨s.threads, rfl, rfl, rfl⟩
  | thread k =>
      simp only [Instance.attempt_eq (joinsFirst_destroy k)]
      cases hhandle : s.threads.handle (some k) with
      | none => exact ⟨s.threads, rfl, rfl, rfl⟩
      | some t =>
          have hfinished := hended t (h.owned.held _ _ hhandle).1
          exact ⟨s.threads.release (some k) t .joined, if_pos hfinished, rfl, rfl⟩

variable [DecidableEq ο] (layout)

/-- The thread that owns the object starts threads and destroys the object, one after the
other. -/
def Instance.step (self : Instance ο κ) : Event κ → Instance ο κ
  | .finish t => { self with threads := self.threads.finish t }
  | .start k =>
      if self.assigning = none ∧ self.destroying = false ∧ .thread k ∈ layout.members then
        self.start k
      else self
  | .destroy => if self.assigning = none then { self with destroying := true } else self
  | .goOn => self.goOn

def run : List (Event κ) → Instance ο κ :=
  Runs.run (Instance.step layout) (.initial layout)

variable {layout}

theorem sound_step (h : Sound layout s) (event : Event κ) : Sound layout (s.step layout event) := by
  cases event with
  | finish t =>
      refine ⟨h.owned.finish t, h.terminated, h.joined, fun t' ht' => ?_, h.temporary,
        h.assigning, h.left, h.whole, h.gone⟩
      obtain ⟨k, hplaced⟩ := h.placed t' ht'
      exact ⟨k, hplaced.congr rfl id⟩
  | start k =>
      rw [Instance.step]
      split_ifs with hstart
      · exact h.start hstart.1 hstart.2.1 hstart.2.2
      · exact h
  | destroy =>
      rw [Instance.step]
      split_ifs with hidle
      · refine ⟨h.owned, h.terminated, h.joined, fun t ht => ?_, h.temporary, fun k hk => ?_,
          h.left, (by rintro ⟨⟩), h.gone⟩
        · obtain ⟨k, hplaced⟩ := h.placed t ht
          exact ⟨k, hplaced.congr rfl id⟩
        · cases hidle.symm.trans hk
      · exact h
  | goOn => exact h.goOn

theorem sound_run (events : List (Event κ)) : Sound layout (run layout events) :=
  run_induction (P := fun _ s => Sound layout s) _ (sound_initial layout)
    (fun _ event h => sound_step h event) events

/-- What a thread that has not ended uses has not been destroyed. -/
theorem Sound.safe (h : Sound layout s) {t : Nat} (ht : t < s.threads.spawned)
    (hrunning : s.threads.finished t = false) :
    ∃ k, s.startedFor t = some k ∧ .thread k ∈ s.left ∧
      ∀ o ∈ layout.uses k, .object o ∈ s.left := by
  obtain ⟨k, hfor, hmember, hplace⟩ := h.placed t ht
  have hleft : .thread k ∈ s.left := by
    rcases hplace with hheld | ⟨-, hassigning⟩ | hjoined
    · by_contra hgone
      cases (h.gone k hgone).symm.trans hheld
    · rw [h.whole (h.assigning k hassigning).2]
      exact hmember
    · cases (h.owned.ended t hjoined).symm.trans hrunning
  refine ⟨k, hfor, hleft, fun o ho => ?_⟩
  obtain ⟨destroyed, hmembers⟩ := h.left
  have hdeclared := layout.declared k hmember o ho
  have hordered := layout.ordered
  rw [← hmembers] at hdeclared hordered
  rcases List.mem_append.mp hdeclared with hmem | hmem
  · exact hmem
  · exact absurd ho ((List.pairwise_append.mp hordered).2.2 _ hleft _ hmem)

theorem Sound.destroyed (h : Sound layout s) (hdestroying : s.destroying = true)
    (hended : ∀ t < s.threads.spawned, s.threads.finished t = true) :
    ∃ n, (Runs.run (Instance.step layout) s (List.replicate n .goOn)).left = [] := by
  obtain ⟨n, -, hleft⟩ := Runs.run_replicate_reaches (Instance.step layout) .goOn
    (fun s => Sound layout s ∧ s.destroying = true ∧
      ∀ t < s.threads.spawned, s.threads.finished t = true)
    (fun s => s.left = []) (fun s => s.left.length)
    (fun s ⟨hsound, hdestroying, hended⟩ hleft => by
      obtain ⟨threads, hgoOn, hspawned, hfinished⟩ :=
        hsound.goOn_ended hdestroying hended hleft
      have hnext := hsound.goOn
      rw [hgoOn] at hnext
      rw [Instance.step, hgoOn]
      refine ⟨⟨hnext, hdestroying, fun t ht => ?_⟩, ?_⟩
      · exact (congrFun hfinished t).trans (hended t (hspawned ▸ ht))
      · have hlength := List.length_pos_iff.mpr hleft
        simp only [Instance.dropLast, List.length_dropLast]
        omega)
    ⟨h, hdestroying, hended⟩
  exact ⟨n, hleft⟩

end Instances

/-- In every run the object starts its threads and is destroyed without ending the program.
What a running thread uses is still there, and the destructor returns once the threads have
ended. -/
def Outlived {ο κ : Type} [DecidableEq ο] [DecidableEq κ] (layout : ClassLayout ο κ) : Prop :=
  ∀ events : List (Event κ),
    let s := run layout events
    s.terminated = false ∧
      (∀ t < s.threads.spawned, s.threads.finished t = false →
        ∃ k, s.startedFor t = some k ∧ .thread k ∈ s.left ∧
          ∀ o ∈ layout.uses k, .object o ∈ s.left) ∧
      (s.destroying = true → (∀ t < s.threads.spawned, s.threads.finished t = true) →
        ∃ n, (run layout (events ++ List.replicate n .goOn)).left = [])

theorem outlived {ο κ : Type} [DecidableEq ο] [DecidableEq κ] (layout : ClassLayout ο κ) :
    Outlived layout := by
  intro events
  have h : Sound layout (run layout events) := sound_run events
  refine ⟨h.terminated, fun t ht hrunning => h.safe ht hrunning, fun hdestroying hended => ?_⟩
  obtain ⟨n, hn⟩ := h.destroyed hdestroying hended
  exact ⟨n, (congrArg Instance.left (run_append _ _ _ _)).trans hn⟩

/-! The classes that own threads, each with the members that are not trivially destroyed. -/

/-- What the threads of the servers run. -/
inductive ServerThread
  | iopub
  | heartbeat
  | control
  | shell
  deriving DecidableEq

inductive ServerZmqObject
  | shell
  | controller
  | stdin
  | publisherPub
  | publisherController
  | heartbeatController
  | auth
  | publisher
  | heartbeat
  | messenger
  deriving DecidableEq

/-- `xserver_zmq_impl`. The publisher calls back for `serialize_iopub`. -/
def xserverZmqImpl : ClassLayout ServerZmqObject ServerThread where
  members :=
    [.object .shell, .object .controller, .object .stdin, .object .publisherPub,
      .object .publisherController, .object .heartbeatController, .object .auth,
      .object .publisher, .object .heartbeat, .thread .iopub, .thread .heartbeat,
      .object .messenger]
  uses
    | .iopub => [.publisher, .auth]
    | .heartbeat => [.heartbeat]
    | .control => []
    | .shell => []
  declared := by rintro ⟨⟩ <;> decide
  ordered := by decide

inductive ServerSplitObject
  | auth
  | control
  | heartbeat
  | publisher
  | shell
  | controlRunner
  | shellRunner
  deriving DecidableEq

/-- `xserver_zmq_split`, with the members of its `xserver_zmq_split_impl` first. The two
runners call back for anything the server does. -/
def xserverZmqSplit : ClassLayout ServerSplitObject ServerThread where
  members :=
    [.object .auth, .object .control, .object .heartbeat, .object .publisher, .object .shell,
      .thread .heartbeat, .thread .iopub, .object .controlRunner, .object .shellRunner,
      .thread .control, .thread .shell]
  uses
    | .iopub => [.publisher, .auth]
    | .heartbeat => [.heartbeat]
    | .control | .shell =>
        [.controlRunner, .shellRunner, .control, .shell, .heartbeat, .publisher, .auth]
  declared := by rintro ⟨⟩ <;> decide
  ordered := by decide

inductive ClientThread
  | iopub
  | heartbeat
  deriving DecidableEq

inductive ClientObject
  | auth
  | shellClient
  | controlClient
  | iopubClient
  | heartbeatClient
  | messenger
  | shellListener
  | controlListener
  | iopubListener
  deriving DecidableEq

/-- `xclient_zmq_impl`. The iopub client calls back for `deserialize_iopub`. -/
def xclientZmqImpl : ClassLayout ClientObject ClientThread where
  members :=
    [.object .auth, .object .shellClient, .object .controlClient, .object .iopubClient,
      .object .heartbeatClient, .object .messenger, .object .shellListener,
      .object .controlListener, .object .iopubListener, .thread .iopub, .thread .heartbeat]
  uses
    | .iopub => [.iopubClient, .auth]
    | .heartbeat => [.heartbeatClient]
  declared := by rintro ⟨⟩ <;> decide
  ordered := by decide

/-- No thread of a server or a client runs on what has been destroyed, whenever the server
or the client is. -/
theorem members_outlive_threads :
    Outlived xserverZmqImpl ∧ Outlived xserverZmqSplit ∧ Outlived xclientZmqImpl :=
  ⟨outlived _, outlived _, outlived _⟩

end XeusZmq.ThreadLifetimes
