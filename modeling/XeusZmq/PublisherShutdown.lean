import XeusZmq.PublisherSafety

/-!
What the publisher thread has forwarded when it leaves its loop. The iteration
that sees the stop request forwards one message at most before it breaks.
-/

namespace XeusZmq.PublisherShutdown

open XeusZmq.Values
open XeusZmq.ServerLoops
open XeusZmq.FifoPort
open XeusZmq.Runs
open XeusZmq.Publisher
open XeusZmq.PublisherRuns
open XeusZmq.PublisherSafety

variable {config : Config}

def earlyOf (messages : List Published) : List Published :=
  messages.filter (·.early)

/-- The messages that were sent before any stop request and still wait. -/
def waitingEarly (s : XPublisher) : List (Nat × Published) :=
  s.listener.filter fun entry => entry.2.early

def SeesStop (ready : Ready) (s : XPublisher) : Prop :=
  s.status = .running ∧ ready.controller = true ∧ s.controller ≠ []

/-- A message sent before the stop request is readable when the request is. -/
def ReadableWithStop (config : Config) (events : List Event) : Prop :=
  ∀ before ready pipe after, events = before ++ .pass none ready pipe :: after →
    SeesStop ready (run config before) → waitingEarly (run config before) ≠ [] →
    ready.listener = true

/-- Each pipe has been forwarded, in order, up to the stop request at least. -/
def NothingLost (config : Config) (events : List Event) : Prop :=
  ∀ pipe, earlyOf (on pipe (forwards (run config events))) =
    earlyOf (on pipe (publications events))

/-- In the iteration that sees the stop request, at most one message sent before
it still waits, and that is the one which `recv` returns. -/
def AtMostOneWaits (config : Config) (events : List Event) : Prop :=
  ∀ before ready pipe after, events = before ++ .pass none ready pipe :: after →
    SeesStop ready (run config before) →
    waitingEarly (run config before) = [] ∨
      ∃ source message rest, waitingEarly (run config before) = [(source, message)] ∧
        XPublisher.receive pipe (run config before).listener = some (source, message, rest)

theorem waitingEarly_eq_nil_iff (s : XPublisher) :
    waitingEarly s = [] ↔ ∀ pipe, earlyOf (on pipe s.listener) = [] := by
  simp only [waitingEarly, earlyOf, on, List.filter_eq_nil_iff, List.mem_filterMap]
  constructor
  · rintro h pipe message ⟨entry, hmem, hentry⟩
    split_ifs at hentry
    obtain rfl := Option.some.inj hentry
    exact h entry hmem
  · intro h entry hmem
    exact h entry.1 entry.2 ⟨entry, hmem, if_pos rfl⟩

theorem nothingLost_iff_waitingEarly (events : List Event) :
    NothingLost config events ↔ waitingEarly (run config events) = [] := by
  rw [waitingEarly_eq_nil_iff]
  apply forall_congr'
  intro pipe
  have harrived := (run_relay config events pipe).arrived_eq
  change on pipe (publications events) = on pipe (forwards (run config events)) ++
    on pipe (run config events).listener at harrived
  rw [harrived, earlyOf, earlyOf, earlyOf, List.filter_append]
  exact List.self_eq_append_right

/-- Once the loop is left, nothing is forwarded and what is published is late. -/
theorem waitingEarly_of_left {s : XPublisher} (hstatus : s.status = .left)
    (hstop : s.stopSent = true) (events : List Event) :
    waitingEarly (Runs.run (XPublisher.step config) s events) = waitingEarly s := by
  induction events generalizing s with
  | nil => rfl
  | cons event events ih =>
      rw [Runs.run_cons]
      cases event with
      | publish pipe wireMsg =>
          rw [ih]
          · simp [waitingEarly, XPublisher.step, hstop]
          · exact hstatus
          · exact hstop
      | requestStop stopMsg =>
          rw [ih]
          · rfl
          · exact hstatus
          · rfl
      | peer wireMsg =>
          rw [ih]
          · rfl
          · exact hstatus
          · exact hstop
      | pass pollError ready pipe =>
          have hpass : s.step config (.pass pollError ready pipe) = s := by
            simp [XPublisher.step, XPublisher.pass, hstatus]
          rw [hpass]
          exact ih hstatus hstop

theorem stopSent_of_seesStop {ready : Ready} {before : List Event}
    (h : SeesStop ready (run config before)) : (run config before).stopSent = true := by
  obtain ⟨stopMsg, rest, hcontroller⟩ := List.exists_cons_of_ne_nil h.2.2
  have hmem := (run_serving config before).controller stopMsg
    (hcontroller ▸ List.mem_cons_self)
  rw [run_stopSent]
  exact List.any_eq_true.mpr ⟨_, hmem, rfl⟩

theorem waitingEarly_run {ready : Ready} {pipe : Nat} {before after : List Event}
    (h : SeesStop ready (run config before)) :
    waitingEarly (run config (before ++ .pass none ready pipe :: after)) =
      waitingEarly
        (if ready.listener then (run config before).forward pipe else run config before) := by
  have hstop := stopSent_of_seesStop h
  obtain ⟨hstatus, hready, hcontroller⟩ := h
  have hpassed := pass_passed config none ready pipe (run config before)
  rw [run_append_cons, XPublisher.step]
  have hpassStop := pass_stopSent config none ready pipe (run config before)
  generalize (run config before).pass config none ready pipe = s' at hpassed hpassStop
  cases hpassed with
  | ended hended => exact absurd hstatus hended
  | pollFailed num status hstatus hpoll => exact absurd hpoll.symm (Option.some_ne_none num)
  | answered s₁ stopMsg rest hstatus hpoll hs₁ =>
      rw [waitingEarly_of_left rfl (hpassStop.trans hstop), ← hs₁]
      rfl
  | served s₁ s₂ hstatus hpoll hs₁ hnone => exact absurd (hnone hready) hcontroller
  | skipped s₁ hstatus hpoll hs₁ hnone => exact absurd (hnone hready) hcontroller

theorem waitingEarly_forward_eq_nil_iff (pipe : Nat) (s : XPublisher) :
    waitingEarly (s.forward pipe) = [] ↔
      waitingEarly s = [] ∨ ∃ source message rest, waitingEarly s = [(source, message)] ∧
        XPublisher.receive pipe s.listener = some (source, message, rest) := by
  unfold XPublisher.forward
  cases hreceive : XPublisher.receive pipe s.listener with
  | none => simp
  | some received =>
      obtain ⟨source, message, rest⟩ := received
      show rest.filter _ = [] ↔ _
      rw [waitingEarly, filter_takeFrom_eq_nil_iff _ (receive_eq_some hreceive)]
      constructor
      · rintro (hnone | hone)
        · exact Or.inl hnone
        · exact Or.inr ⟨source, message, rest, hone, rfl⟩
      · rintro (hnone | ⟨source', message', rest', hone, hsame⟩)
        · exact Or.inl hnone
        · obtain ⟨rfl, hrest⟩ := Prod.mk.inj (Option.some.inj hsame)
          obtain ⟨rfl, -⟩ := Prod.mk.inj hrest
          exact Or.inr hone

theorem peerServed_ne_left {s s' : XPublisher} (h : PeerServed config s s')
    (hstatus : s.status = .running) : s'.status ≠ .left := by
  cases h <;> simp [hstatus]

theorem exists_seesStop (events : List Event) (hpoll : ¬ PollBroken events)
    (hleft : (run config events).status = .left) :
    ∃ before ready pipe after, events = before ++ .pass none ready pipe :: after ∧
      SeesStop ready (run config before) := by
  revert hpoll hleft
  apply run_induction (P := fun (events : List Event) (s : XPublisher) =>
    ¬ PollBroken events → s.status = .left → ∃ before ready pipe after,
      events = before ++ Event.pass none ready pipe :: after ∧
        SeesStop ready (run config before))
  · exact fun _ hleft => absurd hleft nofun
  · intro events event ih hpoll hleft
    have hearlier (hleft : (run config events).status = .left) :
        ∃ before ready pipe after, events ++ [event] = before ++ .pass none ready pipe :: after ∧
          SeesStop ready (run config before) := by
      obtain ⟨before, ready, pipe, after, rfl, hsees⟩ :=
        ih (fun hbroken => hpoll (hbroken.append _)) hleft
      exact ⟨before, ready, pipe, after ++ [event], by simp, hsees⟩
    cases event with
    | publish pipe wireMsg => exact hearlier hleft
    | requestStop stopMsg => exact hearlier hleft
    | peer wireMsg => exact hearlier hleft
    | pass pollError ready pipe =>
        change ((run config events).pass config pollError ready pipe).status = .left at hleft
        have hpassed := pass_passed config pollError ready pipe (run config events)
        have hfirst := firstBranch_eq XPublisher.status (forward_status pipe) ready.listener
          (run config events)
        generalize (run config events).pass config pollError ready pipe = s' at hpassed hleft
        cases hpassed with
        | ended => exact hearlier hleft
        | pollFailed num status hstatus hnum hkeep =>
            refine absurd ⟨num, ready, pipe, ?_, fun hintr => ?_⟩ hpoll
            · rw [hnum]
              exact List.mem_concat_self
            · exact absurd ((hkeep hintr).symm.trans hleft) nofun
        | answered s₁ stopMsg rest hstatus hnone hs₁ hready hcontroller =>
            refine ⟨events, ready, pipe, [], by rw [hnone], hstatus, hready, ?_⟩
            exact hcontroller ▸ List.cons_ne_nil _ _
        | served s₁ s₂ hstatus hnone hs₁ hcontroller hserved =>
            rw [← hs₁, hstatus] at hfirst
            exact absurd hleft (peerServed_ne_left hserved hfirst)
        | skipped s₁ hstatus hnone hs₁ =>
            rw [← hs₁, hstatus] at hfirst
            exact absurd (hfirst.symm.trans hleft) nofun

/-- When the publisher has left its loop, nothing sent before the stop request
is lost if and only if at most one such message still waited when the request was
seen, and `recv` returned that one. -/
theorem nothingLost_iff (config : Config) (events : List Event) (hpoll : ¬ PollBroken events)
    (hreadable : ReadableWithStop config events) (hleft : (run config events).status = .left) :
    NothingLost config events ↔ AtMostOneWaits config events := by
  have hdecided : ∀ before ready pipe after, events = before ++ .pass none ready pipe :: after →
      SeesStop ready (run config before) →
      (NothingLost config events ↔ waitingEarly (run config before) = [] ∨
        ∃ source message rest, waitingEarly (run config before) = [(source, message)] ∧
          XPublisher.receive pipe (run config before).listener =
            some (source, message, rest)) := by
    intro before ready pipe after hevents hsees
    rw [nothingLost_iff_waitingEarly, hevents, waitingEarly_run hsees,
      ← waitingEarly_forward_eq_nil_iff]
    split_ifs with hlistener
    · rfl
    · have hnone : waitingEarly (run config before) = [] := by
        by_contra hne
        exact hlistener (hreadable before ready pipe after hevents hsees hne)
      rw [waitingEarly_forward_eq_nil_iff]
      simp [hnone]
  constructor
  · intro hlost before ready pipe after hevents hsees
    exact (hdecided before ready pipe after hevents hsees).mp hlost
  · intro hone
    obtain ⟨before, ready, pipe, after, hevents, hsees⟩ := exists_seesStop events hpoll hleft
    exact (hdecided before ready pipe after hevents hsees).mpr
      (hone before ready pipe after hevents hsees)

theorem readableWithStop_everything {events : List Event}
    (h : ∀ pollError ready pipe, .pass pollError ready pipe ∈ events → ready = everything) :
    ReadableWithStop config events := by
  rintro before ready pipe after rfl - -
  rw [h none ready pipe (List.mem_append_right _ List.mem_cons_self)]
  rfl

def quiet : Config where
  serializeIopubMsgCb := none
  makeHeader _ := .null

def oneWaiting : List Event :=
  [.publish 0 [literal "status"], .requestStop [literal "stop"], .pass none everything 0]

theorem nothingLost_oneWaiting : NothingLost quiet oneWaiting := by
  apply (nothingLost_iff quiet oneWaiting ?_ ?_ rfl).mpr
  · intro before ready pipe after hevents _
    rcases before with _ | ⟨first, _ | ⟨second, _ | ⟨third, before⟩⟩⟩
    · simp [oneWaiting] at hevents
    · simp [oneWaiting] at hevents
    · simp only [oneWaiting, List.cons_append, List.nil_append, List.cons.injEq] at hevents
      obtain ⟨rfl, rfl, hpass, -⟩ := hevents
      obtain ⟨-, rfl, rfl⟩ := Event.pass.inj hpass
      exact Or.inr ⟨0, ⟨[literal "status"], true⟩, [], rfl, rfl⟩
    · simp [oneWaiting] at hevents
  · rintro ⟨num, ready, pipe, hmem, -⟩
    simp [oneWaiting] at hmem
  · apply readableWithStop_everything
    intro pollError ready pipe hmem
    simp only [oneWaiting, List.mem_cons, reduceCtorEq, Event.pass.injEq, List.not_mem_nil,
      or_false, false_or] at hmem
    exact hmem.2.1

def twoWaiting : List Event :=
  [.publish 0 [literal "status"], .publish 0 [literal "stream"], .requestStop [literal "stop"],
    .pass none everything 0]

/-- Of two messages published before the request, the second one is lost. -/
theorem not_nothingLost :
    ¬ PollBroken twoWaiting ∧ ReadableWithStop quiet twoWaiting ∧
      (run quiet twoWaiting).status = .left ∧ ¬ NothingLost quiet twoWaiting := by
  refine ⟨?_, ?_, rfl, ?_⟩
  · rintro ⟨num, ready, pipe, hmem, -⟩
    simp [twoWaiting] at hmem
  · apply readableWithStop_everything
    intro pollError ready pipe hmem
    simp only [twoWaiting, List.mem_cons, reduceCtorEq, Event.pass.injEq, List.not_mem_nil,
      or_false, false_or] at hmem
    exact hmem.2.1
  · intro h
    exact absurd (h 0) (by decide)

end XeusZmq.PublisherShutdown
