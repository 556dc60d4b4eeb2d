import XeusZmq.ServerLoops
import XeusZmq.FifoPort
import XeusZmq.Runs

/-!
What the loop of the default server makes of the messages that arrive, well
formed or not.
-/

namespace XeusZmq.DefaultDispatch

open XeusZmq.Values
open XeusZmq.ServerLoops
open XeusZmq.FifoPort
open XeusZmq.Runs

variable {decode : Multipart → Result XMessage}

/-- Decoding throws nothing that `poll_channels` catches. -/
def NoZmqError (decode : Multipart → Result XMessage) : Prop :=
  ∀ wireMsg num, decode wireMsg ≠ .error (.exception (.zmqError num))

def arrival : DefaultEvent → Option (Channel × Multipart)
  | .arrive channel wireMsg => some (channel, wireMsg)
  | _ => none

def ports (s : DefaultServer) : Ports Channel Multipart XMessage :=
  ⟨s.pending, s.calls⟩

theorem pending_setPending (s : DefaultServer) (channel : Channel) (wireMsgs : List Multipart) :
    (s.setPending channel wireMsgs).pending = Function.update s.pending channel wireMsgs := by
  funext other
  cases channel <;> cases other <;> rfl

@[simp] theorem calls_setPending (s : DefaultServer) (channel : Channel)
    (wireMsgs : List Multipart) : (s.setPending channel wireMsgs).calls = s.calls := by
  cases channel <;> rfl

@[simp] theorem status_setPending (s : DefaultServer) (channel : Channel)
    (wireMsgs : List Multipart) : (s.setPending channel wireMsgs).status = s.status := by
  cases channel <;> rfl

@[simp] theorem requestStop_setPending (s : DefaultServer) (channel : Channel)
    (wireMsgs : List Multipart) :
    (s.setPending channel wireMsgs).requestStop = s.requestStop := by
  cases channel <;> rfl

/-- What one step of the server thread can do. -/
inductive Passed (decode : Multipart → Result XMessage) (pollError : Option Nat)
    (s : DefaultServer) : DefaultServer → Prop
  | idle (status : LoopStatus)
      (hfailed : ∀ f, status = .failed f → s.status = .failed f ∨ Fatal pollError)
      (hleft : status = .left → s.status = .left ∨ s.requestStop = true)
      (hended : ∀ f, s.status = .failed f → status = .failed f)
      (hempty : s.status = .polling → pollError = none → s.requestStop = false →
        ∀ channel, s.pending channel = []) :
      Passed decode pollError s { s with status }
  | dispatched (channel : Channel) (wireMsg : Multipart) (rest : List Multipart)
      (msg : XMessage) (hstatus : s.status = .polling)
      (hpending : s.pending channel = wireMsg :: rest) (hdecode : decode wireMsg = .ok msg) :
      Passed decode pollError s
        { (s.setPending channel rest).notifyListener channel msg with status := .checking }
  | failed (channel : Channel) (wireMsg : Multipart) (rest : List Multipart) (f : Failure)
      (hstatus : s.status = .polling)
      (hpending : s.pending channel = wireMsg :: rest) (hdecode : decode wireMsg = .error f) :
      Passed decode pollError s { s.setPending channel rest with status := .failed f }

theorem catchZmqError_of_ne {α : Type} {result : Result (Option α)}
    (h : ∀ num, result ≠ .error (.exception (.zmqError num))) :
    catchZmqError result = result := by
  unfold catchZmqError
  split
  · exact absurd rfl (h _)
  · rfl

theorem catchZmqError_message {result : Result XMessage} (channel : Channel)
    (h : ∀ num, result ≠ .error (.exception (.zmqError num))) :
    catchZmqError (result.map fun msg => some (msg, channel)) =
      result.map fun msg => some (msg, channel) := by
  apply catchZmqError_of_ne
  intro num hnum
  cases result with
  | error f => exact h num (congrArg Except.error (Except.error.inj hnum))
  | ok msg => exact absurd hnum nofun

theorem passed_message {s : DefaultServer} {pollError : Option Nat} (channel : Channel)
    {wireMsg : Multipart} {rest : List Multipart} (hstatus : s.status = .polling)
    (hpending : s.pending channel = wireMsg :: rest) :
    Passed decode pollError s
      ((s.setPending channel rest).notify
        ((decode wireMsg).map fun msg => some (msg, channel))) := by
  cases hdecode : decode wireMsg with
  | error f => exact .failed channel wireMsg rest f hstatus hpending hdecode
  | ok msg => exact .dispatched channel wireMsg rest msg hstatus hpending hdecode

theorem pass_passed (hzmq : NoZmqError decode)
    (pollError : Option Nat) (s : DefaultServer) :
    Passed decode pollError s (s.pass decode pollError) := by
  have hidle (hstatus : s.status ≠ .polling) : Passed decode pollError s s :=
    .idle s.status (fun _ => Or.inl) Or.inl (fun _ => id) (fun hpolling => absurd hpolling hstatus)
  unfold DefaultServer.pass
  split
  · rename_i hstatus
    refine .idle _ (fun f hf => ?_) (fun hleft => ?_) (fun f hf => ?_) (fun hpolling => ?_)
    · split_ifs at hf
    · split_ifs at hleft with hstop
      exact Or.inr hstop
    · exact absurd (hstatus.symm.trans hf) nofun
    · exact absurd (hstatus.symm.trans hpolling) nofun
  · rename_i hstatus
    have hended : ∀ f (status : LoopStatus), s.status = .failed f → status = .failed f :=
      fun f _ hf => absurd (hstatus.symm.trans hf) nofun
    have hempty (hcontroller : s.controller = []) (hshell : s.shell = []) (channel : Channel) :
        s.pending channel = [] := by
      cases channel
      · exact hshell
      · exact hcontroller
    by_cases hwaits : s.waits pollError = true
    · rw [if_pos hwaits]
      simp only [DefaultServer.waits, Bool.and_eq_true, List.isEmpty_iff] at hwaits
      exact .idle s.status (fun _ => Or.inl) Or.inl (fun _ => id)
        (fun _ _ _ => hempty hwaits.1.2 hwaits.2)
    rw [if_neg hwaits]
    unfold DefaultServer.pollChannels DefaultServer.receive
    rcases pollError with _ | num
    · cases hcontroller : s.controller with
      | cons wireMsg controller =>
          simp only [catchZmqError_message _ (hzmq wireMsg)]
          exact passed_message .control hstatus hcontroller
      | nil =>
          cases hshell : s.shell with
          | nil =>
              exact .idle .checking nofun nofun (fun f => hended f _)
                (fun _ _ _ => hempty hcontroller hshell)
          | cons wireMsg shell =>
              by_cases hstop : s.requestStop = true
              · simp only [hstop, if_true]
                refine .idle .checking nofun nofun (fun f => hended f _) ?_
                exact fun _ _ hrunning => absurd (hstop.symm.trans hrunning) nofun
              · simp only [if_neg hstop, catchZmqError_message _ (hzmq wireMsg)]
                have hmessage : Passed decode none s _ := passed_message .shell hstatus hshell
                rwa [DefaultServer.setPending, hcontroller] at hmessage
    · by_cases hnum : num ≠ eintr ∧ num ≠ eterm
      · simp only [catchZmqError, if_pos hnum]
        exact .idle _ (fun f _ => Or.inr ⟨num, rfl, hnum⟩) nofun (fun f => hended f _) nofun
      · simp only [catchZmqError, if_neg hnum]
        exact .idle .checking nofun nofun (fun f => hended f _) nofun
  · rename_i hstatus
    exact hidle (fun hpolling => absurd (hstatus.symm.trans hpolling) nofun)
  · rename_i hstatus
    exact hidle (fun hpolling => absurd (hstatus.symm.trans hpolling) nofun)

theorem ports_passed {pollError : Option Nat} {s s' : DefaultServer}
    (h : Passed decode pollError s s') :
    Ports.Step (decoded decode) (ports s) none (ports s') := by
  cases h with
  | idle => exact .idle
  | dispatched channel wireMsg rest msg hstatus hpending hdecode =>
      have htake : Ports.Step (decoded decode) (ports s) none _ :=
        .take channel wireMsg rest hpending
      rw [decoded_of_ok hdecode] at htake
      convert htake using 1
      simp only [ports, Ports.mk.injEq]
      refine ⟨pending_setPending s channel rest, ?_⟩
      simp [DefaultServer.notifyListener]
  | failed channel wireMsg rest f hstatus hpending hdecode =>
      have htake : Ports.Step (decoded decode) (ports s) none _ :=
        .take channel wireMsg rest hpending
      rw [decoded_of_error hdecode] at htake
      convert htake using 1
      simp only [ports, Ports.mk.injEq]
      refine ⟨pending_setPending s channel rest, ?_⟩
      simp

theorem step_ports (hzmq : NoZmqError decode)
    (s : DefaultServer) (event : DefaultEvent) :
    Ports.Step (decoded decode) (ports s) (arrival event) (ports (s.step decode event)) := by
  cases event with
  | arrive channel wireMsg =>
      have hports : ports (s.step decode (.arrive channel wireMsg)) =
          ⟨Function.update s.pending channel (s.pending channel ++ [wireMsg]), s.calls⟩ := by
        rw [DefaultServer.step, DefaultServer.arrive, ports, pending_setPending,
          calls_setPending]
      rw [hports]
      exact .arrive channel wireMsg
  | stop => exact .idle
  | pass pollError => exact ports_passed (pass_passed hzmq pollError s)

def run (decode : Multipart → Result XMessage) : List DefaultEvent → DefaultServer :=
  Runs.run (DefaultServer.step decode) .initial

def arrivals (events : List DefaultEvent) : List (Channel × Multipart) :=
  events.filterMap arrival

theorem arrivals_concat (events : List DefaultEvent) (event : DefaultEvent) :
    arrivals (events ++ [event]) = arrivals events ++ (arrival event).toList :=
  filterMap_concat arrival events event

/-- Whatever happens, the calls made of a listener are those for the
well-formed messages among those read from its channel. -/
theorem run_relay (hzmq : NoZmqError decode)
    (events : List DefaultEvent) :
    (ports (run decode events)).Relay (decoded decode) (arrivals events) := by
  apply run_induction (P := fun events s => (ports s).Relay (decoded decode) (arrivals events))
  · intro channel
    cases channel <;> exact .initial
  · intro events event ih
    rw [arrivals_concat]
    exact (step_ports hzmq _ event).relay ih

/-- As many messages have arrived on a channel as wait there or were passed on. -/
def Accounted (arrived : List (Channel × Multipart)) (s : DefaultServer) : Prop :=
  ∀ channel, (on channel s.calls).length + (s.pending channel).length =
    (on channel arrived).length

theorem accounted_passed {pollError : Option Nat} {s s' : DefaultServer}
    {arrived : List (Channel × Multipart)} (h : Passed decode pollError s s')
    (hrunning : ∀ f, s'.status ≠ .failed f)
    (haccounted : (∀ f, s.status ≠ .failed f) → Accounted arrived s) :
    Accounted arrived s' := by
  cases h with
  | idle status hfailed hleft hended hempty =>
      exact haccounted fun f hf => hrunning f (hended f hf)
  | dispatched channel wireMsg rest msg hstatus hpending hdecode =>
      intro other
      have hother := haccounted (fun f hf => absurd (hstatus.symm.trans hf) nofun) other
      show (on other ((s.setPending channel rest).calls ++ [(channel, msg)])).length +
        ((s.setPending channel rest).pending other).length = _
      rw [calls_setPending, pending_setPending, on_append, List.length_append]
      by_cases hchannel : other = channel
      · subst hchannel
        rw [hpending] at hother
        simp only [on_cons_self, on_nil, Function.update_self, List.length_cons,
          List.length_nil] at hother ⊢
        omega
      · rw [Function.update_of_ne hchannel, on_cons_of_ne (Ne.symm hchannel)]
        exact hother
  | failed channel wireMsg rest f hstatus hpending hdecode => exact absurd rfl (hrunning f)

theorem accounted_arrive {arrived : List (Channel × Multipart)} {s : DefaultServer}
    (haccounted : Accounted arrived s) (channel : Channel) (wireMsg : Multipart) :
    Accounted (arrived ++ [(channel, wireMsg)]) (s.arrive channel wireMsg) := by
  intro other
  have hother := haccounted other
  rw [DefaultServer.arrive, calls_setPending, pending_setPending, on_append, List.length_append]
  by_cases hchannel : other = channel
  · subst hchannel
    simp only [Function.update_self, List.length_append, on_cons_self, on_nil, List.length_cons,
      List.length_nil]
    omega
  · rw [Function.update_of_ne hchannel, on_cons_of_ne (Ne.symm hchannel)]
    exact hother

theorem run_accounted (hzmq : NoZmqError decode)
    (events : List DefaultEvent) (hrunning : ∀ f, (run decode events).status ≠ .failed f) :
    Accounted (arrivals events) (run decode events) := by
  revert hrunning
  apply run_induction (P := fun events s =>
    (∀ f, s.status ≠ .failed f) → Accounted (arrivals events) s)
  · intro _ channel
    cases channel <;> rfl
  · intro events event ih hrunning
    rw [arrivals_concat]
    cases event with
    | arrive channel wireMsg =>
        apply accounted_arrive
        apply ih
        intro f hf
        apply hrunning f
        rwa [DefaultServer.step, DefaultServer.arrive, status_setPending]
    | stop =>
        simp only [arrival, Option.toList_none, List.append_nil]
        exact ih hrunning
    | pass pollError =>
        simp only [arrival, Option.toList_none, List.append_nil]
        exact accounted_passed (pass_passed hzmq pollError _) hrunning ih

/-- The failures of the thread come from a message that does not decode or
from `zmq::poll`, and it leaves the loop on request only. -/
structure Justified (decode : Multipart → Result XMessage) (events : List DefaultEvent)
    (s : DefaultServer) : Prop where
  requestStop : s.requestStop = true → .stop ∈ events
  left : s.status = .left → .stop ∈ events
  failed : ∀ f, s.status = .failed f →
    (∃ channel, ∃ wireMsg ∈ on channel (arrivals events), ∃ f, decode wireMsg = .error f) ∨
      ∃ pollError, .pass pollError ∈ events ∧ Fatal pollError

theorem Justified.extend {events events' : List DefaultEvent} {s s' : DefaultServer}
    (h : Justified decode events s) (hstop : s'.requestStop = s.requestStop)
    (hstatus : s'.status = s.status) : Justified decode (events ++ events') s' where
  requestStop hrequest := List.mem_append_left _ (h.requestStop (hstop ▸ hrequest))
  left hleft := List.mem_append_left _ (h.left (hstatus ▸ hleft))
  failed f hf := by
    rcases h.failed f (hstatus ▸ hf) with ⟨channel, wireMsg, hmem, hdecode⟩ |
      ⟨pollError, hmem, hfatal⟩
    · refine Or.inl ⟨channel, wireMsg, ?_, hdecode⟩
      rw [arrivals, List.filterMap_append, on_append]
      exact List.mem_append_left _ hmem
    · exact Or.inr ⟨pollError, List.mem_append_left _ hmem, hfatal⟩

theorem justified_passed {events : List DefaultEvent} {pollError : Option Nat}
    {s s' : DefaultServer} (hrelay : (ports s).Relay (decoded decode) (arrivals events))
    (h : Justified decode events s) (hpassed : Passed decode pollError s s') :
    Justified decode (events ++ [.pass pollError]) s' := by
  have hsame : Justified decode (events ++ [.pass pollError]) s := h.extend rfl rfl
  cases hpassed with
  | idle status hfailed hleft hended hempty =>
      refine ⟨hsame.requestStop, fun hs => ?_, fun f hf => ?_⟩
      · rcases hleft hs with hs | hs
        · exact hsame.left hs
        · exact hsame.requestStop hs
      · rcases hfailed f hf with hf | hfatal
        · exact hsame.failed f hf
        · exact Or.inr ⟨pollError, List.mem_concat_self, hfatal⟩
  | dispatched channel wireMsg rest msg hstatus hpending hdecode =>
      refine ⟨fun hs => hsame.requestStop ?_, nofun, nofun⟩
      rwa [← requestStop_setPending s channel rest]
  | failed channel wireMsg rest f hstatus hpending hdecode =>
      refine ⟨fun hs => hsame.requestStop ?_, nofun, fun f' _ => Or.inl ?_⟩
      · rwa [← requestStop_setPending s channel rest]
      · refine ⟨channel, wireMsg, ?_, f, hdecode⟩
        rw [arrivals, List.filterMap_append, on_append]
        apply List.mem_append_left
        apply (hrelay channel).mem_arrived
        show wireMsg ∈ s.pending channel
        rw [hpending]
        exact List.mem_cons_self

theorem run_justified (hzmq : NoZmqError decode)
    (events : List DefaultEvent) : Justified decode events (run decode events) := by
  apply run_induction (P := Justified decode)
  · exact ⟨nofun, nofun, nofun⟩
  · intro events event ih
    cases event with
    | arrive channel wireMsg =>
        apply ih.extend
        · exact requestStop_setPending _ _ _
        · exact status_setPending _ _ _
    | stop =>
        have hmem : DefaultEvent.stop ∈ events ++ [.stop] :=
          List.mem_concat_self
        have hsame : Justified decode (events ++ [.stop]) (run decode events) :=
          ih.extend rfl rfl
        exact ⟨fun _ => hmem, fun _ => hmem, hsame.failed⟩
    | pass pollError =>
        exact justified_passed (run_relay hzmq events) ih (pass_passed hzmq pollError _)

def waiting (s : DefaultServer) : Nat :=
  (s.pending .control).length + (s.pending .shell).length

theorem waiting_setPending {s : DefaultServer} {channel : Channel} {wireMsg : Multipart}
    {rest : List Multipart} (hpending : s.pending channel = wireMsg :: rest) :
    waiting s = waiting (s.setPending channel rest) + 1 := by
  unfold waiting
  rw [pending_setPending]
  cases channel <;> simp [hpending] <;> omega

/-- The loop is running, and everything that waits for it decodes. -/
structure Running (decode : Multipart → Result XMessage) (s : DefaultServer) : Prop where
  status : s.status = .checking ∨ s.status = .polling
  requestStop : s.requestStop = false
  decodes : ∀ channel, ∀ wireMsg ∈ s.pending channel, ∃ msg, decode wireMsg = .ok msg

/-- Two steps for each message that waits, but one if the loop test is behind. -/
def work (s : DefaultServer) : Nat :=
  2 * waiting s + if s.status = .checking then 1 else 0

theorem running_checking {s : DefaultServer} (h : Running decode s)
    (hstatus : s.status = .checking) :
    Running decode (s.pass decode none) ∧ work (s.pass decode none) < work s := by
  have hpass : s.pass decode none = { s with status := .polling } := by
    unfold DefaultServer.pass
    rw [hstatus, h.requestStop]
    rfl
  rw [hpass]
  refine ⟨⟨Or.inr rfl, h.requestStop, h.decodes⟩, ?_⟩
  simp [work, hstatus, waiting, DefaultServer.pending]

theorem running_polling (hzmq : NoZmqError decode)
    {s : DefaultServer} (h : Running decode s) (hstatus : s.status = .polling)
    (hwaits : ¬ ∀ channel, s.pending channel = []) :
    Running decode (s.pass decode none) ∧ work (s.pass decode none) < work s := by
  have hpassed := pass_passed hzmq none s
  generalize s.pass decode none = s' at hpassed
  cases hpassed with
  | idle status hfailed hleft hended hempty =>
      exact absurd (hempty hstatus rfl h.requestStop) hwaits
  | dispatched channel wireMsg rest msg _ hpending hdecode =>
      refine ⟨⟨Or.inl rfl, ?_, ?_⟩, ?_⟩
      · exact (requestStop_setPending s channel rest).trans h.requestStop
      · intro other wireMsg' hmem
        change wireMsg' ∈ (s.setPending channel rest).pending other at hmem
        rw [pending_setPending] at hmem
        by_cases hother : other = channel
        · subst hother
          rw [Function.update_self] at hmem
          exact h.decodes other wireMsg' (hpending ▸ List.mem_cons_of_mem _ hmem)
        · rw [Function.update_of_ne hother] at hmem
          exact h.decodes other wireMsg' hmem
      · have hwaiting := waiting_setPending hpending
        show 2 * waiting (s.setPending channel rest) + 1 < work s
        simp only [work, hwaiting]
        omega
  | failed channel wireMsg rest f _ hpending hdecode =>
      obtain ⟨msg, hmsg⟩ := h.decodes channel wireMsg (hpending ▸ List.mem_cons_self)
      exact absurd (hmsg.symm.trans hdecode) nofun

theorem drains (hzmq : NoZmqError decode)
    {s : DefaultServer} (h : Running decode s) :
    ∃ n, ∀ channel,
      (Runs.run (DefaultServer.step decode) s (List.replicate n (.pass none))).pending channel =
        [] := by
  have hprogress (s : DefaultServer) (hs : Running decode s)
      (hwaits : ¬ ∀ channel, s.pending channel = []) :
      Running decode (s.pass decode none) ∧ work (s.pass decode none) < work s := by
    rcases hs.status with hstatus | hstatus
    · exact running_checking hs hstatus
    · exact running_polling hzmq hs hstatus hwaits
  obtain ⟨n, -, hn⟩ := run_replicate_reaches (DefaultServer.step decode) (.pass none)
    (Running decode) (fun s => ∀ channel, s.pending channel = []) work hprogress h
  exact ⟨n, hn⟩

/-- The loop passes every well-formed message on, once and in order, and runs
until it is asked to stop. -/
structure Serves (decode : Multipart → Result XMessage) (events : List DefaultEvent) :
    Prop where
  dispatches : (ports (run decode events)).Relay (decoded decode) (arrivals events)
  neverFails : ∀ f, (run decode events).status ≠ .failed f
  leaves : (run decode events).status = .left → .stop ∈ events
  reaches : .stop ∉ events → ∃ n, ∀ channel,
    (run decode (events ++ List.replicate n (.pass none))).pending channel = []

theorem serves (hzmq : NoZmqError decode)
    {events : List DefaultEvent} (hpoll : ∀ pollError, .pass pollError ∈ events → ¬ Fatal pollError)
    (hok : ∀ channel, ∀ wireMsg ∈ on channel (arrivals events), ∃ msg, decode wireMsg = .ok msg) :
    Serves decode events := by
  have hjustified := run_justified hzmq events
  have hrelay := run_relay hzmq events
  have hfailed : ∀ f, (run decode events).status ≠ .failed f := by
    intro f hf
    rcases hjustified.failed f hf with ⟨channel, wireMsg, hmem, f', hdecode⟩ |
      ⟨pollError, hmem, hfatal⟩
    · obtain ⟨msg, hmsg⟩ := hok channel wireMsg hmem
      exact absurd (hmsg.symm.trans hdecode) nofun
    · exact hpoll pollError hmem hfatal
  refine ⟨hrelay, hfailed, hjustified.left, fun hstop => ?_⟩
  have hrunning : (run decode events).status = .checking ∨
      (run decode events).status = .polling := by
    cases hstatus : (run decode events).status with
    | checking => exact Or.inl rfl
    | polling => exact Or.inr rfl
    | left => exact absurd (hjustified.left hstatus) hstop
    | failed f => exact absurd hstatus (hfailed f)
  have hrequest : (run decode events).requestStop = false := by
    rw [← Bool.not_eq_true]
    exact fun hrequest => hstop (hjustified.requestStop hrequest)
  obtain ⟨n, hn⟩ := drains hzmq ⟨hrunning, hrequest, fun channel wireMsg hmem =>
    hok channel wireMsg ((hrelay channel).mem_arrived hmem)⟩
  refine ⟨n, fun channel => ?_⟩
  rw [run, Runs.run_append]
  exact hn channel

end XeusZmq.DefaultDispatch
