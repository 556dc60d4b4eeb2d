import XeusZmq.ServerLoops
import XeusZmq.IopubClient

/-!
The calls of `wait_for_message` by a user of the client: what becomes of the messages
on the shell and control sockets, and of those that the iopub thread has queued.
-/

namespace XeusZmq.ClientDispatch

open XeusZmq.Values
open XeusZmq.Authentication
open XeusZmq.Serializer
open XeusZmq.WireRoundTrip
open XeusZmq.ServerLoops
open XeusZmq.FifoPort
open XeusZmq.Runs
open XeusZmq.IopubClient

/-- Where the user stands: outside the client, after a return or an exception, or in
`poll`, where an undefined step may have been taken. -/
inductive CallerStatus
  | idle
  | threw (e : Exception)
  | polling
  | undefined (u : Undefined)
  deriving DecidableEq, Repr

/-- The client with the messages that wait on its shell and control sockets, and
the calls made of its listeners. -/
structure XclientZmqImpl where
  iopubClient : XiopubClient
  shell : List Multipart
  control : List Multipart
  calls : List (Channel × XMessage)
  iopubCalls : List Slot
  status : CallerStatus

/-- The step `pass` is one iteration of the loop of `poll`; the flags tell which of the
two sockets `zmq::poll` reports as readable. The iopub thread, and other users that
pop messages, take the steps of `xiopub_client`. -/
inductive DispatchEvent
  | arrive (channel : Channel) (wireMsg : Multipart)
  | iopub (event : IopubClient.Event)
  | waitForMessage
  | pass (pollError : Option Nat) (shell control : Bool)

namespace XclientZmqImpl

def initial : XclientZmqImpl :=
  ⟨.initial, [], [], [], [], .idle⟩

def pending (self : XclientZmqImpl) : Channel → List Multipart
  | .shell => self.shell
  | .control => self.control

def setPending (self : XclientZmqImpl) : Channel → List Multipart → XclientZmqImpl
  | .shell, shell => { self with shell }
  | .control, control => { self with control }

def notifyListener (self : XclientZmqImpl) (channel : Channel) (msg : XMessage) :
    XclientZmqImpl :=
  { self with calls := self.calls ++ [(channel, msg)] }

def waitForMessage (self : XclientZmqImpl) : XclientZmqImpl :=
  let (pendingMessage, iopubClient) := self.iopubClient.popIopubMessage
  let returned := iopubClient.returned ++ pendingMessage.toList
  let self := { self with iopubClient := { iopubClient with returned } }
  match pendingMessage with
  | some msg => { self with iopubCalls := self.iopubCalls ++ [msg], status := .idle }
  | none => { self with status := .polling }

/-- A message is received on the channel, into a multipart message that `recv` clears.
An exception of the decoder is caught and the loop goes on. -/
def serve (decode : Multipart → Result XMessage) (channel : Channel) (wireMsg : Multipart)
    (rest : List Multipart) (self : XclientZmqImpl) : XclientZmqImpl :=
  let self := self.setPending channel rest
  match decode wireMsg with
  | .ok msg => { self.notifyListener channel msg with status := .idle }
  | .error (.exception _) => self
  | .error (.undefined u) => { self with status := .undefined u }

def pass (decode : Multipart → Result XMessage) (pollError : Option Nat)
    (shell control : Bool) (self : XclientZmqImpl) : XclientZmqImpl :=
  match pollError, shell, self.shell with
  | some num, _, _ => { self with status := .threw (.zmqError num) }
  | none, true, wireMsg :: rest => self.serve decode .shell wireMsg rest
  | none, _, _ =>
      match control, self.control with
      | true, wireMsg :: rest => self.serve decode .control wireMsg rest
      | _, _ => self

def step (decode : Multipart → Result XMessage)
    (decodeIopub : Multipart → Result XPubMessage) (self : XclientZmqImpl) :
    DispatchEvent → XclientZmqImpl
  | .arrive channel wireMsg =>
      self.setPending channel (self.pending channel ++ [wireMsg])
  | .iopub event => { self with iopubClient := self.iopubClient.step decodeIopub event }
  | .waitForMessage =>
      match self.status with
      | .idle => self.waitForMessage
      | .threw _ => self.waitForMessage
      | _ => self
  | .pass pollError shell control =>
      match self.status with
      | .polling => self.pass decode pollError shell control
      | _ => self

end XclientZmqImpl

section Dispatch

variable {decode : Multipart → Result XMessage} {decodeIopub : Multipart → Result XPubMessage}

def run (decode : Multipart → Result XMessage) (decodeIopub : Multipart → Result XPubMessage) :
    List DispatchEvent → XclientZmqImpl :=
  Runs.run (XclientZmqImpl.step decode decodeIopub) .initial

def arrival : DispatchEvent → Option (Channel × Multipart)
  | .arrive channel wireMsg => some (channel, wireMsg)
  | _ => none

def arrivals (events : List DispatchEvent) : List (Channel × Multipart) :=
  events.filterMap arrival

def ports (s : XclientZmqImpl) : Ports Channel Multipart XMessage :=
  ⟨s.pending, s.calls⟩

/-- What one iteration of `poll` can do. -/
inductive Passed (decode : Multipart → Result XMessage) (s : XclientZmqImpl) :
    XclientZmqImpl → Prop
  | idle : Passed decode s s
  | threw (e : Exception) : Passed decode s { s with status := .threw e }
  | delivered (channel : Channel) (wireMsg : Multipart) (rest : List Multipart) (msg : XMessage)
      (hpending : s.pending channel = wireMsg :: rest) (hdecode : decode wireMsg = .ok msg) :
      Passed decode s
        { (s.setPending channel rest).notifyListener channel msg with status := .idle }
  | dropped (channel : Channel) (wireMsg : Multipart) (rest : List Multipart) (e : Exception)
      (hpending : s.pending channel = wireMsg :: rest)
      (hdecode : decode wireMsg = .error (.exception e)) :
      Passed decode s (s.setPending channel rest)
  | undefined (channel : Channel) (wireMsg : Multipart) (rest : List Multipart) (u : Undefined)
      (hpending : s.pending channel = wireMsg :: rest)
      (hdecode : decode wireMsg = .error (.undefined u)) :
      Passed decode s { s.setPending channel rest with status := .undefined u }

theorem serve_passed {s : XclientZmqImpl} {channel : Channel} {wireMsg : Multipart}
    {rest : List Multipart} (hpending : s.pending channel = wireMsg :: rest) :
    Passed decode s (s.serve decode channel wireMsg rest) := by
  unfold XclientZmqImpl.serve
  split
  · rename_i msg hdecode
    exact .delivered channel wireMsg rest msg hpending hdecode
  · rename_i e hdecode
    exact .dropped channel wireMsg rest e hpending hdecode
  · rename_i u hdecode
    exact .undefined channel wireMsg rest u hpending hdecode

theorem pass_passed (decode : Multipart → Result XMessage) (pollError : Option Nat)
    (shell control : Bool) (s : XclientZmqImpl) :
    Passed decode s (s.pass decode pollError shell control) := by
  unfold XclientZmqImpl.pass
  split
  · exact .threw _
  · rename_i hshell
    exact serve_passed hshell
  · split
    · rename_i hcontrol
      exact serve_passed hcontrol
    · exact .idle

theorem pending_setPending (s : XclientZmqImpl) (channel : Channel) (wireMsgs : List Multipart) :
    (s.setPending channel wireMsgs).pending = Function.update s.pending channel wireMsgs := by
  funext other
  cases channel <;> cases other <;> rfl

@[simp] theorem setPending_calls (s : XclientZmqImpl) (channel : Channel)
    (wireMsgs : List Multipart) : (s.setPending channel wireMsgs).calls = s.calls := by
  cases channel <;> rfl

@[simp] theorem setPending_status (s : XclientZmqImpl) (channel : Channel)
    (wireMsgs : List Multipart) : (s.setPending channel wireMsgs).status = s.status := by
  cases channel <;> rfl

@[simp] theorem setPending_iopubClient (s : XclientZmqImpl) (channel : Channel)
    (wireMsgs : List Multipart) :
    (s.setPending channel wireMsgs).iopubClient = s.iopubClient := by
  cases channel <;> rfl

/-! The shell and control sockets. -/

theorem taken_ports {s s' : XclientZmqImpl} {channel : Channel} {wireMsg : Multipart}
    {rest : List Multipart} (hpending : s.pending channel = wireMsg :: rest)
    (hs' : s'.pending = (s.setPending channel rest).pending)
    (hcalls : s'.calls = s.calls ++ (decoded decode wireMsg).toList.map (channel, ·)) :
    Ports.Step (decoded decode) (ports s) none (ports s') := by
  rw [ports, ports, hs', hcalls, pending_setPending]
  exact .take channel wireMsg rest hpending

theorem passed_ports {s s' : XclientZmqImpl} (h : Passed decode s s') :
    Ports.Step (decoded decode) (ports s) none (ports s') := by
  cases h with
  | idle => exact .idle
  | threw e => exact .idle
  | delivered channel wireMsg rest msg hpending hdecode =>
      apply taken_ports hpending
      · funext other
        cases channel <;> cases other <;> rfl
      · simp [XclientZmqImpl.notifyListener, decoded_of_ok hdecode]
  | dropped channel wireMsg rest e hpending hdecode =>
      apply taken_ports hpending
      · rfl
      · simp [decoded_of_error hdecode]
  | undefined channel wireMsg rest u hpending hdecode =>
      apply taken_ports hpending
      · funext other
        cases channel <;> cases other <;> rfl
      · simp [decoded_of_error hdecode]

theorem waitForMessage_ports (s : XclientZmqImpl) : ports s.waitForMessage = ports s := by
  unfold XclientZmqImpl.waitForMessage
  simp only
  split <;> rfl

theorem step_ports (s : XclientZmqImpl) (event : DispatchEvent) :
    Ports.Step (decoded decode) (ports s) (arrival event)
      (ports (s.step decode decodeIopub event)) := by
  cases event with
  | arrive channel wireMsg =>
      have hports : ports (s.step decode decodeIopub (.arrive channel wireMsg)) =
          ⟨Function.update s.pending channel (s.pending channel ++ [wireMsg]), s.calls⟩ := by
        rw [XclientZmqImpl.step, ports, pending_setPending, setPending_calls]
      rw [hports]
      exact .arrive channel wireMsg
  | iopub event => exact .idle
  | waitForMessage =>
      simp only [XclientZmqImpl.step]
      split
      · rw [waitForMessage_ports]
        exact .idle
      · rw [waitForMessage_ports]
        exact .idle
      · exact .idle
  | pass pollError shell control =>
      simp only [XclientZmqImpl.step]
      split
      · exact passed_ports (pass_passed decode pollError shell control s)
      · exact .idle

theorem run_relay (decode : Multipart → Result XMessage)
    (decodeIopub : Multipart → Result XPubMessage) (events : List DispatchEvent) :
    (ports (run decode decodeIopub events)).Relay (decoded decode) (arrivals events) := by
  apply run_induction (P := fun events s => (ports s).Relay (decoded decode) (arrivals events))
  · intro channel
    cases channel <;> exact .initial
  · intro events event ih
    rw [arrivals, filterMap_concat]
    exact (step_ports _ event).relay ih

/-- A call that begins after `before`, finds the iopub queue empty, and returns
with the last of the events `during` it. -/
structure Returns (decode : Multipart → Result XMessage)
    (decodeIopub : Multipart → Result XPubMessage) (before during : List DispatchEvent) :
    Prop where
  begins : (run decode decodeIopub before).status = .idle ∨
    ∃ e, (run decode decodeIopub before).status = .threw e
  finds : (run decode decodeIopub before).iopubClient.messageQueue = []
  waits : ∀ past rest, during = past ++ rest → rest ≠ [] →
    (run decode decodeIopub (before ++ .waitForMessage :: past)).status = .polling
  returns : (run decode decodeIopub (before ++ .waitForMessage :: during)).status = .idle

/-- One listener is called once, with what a message on its own channel decodes to. -/
def OneCall (decode : Multipart → Result XMessage) (arrived : List (Channel × Multipart))
    (calls calls' : List (Channel × XMessage)) : Prop :=
  ∃ channel wireMsg msg, wireMsg ∈ on channel arrived ∧ decode wireMsg = .ok msg ∧
    calls' = calls ++ [(channel, msg)]

/-- What is consumed from a socket and decodes is what its listener has been given. -/
structure LosesNothing (decode : Multipart → Result XMessage)
    (decodeIopub : Multipart → Result XPubMessage) (events : List DispatchEvent) : Prop where
  oneCall : ∀ before during, before ++ .waitForMessage :: during <+: events →
    Returns decode decodeIopub before during →
    OneCall decode (arrivals events) (run decode decodeIopub before).calls
      (run decode decodeIopub (before ++ .waitForMessage :: during)).calls
  relays : ∀ channel, Relays (decoded decode) (on channel (arrivals events))
    ((run decode decodeIopub events).pending channel)
    (on channel (run decode decodeIopub events).calls)

/-- A step taken while a call waits in `poll`. -/
theorem step_polling {s : XclientZmqImpl} (h : s.status = .polling) (event : DispatchEvent) :
    ((s.step decode decodeIopub event).status ≠ .idle ∧
        (s.step decode decodeIopub event).calls = s.calls) ∨
      ((s.step decode decodeIopub event).status = .idle ∧
        ∃ channel wireMsg msg, wireMsg ∈ s.pending channel ∧ decode wireMsg = .ok msg ∧
          (s.step decode decodeIopub event).calls = s.calls ++ [(channel, msg)]) := by
  have hne : s.status ≠ .idle := by
    rw [h]
    exact nofun
  cases event with
  | arrive channel wireMsg =>
      left
      simpa [XclientZmqImpl.step] using hne
  | iopub event => exact .inl ⟨hne, rfl⟩
  | waitForMessage =>
      left
      simp [XclientZmqImpl.step, h]
  | pass pollError shell control =>
      simp only [XclientZmqImpl.step, h]
      have hpassed := pass_passed decode pollError shell control s
      generalize s.pass decode pollError shell control = s' at hpassed
      cases hpassed with
      | idle => exact .inl ⟨hne, rfl⟩
      | threw e => exact .inl ⟨nofun, rfl⟩
      | delivered channel wireMsg rest msg hpending hdecode =>
          refine .inr ⟨rfl, channel, wireMsg, msg, ?_, hdecode, ?_⟩
          · rw [hpending]
            exact List.mem_cons_self
          · simp [XclientZmqImpl.notifyListener]
      | dropped channel wireMsg rest e hpending hdecode =>
          left
          simpa using hne
      | undefined channel wireMsg rest u hpending hdecode =>
          left
          simp

theorem step_waitForMessage {s : XclientZmqImpl}
    (hbegins : s.status = .idle ∨ ∃ e, s.status = .threw e)
    (hfinds : s.iopubClient.messageQueue = []) :
    (s.step decode decodeIopub .waitForMessage).status = .polling ∧
      (s.step decode decodeIopub .waitForMessage).calls = s.calls := by
  have hwait : s.waitForMessage.status = .polling ∧ s.waitForMessage.calls = s.calls := by
    simp [XclientZmqImpl.waitForMessage, XiopubClient.popIopubMessage, hfinds]
  rcases hbegins with hidle | ⟨e, hthrew⟩
  · simpa only [XclientZmqImpl.step, hidle] using hwait
  · simpa only [XclientZmqImpl.step, hthrew] using hwait

theorem run_during (before past : List DispatchEvent) (event : DispatchEvent) :
    run decode decodeIopub (before ++ .waitForMessage :: (past ++ [event])) =
      (run decode decodeIopub (before ++ .waitForMessage :: past)).step decode decodeIopub
        event := by
  rw [← List.cons_append, ← List.append_assoc]
  exact run_concat _ _ _ event

theorem Returns.entered {before during : List DispatchEvent}
    (h : Returns decode decodeIopub before during) :
    (run decode decodeIopub (before ++ [.waitForMessage])).status = .polling ∧
      (run decode decodeIopub (before ++ [.waitForMessage])).calls =
        (run decode decodeIopub before).calls := by
  rw [run, run_concat]
  exact step_waitForMessage h.begins h.finds

/-- As long as the call waits, no listener is called. -/
theorem Returns.calls_waiting {before during : List DispatchEvent}
    (h : Returns decode decodeIopub before during) {past rest : List DispatchEvent}
    (hduring : during = past ++ rest) (hrest : rest ≠ []) :
    (run decode decodeIopub (before ++ .waitForMessage :: past)).calls =
      (run decode decodeIopub before).calls := by
  induction past using List.reverseRecOn generalizing rest with
  | nil => exact h.entered.2
  | append_singleton past event ih =>
      have hpast : during = past ++ (event :: rest) := by
        rw [hduring, List.append_assoc, List.singleton_append]
      have hpolling := h.waits past (event :: rest) hpast (List.cons_ne_nil event rest)
      have hstill := h.waits (past ++ [event]) rest hduring hrest
      rw [← ih hpast (List.cons_ne_nil event rest)]
      rw [run_during] at hstill ⊢
      rcases step_polling hpolling event with ⟨-, hcalls⟩ | ⟨hidle, -⟩
      · exact hcalls
      · exact absurd (hidle.symm.trans hstill) nofun

theorem Returns.oneCall {before during : List DispatchEvent}
    (h : Returns decode decodeIopub before during) :
    OneCall decode (arrivals (before ++ .waitForMessage :: during))
      (run decode decodeIopub before).calls
      (run decode decodeIopub (before ++ .waitForMessage :: during)).calls := by
  rcases List.eq_nil_or_concat during with rfl | ⟨past, event, rfl⟩
  · exact absurd (h.entered.1.symm.trans h.returns) nofun
  · rw [List.concat_eq_append] at h ⊢
    have hone := List.cons_ne_nil event []
    have hreturns := h.returns
    rw [run_during] at hreturns ⊢
    rcases step_polling (h.waits past [event] rfl hone) event with
      ⟨hbusy, -⟩ | ⟨-, channel, wireMsg, msg, hpending, hdecode, hcalls⟩
    · exact absurd hreturns hbusy
    · refine ⟨channel, wireMsg, msg, ?_, hdecode, ?_⟩
      · have harrived := (run_relay decode decodeIopub (before ++ .waitForMessage :: past)
          channel).mem_arrived hpending
        rw [arrivals, ← List.cons_append, ← List.append_assoc, List.filterMap_append, on_append]
        exact List.mem_append_left _ harrived
      · rw [hcalls, h.calls_waiting rfl hone]

/-- Every call that returns has called one listener once, and in every run the two
listeners have been given what was consumed from their sockets and decodes, in order. -/
theorem losesNothing (decode : Multipart → Result XMessage)
    (decodeIopub : Multipart → Result XPubMessage) (events : List DispatchEvent) :
    LosesNothing decode decodeIopub events := by
  refine ⟨?_, run_relay decode decodeIopub events⟩
  rintro before during ⟨rest, rfl⟩ hreturns
  obtain ⟨channel, wireMsg, msg, harrived, hcall⟩ := hreturns.oneCall
  refine ⟨channel, wireMsg, msg, ?_, hcall⟩
  rw [arrivals, List.filterMap_append, on_append]
  exact List.mem_append_left _ harrived

/-- The call reads a message without a delimiter, and returns behind the next one. -/
theorem losesNothing_malformedFirst :
    let decode := deserialize emptyObjectLibrary noXAuthentication
    let decodeIopub := deserializeIopub emptyObjectLibrary noXAuthentication
    let before : List DispatchEvent := [.arrive .control [literal "x"]]
    let during : List DispatchEvent :=
      [.pass none true true, .arrive .shell (frames (literal "id")), .pass none true true]
    Returns decode decodeIopub before during ∧
      OneCall decode (arrivals (before ++ .waitForMessage :: during))
        (run decode decodeIopub before).calls
        (run decode decodeIopub (before ++ .waitForMessage :: during)).calls := by
  intro decode decodeIopub before during
  have hreturns : Returns decode decodeIopub before during := by
    refine ⟨.inl rfl, rfl, fun past rest hduring hrest => ?_, rfl⟩
    rcases past with _ | ⟨first, _ | ⟨second, _ | ⟨third, past⟩⟩⟩
    · rfl
    · obtain ⟨rfl, -⟩ := List.cons.inj hduring
      rfl
    · obtain ⟨hfirst, hduring⟩ := List.cons.inj hduring
      obtain ⟨rfl, -⟩ := List.cons.inj hduring
      subst hfirst
      rfl
    · have hlength := congrArg List.length hduring
      have hpos := List.length_pos_iff.mpr hrest
      simp only [during, List.length_append, List.length_cons, List.length_nil] at hlength
      omega
  exact ⟨hreturns,
    (losesNothing decode decodeIopub _).oneCall before during (List.prefix_refl _) hreturns⟩

/-! The queue of the iopub thread. -/

/-- The caller is blocked in `poll`, and a message of the iopub queue is not delivered. -/
def LostWakeUp (s : XclientZmqImpl) : Prop :=
  s.status = .polling ∧ s.shell = [] ∧ s.control = [] ∧ s.iopubClient.messageQueue ≠ []

def NeverLosesWakeUp (decode : Multipart → Result XMessage)
    (decodeIopub : Multipart → Result XPubMessage) (events : List DispatchEvent) : Prop :=
  ∀ past, past <+: events → ¬ LostWakeUp (run decode decodeIopub past)

/-- The iopub thread receives a message that decodes, and pushes it. -/
def Pushes (decodeIopub : Multipart → Result XPubMessage) (s : XiopubClient)
    (event : IopubClient.Event) : Prop :=
  ∃ controller wireMsg rest msg, event = .pass none true controller ∧ s.status = .running ∧
    s.iopub = wireMsg :: rest ∧ decodeIopub wireMsg = .ok msg

/-- A message that ends the call waits on one of the sockets. -/
def Wakes (decode : Multipart → Result XMessage) (s : XclientZmqImpl) : Prop :=
  ∃ channel wireMsg msg, wireMsg ∈ s.pending channel ∧ decode wireMsg = .ok msg

def PushesWhileAwake (decode : Multipart → Result XMessage)
    (decodeIopub : Multipart → Result XPubMessage) (s : XclientZmqImpl)
    (event : DispatchEvent) : Prop :=
  ∀ iopubEvent, event = .iopub iopubEvent → Pushes decodeIopub s.iopubClient iopubEvent →
    s.status = .polling → Wakes decode s

def Awake (decode : Multipart → Result XMessage) (s : XclientZmqImpl) : Prop :=
  s.status = .polling → s.iopubClient.messageQueue ≠ [] → Wakes decode s

theorem Awake.not_lostWakeUp {s : XclientZmqImpl} (h : Awake decode s) : ¬ LostWakeUp s := by
  rintro ⟨hpolling, hshell, hcontrol, hqueue⟩
  obtain ⟨channel, wireMsg, msg, hpending, -⟩ := h hpolling hqueue
  cases channel with
  | shell => exact absurd hpending (by simp [XclientZmqImpl.pending, hshell])
  | control => exact absurd hpending (by simp [XclientZmqImpl.pending, hcontrol])

theorem Wakes.mono {s s' : XclientZmqImpl} (h : Wakes decode s)
    (hpending : ∀ channel wireMsg, wireMsg ∈ s.pending channel → wireMsg ∈ s'.pending channel) :
    Wakes decode s' := by
  obtain ⟨channel, wireMsg, msg, hmem, hdecode⟩ := h
  exact ⟨channel, wireMsg, msg, hpending channel wireMsg hmem, hdecode⟩

theorem queue_pass (s : XiopubClient) (pollError : Option Nat) (iopub controller : Bool) :
    (s.pass decodeIopub pollError iopub controller).messageQueue = s.messageQueue ∨
      Pushes decodeIopub s (.pass pollError iopub controller) := by
  have hanswer {t : XiopubClient} :
      (if controller then t.answer else t).messageQueue = t.messageQueue := by
    split_ifs
    · unfold XiopubClient.answer
      split <;> rfl
    · rfl
  unfold XiopubClient.pass
  split
  · exact .inl rfl
  · rename_i hstatus
    split
    · rename_i wireMsg rest hiopub
      simp only
      split
      · exact .inl rfl
      · exact .inl rfl
      · rename_i msg hdecode
        exact .inr ⟨controller, wireMsg, rest, msg, rfl, hstatus, hiopub, hdecode⟩
    · exact .inl hanswer
  · exact .inl rfl

theorem queue_iopub {s : XiopubClient} {event : IopubClient.Event}
    (h : ¬ Pushes decodeIopub s event)
    (hqueue : (s.step decodeIopub event).messageQueue ≠ []) : s.messageQueue ≠ [] := by
  cases event with
  | arrive wireMsg => exact hqueue
  | requestStop stopMsg => exact hqueue
  | pass pollError iopub controller =>
      rcases queue_pass s pollError iopub controller with hsame | hpushes
      · rwa [XiopubClient.step, hsame] at hqueue
      · exact absurd hpushes h
  | pop =>
      rintro hempty
      simp [XiopubClient.step, XiopubClient.popIopubMessage, hempty] at hqueue

theorem awake_passed {s s' : XclientZmqImpl} (h : Awake decode s) (hpolling : s.status = .polling)
    (hpassed : Passed decode s s') : Awake decode s' := by
  cases hpassed with
  | idle => exact h
  | threw e => exact nofun
  | delivered channel wireMsg rest msg hpending hdecode => exact nofun
  | dropped channel wireMsg rest e hpending hdecode =>
      intro _ hqueue
      rw [setPending_iopubClient] at hqueue
      obtain ⟨other, wireMsg', msg, hmem, hdecode'⟩ := h hpolling hqueue
      refine ⟨other, wireMsg', msg, ?_, hdecode'⟩
      rw [pending_setPending]
      by_cases hother : other = channel
      · subst hother
        rw [hpending] at hmem
        rcases List.mem_cons.mp hmem with rfl | hmem
        · exact absurd (hdecode.symm.trans hdecode') nofun
        · simpa using hmem
      · rwa [Function.update_of_ne hother]
  | undefined channel wireMsg rest u hpending hdecode => exact nofun

theorem awake_waitForMessage (s : XclientZmqImpl) : Awake decode s.waitForMessage := by
  intro hpolling hqueue
  cases hlast : s.iopubClient.messageQueue.getLast? with
  | none =>
      have hempty := List.getLast?_eq_none_iff.mp hlast
      simp [XclientZmqImpl.waitForMessage, XiopubClient.popIopubMessage, hempty] at hqueue
  | some msg =>
      simp [XclientZmqImpl.waitForMessage, XiopubClient.popIopubMessage, hlast] at hpolling

theorem awake_step {s : XclientZmqImpl} (h : Awake decode s) {event : DispatchEvent}
    (hpush : PushesWhileAwake decode decodeIopub s event) :
    Awake decode (s.step decode decodeIopub event) := by
  cases event with
  | arrive channel wireMsg =>
      intro hpolling hqueue
      simp only [XclientZmqImpl.step, setPending_status, setPending_iopubClient] at hpolling hqueue
      refine (h hpolling hqueue).mono ?_
      intro other wireMsg' hmem
      rw [XclientZmqImpl.step, pending_setPending]
      by_cases hother : other = channel
      · subst hother
        simp [hmem]
      · rwa [Function.update_of_ne hother]
  | iopub event =>
      intro hpolling hqueue
      by_cases hpushes : Pushes decodeIopub s.iopubClient event
      · exact (hpush event rfl hpushes hpolling).mono fun _ _ => id
      · exact (h hpolling (queue_iopub hpushes hqueue)).mono fun _ _ => id
  | waitForMessage =>
      simp only [XclientZmqImpl.step]
      split
      · exact awake_waitForMessage s
      · exact awake_waitForMessage s
      · exact h
  | pass pollError shell control =>
      simp only [XclientZmqImpl.step]
      split
      · rename_i hpolling
        exact awake_passed h hpolling (pass_passed decode pollError shell control s)
      · exact h

/-- No wake-up is lost as long as the iopub thread pushes nothing while a call waits in
`poll`, unless a message that ends the call is already there. -/
theorem neverLosesWakeUp_of_pushesWhileAwake (decode : Multipart → Result XMessage)
    (decodeIopub : Multipart → Result XPubMessage) (events : List DispatchEvent)
    (h : Guarded (XclientZmqImpl.step decode decodeIopub) (PushesWhileAwake decode decodeIopub)
      .initial events) :
    NeverLosesWakeUp decode decodeIopub events := by
  rintro past ⟨rest, rfl⟩
  apply Awake.not_lostWakeUp
  apply run_induction_guarded (P := fun _ s => Awake decode s) ?_ ?_ past h.front
  · exact nofun
  · intro past event hawake hpush
    exact awake_step hawake hpush

end Dispatch

theorem neverLosesWakeUp_replyWaits :
    NeverLosesWakeUp (deserialize emptyObjectLibrary noXAuthentication)
      (deserializeIopub emptyObjectLibrary noXAuthentication)
      [.waitForMessage, .arrive .shell (frames (literal "id")),
        .iopub (.arrive (frames (literal "a"))), .iopub (.pass none true false),
        .pass none true false, .waitForMessage] := by
  apply neverLosesWakeUp_of_pushesWhileAwake
  simp only [guarded_cons, guarded_nil, and_true]
  refine ⟨by rintro _ ⟨⟩, by rintro _ ⟨⟩, ?_, ?_, by rintro _ ⟨⟩, by rintro _ ⟨⟩⟩
  · rintro _ ⟨⟩ ⟨_, _, _, _, hpass, -⟩ -
    cases hpass
  · rintro _ - - -
    exact ⟨.shell, frames (literal "id"), _, List.mem_cons_self, rfl⟩

/-- The message comes between the look at the queue and the call of `zmq::poll`. -/
theorem not_neverLosesWakeUp :
    ¬ NeverLosesWakeUp (deserialize emptyObjectLibrary noXAuthentication)
      (deserializeIopub emptyObjectLibrary noXAuthentication)
      [.waitForMessage, .iopub (.arrive (frames (literal "a"))),
        .iopub (.pass none true false)] := by
  intro h
  exact h _ (List.prefix_refl _) ⟨rfl, rfl, rfl, List.cons_ne_nil _ _⟩

end XeusZmq.ClientDispatch
