import XeusZmq.DefaultShutdown
import XeusZmq.ShellMessenger

/-!
The split server from the start of its threads to the return of `start_impl`. The control
thread leaves its loop on request and then stops the shell thread, the publisher and the
heartbeat thread. Either of the first two is the main thread.
-/

namespace XeusZmq.SplitShutdown

open XeusZmq.Values
open XeusZmq.Authentication
open XeusZmq.Serializer
open XeusZmq.ServerLoops
open XeusZmq.SplitDispatch
open XeusZmq.ShellMessenger
open XeusZmq.Runs (run_append run_induction)
open XeusZmq.Baton
open XeusZmq.StopChain
open XeusZmq.ServerShutdown
open XeusZmq.DefaultShutdown (kernelConfig)
open XeusZmq.ControlPriority (emptyRequest)
open XeusZmq.WireRoundTrip (emptyObjectLibrary)

/-- What the server is made with. The word that stops the shell thread is no JSON text. -/
structure Kernel where
  json : JsonLibrary
  auth : XAuthentication
  errorHandler : ErrorHandler
  internalListener : InternalListener
  publisher : Publisher.Config
  refusesStop : ∀ value, json.parse (literal "stop") ≠ .ok value

structure XserverZmqSplit where
  messenger : XzmqMessenger
  listeners : Listeners

/-- The control thread takes the steps `controlPass`, those of a call of `send_to_shell`
made by a listener, and those of `stop_channels`. -/
inductive Event
  | arrive (channel : Channel) (wireMsg : Multipart)
  | stop
  | controlPass
  | sendToShell (message : Json)
  | stopShell
  | receiveReply
  | shellPass (pollError : Option Nat)
  | listeners (event : ListenerEvent)

namespace XserverZmqSplit

/-- Each of the two threads publishes on a pipe of its own. -/
def pipe : Channel → Nat
  | .shell => 0
  | .control => 1

/-- The stop message is sent to the shell thread first. -/
def initial (kernel : Kernel) (main : Channel) (startMsg : Multipart) : XserverZmqSplit :=
  ⟨.initial, .initial kernel.publisher (pipe main) startMsg []⟩

def withServer (server : SplitServer) (self : XserverZmqSplit) : XserverZmqSplit :=
  { self with messenger := { self.messenger with server } }

def controlPass (kernel : Kernel) (self : XserverZmqSplit) : XserverZmqSplit :=
  match self.messenger.caller with
  | .idle =>
      self.withServer (self.messenger.server.controlPass (deserialize kernel.json kernel.auth))
  | _ => self

/-- The thread calls a listener between two tests of its loop. -/
def sendToShell (kernel : Kernel) (message : Json) (self : XserverZmqSplit) :
    XserverZmqSplit :=
  match self.messenger.server.controlStatus with
  | .checking => { self with messenger := self.messenger.sendToShell kernel.json message }
  | _ => self

/-- The beginning of `stop_channels`, behind the loop. -/
def stopShell (self : XserverZmqSplit) : XserverZmqSplit :=
  match self.messenger.server.controlStatus with
  | .left => { self with messenger := self.messenger.stopChannels }
  | _ => self

/-- The rest of it. -/
def stopChannels (kernel : Kernel) (self : XserverZmqSplit) : XserverZmqSplit :=
  match self.messenger.caller with
  | .stopped => { self with listeners := self.listeners.stopChannels kernel.publisher }
  | _ => self

def step (kernel : Kernel) (self : XserverZmqSplit) : Event → XserverZmqSplit
  | .arrive channel wireMsg => self.withServer (self.messenger.server.arrive channel wireMsg)
  | .stop => self.withServer { self.messenger.server with requestStop := true }
  | .controlPass => self.controlPass kernel
  | .sendToShell message => self.sendToShell kernel message
  | .stopShell => self.stopShell
  | .receiveReply => { self with messenger := self.messenger.receiveReply kernel.json }
  | .shellPass pollError =>
      { self with
        messenger := self.messenger.shellPass kernel.json kernel.auth kernel.errorHandler
          kernel.internalListener pollError }
  | .listeners .stopChannels => self.stopChannels kernel
  | .listeners event => { self with listeners := self.listeners.step kernel.publisher event }

/-- `start_impl` returns when the main thread has left its loop and, if that is the control
thread, has stopped the others. -/
def returned (self : XserverZmqSplit) : Channel → Prop
  | .shell => self.messenger.server.shellStatus = .left
  | .control => self.listeners.stopper = .heartbeatReplied

end XserverZmqSplit

section Shutdown

variable {kernel : Kernel} {main : Channel} {startMsg : Multipart}

def run (kernel : Kernel) (main : Channel) (startMsg : Multipart) : List Event → XserverZmqSplit :=
  Runs.run (XserverZmqSplit.step kernel) (.initial kernel main startMsg)

/-- What is promised of the surroundings: no message has undefined behaviour, each welcome
can be serialized, `zmq::poll` fails by interruption only (in the shell thread also by
`ETERM`), and what is sent to the shell thread and back survives it. -/
def Event.Harmless (kernel : Kernel) : Event → Prop
  | .arrive _ wireMsg => ¬ Harmful (deserialize kernel.json kernel.auth) wireMsg
  | .sendToShell message =>
      RoundTrips kernel.json .strict message ∧
        ∀ calls, RoundTrips kernel.json kernel.errorHandler (kernel.internalListener calls message)
  | .shellPass pollError => ¬ Fatal pollError
  | .listeners event => event.Harmless kernel.publisher
  | _ => True

/-! The control thread and the shell thread. -/

theorem lockstep_withServer {json : JsonLibrary} {auth : XAuthentication}
    {errorHandler : ErrorHandler} {listener : InternalListener} {s : XzmqMessenger}
    (h : Lockstep json auth errorHandler listener s) {server : SplitServer}
    (hstatus : server.shellStatus = s.server.shellStatus)
    (hcontroller : server.shellController = s.server.shellController)
    (hreplies : server.replies = s.server.replies)
    (hharmless : ∀ wireMsg ∈ server.shell, ¬ Harmful (deserialize json auth) wireMsg) :
    Lockstep json auth errorHandler listener { s with server } := by
  refine ⟨?_, hharmless, ?_⟩
  · cases h.phase with
    | idle hcaller hpolling hnone hlength hlistened hreturned =>
        exact .idle hcaller (hstatus.trans hpolling) (hcontroller.trans hnone)
          ((congrArg List.length hreplies).trans hlength) hlistened hreturned
    | requested messages message text hcaller hpolling hone hstop hparse hlistener hlength hasked
        hlistened hreturned =>
        exact .requested messages message text hcaller (hstatus.trans hpolling)
          (hcontroller.trans hone) hstop hparse hlistener
          ((congrArg List.length hreplies).trans hlength) hasked hlistened hreturned
    | replied messages message front reply hcaller hpolling hnone hparse hlast hreceived hasked
        hlistened hreturned =>
        exact .replied messages message front reply hcaller (hstatus.trans hpolling)
          (hcontroller.trans hnone) hparse (hreplies.trans hlast) hreceived hasked hlistened
          hreturned
    | stopping hcaller hpolling hone hlength hlistened hreturned =>
        exact .stopping hcaller (hstatus.trans hpolling) (hcontroller.trans hone)
          ((congrArg List.length hreplies).trans hlength) hlistened hreturned
    | left hcaller hleft hnone hlistened hreturned =>
        exact .left hcaller (hstatus.trans hleft) (hcontroller.trans hnone) hlistened hreturned
  · rw [hreplies, hcontroller]
    exact h.counted

theorem controlPass_frame (decode : Multipart → Result XMessage) (s : SplitServer) :
    (s.controlPass decode).shell = s.shell ∧
      (s.controlPass decode).shellStatus = s.shellStatus ∧
      (s.controlPass decode).shellController = s.shellController ∧
      (s.controlPass decode).replies = s.replies := by
  have hpassed := controlPass_passed decode s
  generalize s.controlPass decode = s' at hpassed
  cases hpassed with
  | idle | read | failed => exact ⟨rfl, rfl, rfl, rfl⟩

/-- What the shell thread leaves alone. -/
structure SameCaller (s s' : XzmqMessenger) : Prop where
  caller : s'.caller = s.caller
  received : s'.received = s.received
  requests : s'.requests = s.requests
  controlStatus : s'.server.controlStatus = s.server.controlStatus
  requestStop : s'.server.requestStop = s.server.requestStop

theorem readController_sameCaller (json : JsonLibrary) (errorHandler : ErrorHandler)
    (listener : InternalListener) (s : XzmqMessenger) :
    SameCaller s (s.readController json errorHandler listener) := by
  unfold XzmqMessenger.readController
  split
  · exact ⟨rfl, rfl, rfl, rfl, rfl⟩
  · simp only
    split_ifs
    · exact ⟨rfl, rfl, rfl, rfl, rfl⟩
    · unfold XzmqMessenger.notifyInternalListener
      split
      · exact ⟨rfl, rfl, rfl, rfl, rfl⟩
      · simp only
        split <;> exact ⟨rfl, rfl, rfl, rfl, rfl⟩

theorem shellPass_sameCaller (kernel : Kernel) (pollError : Option Nat) (s : XzmqMessenger) :
    SameCaller s (s.shellPass kernel.json kernel.auth kernel.errorHandler
      kernel.internalListener pollError) := by
  unfold XzmqMessenger.shellPass
  split
  · split
    · exact ⟨rfl, rfl, rfl, rfl, rfl⟩
    · exact ⟨rfl, rfl, rfl, rfl, rfl⟩
    · unfold SplitServer.readShell
      split
      · exact ⟨rfl, rfl, rfl, rfl, rfl⟩
      · simp only
        split <;> exact ⟨rfl, rfl, rfl, rfl, rfl⟩
    · exact readController_sameCaller _ _ _ s
  · exact ⟨rfl, rfl, rfl, rfl, rfl⟩

/-- The requests whose replies have not been received. -/
def unanswered : CallerStatus → Nat
  | .awaits | .stopping => 1
  | .idle | .stopped => 0

/-- The control thread stops the others one after the other, behind its loop. -/
structure Orderly (kernel : Kernel) (s : XserverZmqSplit) : Prop where
  lockstep : Lockstep kernel.json kernel.auth kernel.errorHandler kernel.internalListener
    s.messenger
  sent : s.messenger.requests.length =
    s.messenger.received + unanswered s.messenger.caller
  listeners : Inv kernel.publisher [] s.listeners
  serving : s.messenger.server.controlStatus ≠ .left →
    s.messenger.caller = .idle ∨ s.messenger.caller = .awaits
  begins : s.messenger.caller ≠ .stopped → s.listeners.stopper = .begins
  asked : s.messenger.server.controlStatus = .left → s.messenger.server.requestStop = true

theorem orderly_arrive {s : XserverZmqSplit} (h : Orderly kernel s) (channel : Channel)
    {wireMsg : Multipart}
    (hharmless : ¬ Harmful (deserialize kernel.json kernel.auth) wireMsg) :
    Orderly kernel (s.withServer (s.messenger.server.arrive channel wireMsg)) := by
  cases channel with
  | shell =>
      refine ⟨lockstep_withServer h.lockstep rfl rfl rfl ?_, h.sent, h.listeners, h.serving,
        h.begins, h.asked⟩
      intro other hmem
      rcases List.mem_append.mp hmem with hmem | hmem
      · exact h.lockstep.harmless other hmem
      · exact List.mem_singleton.mp hmem ▸ hharmless
  | control =>
      exact ⟨lockstep_withServer h.lockstep rfl rfl rfl h.lockstep.harmless, h.sent, h.listeners,
        h.serving, h.begins, h.asked⟩

theorem asked_controlPass (decode : Multipart → Result XMessage) {s : SplitServer}
    (h : s.controlStatus = .left → s.requestStop = true)
    (hleft : (s.controlPass decode).controlStatus = .left) :
    (s.controlPass decode).requestStop = true := by
  have hpassed := controlPass_passed decode s
  generalize s.controlPass decode = s' at hpassed hleft
  cases hpassed with
  | idle status hfailed hasked => exact (hasked hleft).elim h id
  | read | failed => cases hleft

theorem orderly_controlPass {s : XserverZmqSplit} (h : Orderly kernel s) :
    Orderly kernel (s.controlPass kernel) := by
  unfold XserverZmqSplit.controlPass
  split
  · rename_i hidle
    obtain ⟨hshell, hstatus, hcontroller, hreplies⟩ :=
      controlPass_frame (deserialize kernel.json kernel.auth) s.messenger.server
    refine ⟨lockstep_withServer h.lockstep hstatus hcontroller hreplies ?_, h.sent, h.listeners,
      fun _ => Or.inl hidle, h.begins, asked_controlPass _ h.asked⟩
    rw [hshell]
    exact h.lockstep.harmless
  · exact h

theorem orderly_sendToShell {s : XserverZmqSplit} (h : Orderly kernel s) {message : Json}
    (hmessage : RoundTrips kernel.json .strict message)
    (hlistener : ∀ calls,
      RoundTrips kernel.json kernel.errorHandler (kernel.internalListener calls message)) :
    Orderly kernel (s.sendToShell kernel message) := by
  unfold XserverZmqSplit.sendToShell
  split
  · rename_i hchecking
    have hserving := h.serving (by rw [hchecking]; rintro ⟨⟩)
    have hlockstep := lockstep_sendToShell h.lockstep kernel.refusesStop hmessage hlistener
    have hsent := h.sent
    obtain ⟨text, hdump, -⟩ := hmessage
    unfold XzmqMessenger.sendToShell at hlockstep ⊢
    rcases hserving with hidle | hawaits
    · simp only [hidle, hdump] at hlockstep ⊢
      refine ⟨hlockstep, ?_, h.listeners, fun _ => Or.inr rfl, fun _ => h.begins ?_, h.asked⟩
      · rw [hidle] at hsent
        simp [XzmqMessenger.request, hsent, unanswered]
      · rw [hidle]
        rintro ⟨⟩
    · simp only [hawaits]
      exact h
  · exact h

theorem orderly_stopShell {s : XserverZmqSplit} (h : Orderly kernel s) :
    Orderly kernel s.stopShell := by
  unfold XserverZmqSplit.stopShell
  split
  · rename_i hleft
    have hlockstep := lockstep_stopChannels h.lockstep
    have hsent := h.sent
    unfold XzmqMessenger.stopChannels at hlockstep ⊢
    cases hcaller : s.messenger.caller with
    | idle =>
        simp only [hcaller] at hlockstep ⊢
        refine ⟨hlockstep, ?_, h.listeners, fun hserving => absurd hleft hserving,
          fun _ => h.begins ?_, h.asked⟩
        · rw [hcaller] at hsent
          simp [XzmqMessenger.request, hsent, unanswered]
        · rw [hcaller]
          rintro ⟨⟩
    | awaits | stopping | stopped => exact h
  · exact h

theorem orderly_receiveReply {s : XserverZmqSplit} (h : Orderly kernel s) :
    Orderly kernel { s with messenger := s.messenger.receiveReply kernel.json } := by
  have hlockstep := lockstep_receiveReply h.lockstep
  have hsent := h.sent
  unfold XzmqMessenger.receiveReply at hlockstep ⊢
  split at hlockstep
  · rename_i hawaits hreply
    rw [hawaits] at hsent
    refine ⟨hlockstep, hsent, h.listeners, fun _ => Or.inl rfl, fun _ => h.begins ?_, h.asked⟩
    rw [hawaits]
    rintro ⟨⟩
  · rename_i hstopping hreply
    rw [hstopping] at hsent
    refine ⟨hlockstep, hsent, h.listeners, fun hserving => ?_, fun hnot => absurd rfl hnot,
      h.asked⟩
    rcases h.serving hserving with hidle | hawaits
    · cases hstopping.symm.trans hidle
    · cases hstopping.symm.trans hawaits
  · exact h

theorem orderly_shellPass {s : XserverZmqSplit} (h : Orderly kernel s) {pollError : Option Nat}
    (hpoll : ¬ Fatal pollError) :
    Orderly kernel { s with
      messenger := s.messenger.shellPass kernel.json kernel.auth kernel.errorHandler
        kernel.internalListener pollError } := by
  have hsame := shellPass_sameCaller kernel pollError s.messenger
  refine ⟨(lockstep_shellPass h.lockstep hpoll).1, ?_, h.listeners, fun hserving => ?_,
    fun hnot => ?_, fun hleft => ?_⟩
  · rw [hsame.requests, hsame.received, hsame.caller]
    exact h.sent
  · rw [hsame.controlStatus] at hserving
    rw [hsame.caller]
    exact h.serving hserving
  · rw [hsame.caller] at hnot
    exact h.begins hnot
  · rw [hsame.controlStatus] at hleft
    exact hsame.requestStop.trans (h.asked hleft)

theorem orderly_listeners {s : XserverZmqSplit} (h : Orderly kernel s) {event : ListenerEvent}
    (hharmless : event.Harmless kernel.publisher) :
    Orderly kernel (s.step kernel (.listeners event)) := by
  have hkeeps := (listener_passes kernel.publisher []).keeps s.listeners event h.listeners hharmless
  cases event with
  | stopChannels =>
      simp only [XserverZmqSplit.step, XserverZmqSplit.stopChannels]
      split
      · rename_i hstopped
        exact ⟨h.lockstep, h.sent, hkeeps, h.serving, fun hnot => absurd hstopped hnot, h.asked⟩
      · exact h
  | publish | peer | ping | publisherPass | heartbeatPass =>
      exact ⟨h.lockstep, h.sent, hkeeps, h.serving, h.begins, h.asked⟩

theorem orderly_step {s : XserverZmqSplit} (h : Orderly kernel s) {event : Event}
    (hharmless : event.Harmless kernel) : Orderly kernel (s.step kernel event) := by
  cases event with
  | arrive channel wireMsg => exact orderly_arrive h channel hharmless
  | stop =>
      exact ⟨lockstep_withServer h.lockstep rfl rfl rfl h.lockstep.harmless, h.sent, h.listeners,
        h.serving, h.begins, fun _ => rfl⟩
  | controlPass => exact orderly_controlPass h
  | sendToShell message => exact orderly_sendToShell h hharmless.1 hharmless.2
  | stopShell => exact orderly_stopShell h
  | receiveReply => exact orderly_receiveReply h
  | shellPass pollError => exact orderly_shellPass h hharmless
  | listeners event => exact orderly_listeners h hharmless

theorem run_orderly (events : List Event)
    (hharmless : ∀ event ∈ events, event.Harmless kernel) :
    Orderly kernel (run kernel main startMsg events) := by
  revert hharmless
  apply run_induction (P := fun (events : List Event) (s : XserverZmqSplit) =>
    (∀ event ∈ events, event.Harmless kernel) → Orderly kernel s)
  · intro _
    refine ⟨⟨.idle rfl rfl rfl rfl rfl rfl, fun _ hmem => ?_, rfl⟩, rfl,
      inv_initial kernel.publisher _ startMsg [], fun _ => Or.inl rfl, fun _ => rfl,
      fun hleft => by cases hleft⟩
    exact absurd hmem List.not_mem_nil
  · intro events event ih hharmless
    exact orderly_step (ih fun event' hmem => hharmless event' (List.mem_append_left _ hmem))
      (hharmless event List.mem_concat_self)

/-! What an iteration of the shell thread does to what waits for it. -/

/-- Nothing is added to the sockets of the shell thread. -/
theorem shellPass_waiting (kernel : Kernel) (pollError : Option Nat) (s : XzmqMessenger) :
    (s.shellPass kernel.json kernel.auth kernel.errorHandler kernel.internalListener
        pollError).server.shell.length ≤ s.server.shell.length ∧
      (s.server.shellController = [] →
        (s.shellPass kernel.json kernel.auth kernel.errorHandler kernel.internalListener
          pollError).server.shellController = []) := by
  unfold XzmqMessenger.shellPass
  split
  · split
    · exact ⟨Nat.le_refl _, id⟩
    · exact ⟨Nat.le_refl _, id⟩
    · unfold SplitServer.readShell
      split
      · exact ⟨Nat.le_refl _, id⟩
      · rename_i hshell
        simp only
        rw [hshell]
        split <;> exact ⟨Nat.le_succ _, id⟩
    · unfold XzmqMessenger.readController
      split
      · exact ⟨Nat.le_refl _, id⟩
      · rename_i hcontroller
        refine ⟨?_, fun hnone => absurd (hcontroller.symm.trans hnone) (List.cons_ne_nil _ _)⟩
        simp only
        split_ifs
        · exact Nat.le_refl _
        · unfold XzmqMessenger.notifyInternalListener
          split
          · exact Nat.le_refl _
          · simp only
            split <;> exact Nat.le_refl _
  · exact ⟨Nat.le_refl _, id⟩

/-- The stop message is read when no shell request waits before it. -/
theorem shellPass_stopping {s : XserverZmqSplit} (h : Orderly kernel s)
    (hstopping : s.messenger.caller = .stopping)
    (hcontroller : s.messenger.server.shellController ≠ []) :
    let s' := s.messenger.shellPass kernel.json kernel.auth kernel.errorHandler
      kernel.internalListener none
    (s.messenger.server.shell = [] → s'.server.shellController = []) ∧
      ∀ wireMsg rest, s.messenger.server.shell = wireMsg :: rest →
        s'.server.shellController = s.messenger.server.shellController ∧
          s'.server.shell = rest := by
  intro s'
  have hpolling : s.messenger.server.shellStatus = .polling ∧
      s.messenger.server.shellController = [literal "stop"] := by
    cases h.lockstep.phase with
    | stopping _ hstatus hone => exact ⟨hstatus, hone⟩
    | idle hcaller | requested _ _ _ hcaller | replied _ _ _ _ hcaller =>
        cases hstopping.symm.trans hcaller
    | left _ _ hnone => exact absurd hnone hcontroller
  have hs' : s' = s.messenger.shellPass kernel.json kernel.auth kernel.errorHandler
      kernel.internalListener none := rfl
  unfold XzmqMessenger.shellPass SplitServer.pollShellChannels at hs'
  rw [hpolling.1] at hs'
  refine ⟨fun hshell => ?_, fun wireMsg rest hshell => ?_⟩
  · simp only [hshell, hpolling.2] at hs'
    rw [hs']
    simp [XzmqMessenger.readController, hpolling.2, XzmqMessenger.sendController]
  · simp only [hshell] at hs'
    rw [hs', readShell_eq hshell (h.lockstep.harmless wireMsg (hshell ▸ List.mem_cons_self))]
    exact ⟨rfl, rfl⟩

theorem shellPass_interrupted (s : XzmqMessenger) {num : Nat} (hpoll : ¬ Fatal (some num)) :
    s.shellPass kernel.json kernel.auth kernel.errorHandler kernel.internalListener
      (some num) = s := by
  unfold XzmqMessenger.shellPass SplitServer.pollShellChannels
  have hnum : ¬ (num ≠ eintr ∧ num ≠ eterm) := fun hnum => hpoll ⟨num, rfl, hnum⟩
  split
  · simp only [catchZmqError, if_neg hnum]
  · rfl

/-! How far the control thread has come with stopping the others, given how many shell
requests may be read before the stop message. -/

def phase (bound : Nat) (s : XserverZmqSplit) : Nat :=
  match s.messenger.caller with
  | .idle => if s.messenger.server.controlStatus = .left then 1 else 0
  | .awaits => 0
  | .stopping =>
      if s.messenger.server.shellController = [] then bound + 3
      else bound - s.messenger.server.shell.length + 2
  | .stopped => bound + 4 + (chainOf s.listeners).phase

def turn (bound p : Nat) (event : Event) : Prop :=
  if p = 0 then event = .controlPass
  else if p = 1 then event = .stopShell
  else if p ≤ bound + 2 then event = .shellPass none
  else if p = bound + 3 then event = .receiveReply
  else
    ∃ listenerEvent, event = .listeners listenerEvent ∧
      ServerShutdown.turn (p - (bound + 4)) listenerEvent

theorem turn_controlPass {bound p : Nat} : turn bound p .controlPass ↔ p = 0 := by
  unfold turn
  split_ifs <;> simp_all

theorem turn_stopShell {bound p : Nat} : turn bound p .stopShell ↔ p = 1 := by
  unfold turn
  split_ifs <;> simp_all

theorem turn_shellPass {bound p : Nat} {pollError : Option Nat} :
    turn bound p (.shellPass pollError) ↔ 2 ≤ p ∧ p ≤ bound + 2 ∧ pollError = none := by
  unfold turn
  split_ifs <;> simp_all
  omega

theorem turn_receiveReply {bound p : Nat} : turn bound p .receiveReply ↔ p = bound + 3 := by
  unfold turn
  split_ifs <;> simp_all
  omega

theorem turn_listeners {bound p : Nat} {event : ListenerEvent} :
    turn bound p (.listeners event) ↔
      bound + 4 ≤ p ∧ ServerShutdown.turn (p - (bound + 4)) event := by
  unfold turn
  split_ifs <;> simp_all <;> omega

/-- The listener that has asked for it has returned, and no shell requests come. -/
def Quiet (kernel : Kernel) : Event → Prop
  | .arrive channel wireMsg =>
      channel = .control ∧ ¬ Harmful (deserialize kernel.json kernel.auth) wireMsg
  | .sendToShell _ => False
  | event => event.Harmless kernel

/-- The control thread leaves its loop, or has left it. -/
structure Stopping (kernel : Kernel) (bound : Nat) (s : XserverZmqSplit) : Prop where
  orderly : Orderly kernel s
  ends : s.messenger.server.controlStatus = .left ∨
    s.messenger.server.controlStatus = .checking ∧ s.messenger.server.requestStop = true
  calls : s.messenger.caller ≠ .awaits
  shell : s.messenger.server.shell.length ≤ bound

theorem Quiet.harmless {event : Event} (h : Quiet kernel event) : event.Harmless kernel := by
  cases event with
  | arrive channel wireMsg => exact h.2
  | sendToShell message => exact h.elim
  | stop | controlPass | stopShell | receiveReply | shellPass | listeners => exact h

theorem Stopping.idle_of_not_left {bound : Nat} {s : XserverZmqSplit}
    (h : Stopping kernel bound s) (hserving : s.messenger.server.controlStatus ≠ .left) :
    s.messenger.caller = .idle := by
  rcases h.orderly.serving hserving with hidle | hawaits
  · exact hidle
  · exact absurd hawaits h.calls

/-- A step of the whole keeps the order, takes nothing back, and in its turn leads on. -/
structure Advances (kernel : Kernel) (bound : Nat) (s : XserverZmqSplit) (event : Event) :
    Prop where
  keeps : Stopping kernel bound (s.step kernel event)
  mono : phase bound s ≤ phase bound (s.step kernel event)
  leads : phase bound s < bound + 10 → turn bound (phase bound s) event →
    phase bound s < phase bound (s.step kernel event)

theorem Advances.of_same {bound : Nat} {s : XserverZmqSplit} {event : Event}
    (hkeeps : Stopping kernel bound (s.step kernel event))
    (hsame : phase bound (s.step kernel event) = phase bound s)
    (hturn : ¬ turn bound (phase bound s) event) : Advances kernel bound s event :=
  ⟨hkeeps, Nat.le_of_eq hsame.symm, fun _ h => absurd h hturn⟩

theorem phase_idle_le {bound : Nat} {s : XserverZmqSplit} (hcaller : s.messenger.caller = .idle) :
    phase bound s ≤ 1 := by
  rw [phase, hcaller]
  simp only
  split_ifs
  · exact Nat.le_refl 1
  · exact Nat.zero_le 1

theorem phase_stopping {bound : Nat} {s : XserverZmqSplit}
    (hcaller : s.messenger.caller = .stopping) : phase bound s =
      if s.messenger.server.shellController = [] then bound + 3
      else bound - s.messenger.server.shell.length + 2 := by
  rw [phase, hcaller]

theorem phase_stopped {bound : Nat} {s : XserverZmqSplit}
    (hcaller : s.messenger.caller = .stopped) :
    phase bound s = bound + 4 + (chainOf s.listeners).phase := by
  rw [phase, hcaller]

theorem phase_stopping_bounds {bound : Nat} {s : XserverZmqSplit}
    (hcaller : s.messenger.caller = .stopping) : 2 ≤ phase bound s ∧ phase bound s ≤ bound + 3 := by
  rw [phase_stopping hcaller]
  split_ifs <;> omega

theorem two_le_phase {bound : Nat} {s : XserverZmqSplit} (hidle : s.messenger.caller ≠ .idle)
    (hawaits : s.messenger.caller ≠ .awaits) : 2 ≤ phase bound s := by
  cases hcaller : s.messenger.caller with
  | idle => exact absurd hcaller hidle
  | awaits => exact absurd hcaller hawaits
  | stopping => exact (phase_stopping_bounds hcaller).1
  | stopped =>
      rw [phase_stopped hcaller]
      omega

theorem advances_controlPass {bound : Nat} {s : XserverZmqSplit} (h : Stopping kernel bound s) :
    Advances kernel bound s .controlPass := by
  cases hcaller : s.messenger.caller with
  | idle =>
      have hstep : s.step kernel .controlPass = s.withServer
          (s.messenger.server.controlPass (deserialize kernel.json kernel.auth)) := by
        rw [XserverZmqSplit.step, XserverZmqSplit.controlPass, hcaller]
      have hleft : (s.messenger.server.controlPass
          (deserialize kernel.json kernel.auth)).controlStatus = .left := by
        unfold SplitServer.controlPass
        rcases h.ends with hleft | ⟨hchecking, hstop⟩
        · rw [hleft]
          exact hleft
        · rw [hchecking]
          exact if_pos hstop
      have hphase : phase bound (s.step kernel .controlPass) = 1 := by
        rw [hstep]
        simp [phase, XserverZmqSplit.withServer, hcaller, hleft]
      refine ⟨⟨orderly_controlPass h.orderly, Or.inl ?_, ?_, ?_⟩, ?_, fun _ hturn => ?_⟩
      · rw [hstep]
        exact hleft
      · rw [hstep]
        exact h.calls
      · rw [hstep]
        exact (congrArg List.length (controlPass_frame _ s.messenger.server).1).trans_le h.shell
      · rw [hphase]
        exact phase_idle_le hcaller
      · rw [hphase, turn_controlPass.mp hturn]
        exact Nat.one_pos
  | awaits => exact absurd hcaller h.calls
  | stopping | stopped =>
      have hstep : s.step kernel .controlPass = s := by
        rw [XserverZmqSplit.step, XserverZmqSplit.controlPass, hcaller]
      have hphase : 2 ≤ phase bound s := two_le_phase (by rw [hcaller]; rintro ⟨⟩) h.calls
      refine .of_same (hstep.symm ▸ h) (hstep.symm ▸ rfl) fun hturn => ?_
      rw [turn_controlPass.mp hturn] at hphase
      exact absurd hphase (by decide)

theorem advances_stopShell {bound : Nat} {s : XserverZmqSplit} (h : Stopping kernel bound s) :
    Advances kernel bound s .stopShell := by
  by_cases hleft : s.messenger.server.controlStatus = .left
  · have hstep : s.step kernel .stopShell =
        { s with messenger := s.messenger.stopChannels } := by
      rw [XserverZmqSplit.step, XserverZmqSplit.stopShell, hleft]
    cases hcaller : s.messenger.caller with
    | idle =>
        have hstopping : s.messenger.stopChannels =
            s.messenger.request (literal "stop") .stopping := by
          rw [XzmqMessenger.stopChannels, hcaller]
        rw [hstopping] at hstep
        have hphase : phase bound s = 1 := by
          simp [phase, hcaller, hleft]
        have hphase' : 2 ≤ phase bound (s.step kernel .stopShell) := by
          rw [hstep]
          exact (phase_stopping_bounds rfl).1
        refine ⟨⟨orderly_stopShell h.orderly, Or.inl ?_, ?_, ?_⟩, ?_, fun _ _ => ?_⟩
        · rw [hstep]
          exact hleft
        · rw [hstep]
          rintro ⟨⟩
        · rw [hstep]
          exact h.shell
        · omega
        · omega
    | awaits => exact absurd hcaller h.calls
    | stopping | stopped =>
        have hsame : s.step kernel .stopShell = s := by
          rw [hstep, XzmqMessenger.stopChannels, hcaller]
        have hphase : 2 ≤ phase bound s := two_le_phase (by rw [hcaller]; rintro ⟨⟩) h.calls
        refine .of_same (hsame.symm ▸ h) (hsame.symm ▸ rfl) fun hturn => ?_
        rw [turn_stopShell.mp hturn] at hphase
        exact absurd hphase (by decide)
  · have hsame : s.step kernel .stopShell = s := by
      rw [XserverZmqSplit.step, XserverZmqSplit.stopShell]
      split
      · exact absurd ‹_› hleft
      · rfl
    refine .of_same (hsame.symm ▸ h) (hsame.symm ▸ rfl) fun hturn => ?_
    have hphase := turn_stopShell.mp hturn
    simp [phase, h.idle_of_not_left hleft, hleft] at hphase

/-- The reply of the shell thread is there when its request has been read. -/
theorem exists_reply {s : XserverZmqSplit} (h : Orderly kernel s)
    (hstopping : s.messenger.caller = .stopping)
    (hcontroller : s.messenger.server.shellController = []) :
    ∃ reply, s.messenger.server.replies[s.messenger.received]? = some reply := by
  have hsent := h.sent
  have hcounted := h.lockstep.counted
  rw [hstopping, unanswered] at hsent
  rw [hcontroller, List.length_nil] at hcounted
  exact ⟨_, List.getElem?_eq_getElem (by omega)⟩

theorem advances_receiveReply {bound : Nat} {s : XserverZmqSplit}
    (h : Stopping kernel bound s) : Advances kernel bound s .receiveReply := by
  have hsame (hstep : s.step kernel .receiveReply = s) (hphase : phase bound s ≠ bound + 3) :
      Advances kernel bound s .receiveReply :=
    .of_same (hstep.symm ▸ h) (hstep.symm ▸ rfl) fun hturn => hphase (turn_receiveReply.mp hturn)
  cases hcaller : s.messenger.caller with
  | awaits => exact absurd hcaller h.calls
  | idle =>
      refine hsame ?_ ?_
      · rw [XserverZmqSplit.step, XzmqMessenger.receiveReply, hcaller]
      · have hphase : phase bound s ≤ 1 := phase_idle_le hcaller
        omega
  | stopped =>
      refine hsame ?_ ?_
      · rw [XserverZmqSplit.step, XzmqMessenger.receiveReply, hcaller]
      · rw [phase_stopped hcaller]
        omega
  | stopping =>
      cases hreply : s.messenger.server.replies[s.messenger.received]? with
      | none =>
          refine hsame ?_ ?_
          · rw [XserverZmqSplit.step, XzmqMessenger.receiveReply, hcaller, hreply]
          · rw [phase_stopping hcaller, if_neg fun hcontroller => ?_]
            · omega
            · obtain ⟨reply, hsome⟩ := exists_reply h.orderly hcaller hcontroller
              cases hreply.symm.trans hsome
      | some reply =>
          have hleft : s.messenger.server.controlStatus = .left := by
            by_contra hserving
            cases hcaller.symm.trans (h.idle_of_not_left hserving)
          have hstep : s.step kernel .receiveReply = { s with messenger := { s.messenger with
              received := s.messenger.received + 1, caller := .stopped } } := by
            rw [XserverZmqSplit.step, XzmqMessenger.receiveReply, hcaller, hreply]
          have hphase : phase bound s ≤ bound + 3 := (phase_stopping_bounds hcaller).2
          have hphase' : bound + 4 ≤ phase bound (s.step kernel .receiveReply) := by
            rw [hstep, phase_stopped rfl]
            exact Nat.le_add_right _ _
          refine ⟨⟨orderly_receiveReply h.orderly, Or.inl ?_, ?_, ?_⟩, ?_, fun _ _ => ?_⟩
          · rw [hstep]
            exact hleft
          · rw [hstep]
            rintro ⟨⟩
          · rw [hstep]
            exact h.shell
          · omega
          · omega

theorem advances_shellPass {bound : Nat} {s : XserverZmqSplit} (h : Stopping kernel bound s)
    {pollError : Option Nat} (hpoll : ¬ Fatal pollError) :
    Advances kernel bound s (.shellPass pollError) := by
  obtain ⟨hshell, hnone⟩ := shellPass_waiting kernel pollError s.messenger
  have hcaller := (shellPass_sameCaller kernel pollError s.messenger).caller
  have hstatus := (shellPass_sameCaller kernel pollError s.messenger).controlStatus
  have hkeeps : Stopping kernel bound (s.step kernel (.shellPass pollError)) := by
    refine ⟨orderly_shellPass h.orderly hpoll, ?_, ?_, Nat.le_trans hshell h.shell⟩
    · have hstop := (shellPass_sameCaller kernel pollError s.messenger).requestStop
      simp only [XserverZmqSplit.step, hstatus, hstop]
      exact h.ends
    · simp only [XserverZmqSplit.step, hcaller]
      exact h.calls
  have hcaller' : (s.step kernel (.shellPass pollError)).messenger.caller =
      s.messenger.caller := hcaller
  have hstatus' : (s.step kernel (.shellPass pollError)).messenger.server.controlStatus =
      s.messenger.server.controlStatus := hstatus
  cases hstopping : s.messenger.caller with
  | awaits => exact absurd hstopping h.calls
  | idle =>
      refine .of_same hkeeps ?_ fun hturn => ?_
      · simp only [phase, hcaller', hstatus', hstopping]
      · have hphase : phase bound s ≤ 1 := phase_idle_le hstopping
        have htwo := (turn_shellPass.mp hturn).1
        omega
  | stopped =>
      refine .of_same hkeeps ?_ fun hturn => ?_
      · rw [phase_stopped (hcaller'.trans hstopping), phase_stopped hstopping]
        rfl
      · have hbound := (turn_shellPass.mp hturn).2.1
        rw [phase_stopped hstopping] at hbound
        omega
  | stopping =>
      have hphase : phase bound s = _ := phase_stopping hstopping
      have hphase' : phase bound (s.step kernel (.shellPass pollError)) = _ :=
        phase_stopping (hcaller'.trans hstopping)
      by_cases hcontroller : s.messenger.server.shellController = []
      · have hnone' :
            (s.step kernel (.shellPass pollError)).messenger.server.shellController = [] :=
          hnone hcontroller
        rw [if_pos hcontroller] at hphase
        rw [if_pos hnone'] at hphase'
        refine .of_same hkeeps (hphase'.trans hphase.symm) fun hturn => ?_
        have hbound := (turn_shellPass.mp hturn).2.1
        omega
      · rw [if_neg hcontroller] at hphase
        rcases pollError with _ | num
        · obtain ⟨hempty, hcons⟩ := shellPass_stopping h.orderly hstopping hcontroller
          suffices hless : phase bound s < phase bound (s.step kernel (.shellPass none)) from
            ⟨hkeeps, Nat.le_of_lt hless, fun _ _ => hless⟩
          have hbound := h.shell
          cases hwaits : s.messenger.server.shell with
          | nil =>
              have hnone' :
                  (s.step kernel (.shellPass none)).messenger.server.shellController = [] :=
                hempty hwaits
              rw [if_pos hnone'] at hphase'
              rw [hwaits, List.length_nil] at hphase
              omega
          | cons wireMsg rest =>
              obtain ⟨hsame, hrest⟩ := hcons wireMsg rest hwaits
              have hnot : (s.step kernel (.shellPass none)).messenger.server.shellController ≠ [] :=
                fun h => hcontroller (hsame.symm.trans h)
              have hlength : (s.step kernel (.shellPass none)).messenger.server.shell.length =
                  rest.length := congrArg List.length hrest
              rw [if_neg hnot, hlength] at hphase'
              rw [hwaits, List.length_cons] at hphase hbound
              omega
        · have hstep : s.step kernel (.shellPass (some num)) = s :=
            congrArg (fun messenger => { s with messenger }) (shellPass_interrupted _ hpoll)
          refine .of_same hkeeps (congrArg (phase bound) hstep) fun hturn => ?_
          cases (turn_shellPass.mp hturn).2.2

theorem advances_listeners {bound : Nat} {s : XserverZmqSplit} (h : Stopping kernel bound s)
    {event : ListenerEvent} (hharmless : event.Harmless kernel.publisher) :
    Advances kernel bound s (.listeners event) := by
  have hmessenger : (s.step kernel (.listeners event)).messenger = s.messenger := by
    cases event with
    | stopChannels =>
        simp only [XserverZmqSplit.step, XserverZmqSplit.stopChannels]
        split <;> rfl
    | publish | peer | ping | publisherPass | heartbeatPass => rfl
  have hkeeps : Stopping kernel bound (s.step kernel (.listeners event)) := by
    refine ⟨orderly_listeners h.orderly hharmless, ?_, ?_, ?_⟩
    · rw [hmessenger]
      exact h.ends
    · rw [hmessenger]
      exact h.calls
    · rw [hmessenger]
      exact h.shell
  by_cases hstopped : s.messenger.caller = .stopped
  · have hlisteners : (s.step kernel (.listeners event)).listeners =
        s.listeners.step kernel.publisher event := by
      cases event with
      | stopChannels => simp only [XserverZmqSplit.step, XserverZmqSplit.stopChannels, hstopped,
          Listeners.step]
      | publish | peer | ping | publisherPass | heartbeatPass => rfl
    have hphase : phase bound (s.step kernel (.listeners event)) = _ :=
      phase_stopped (hmessenger ▸ hstopped)
    rw [hlisteners] at hphase
    have hpasses := listener_passes kernel.publisher []
    refine ⟨hkeeps, ?_, fun hlast hturn => ?_⟩
    · have hmono := hpasses.mono s.listeners event h.orderly.listeners hharmless
      rw [hphase, phase_stopped hstopped]
      exact Nat.add_le_add_left hmono _
    · have hturn := (turn_listeners.mp hturn).2
      rw [phase_stopped hstopped] at hlast hturn
      rw [Nat.add_sub_cancel_left] at hturn
      have hless := hpasses.leads s.listeners event h.orderly.listeners hharmless (by omega) hturn
      rw [hphase, phase_stopped hstopped]
      exact Nat.add_lt_add_left hless _
  · refine .of_same hkeeps ?_ fun hturn => ?_
    · unfold phase
      rw [hmessenger]
      cases hcaller : s.messenger.caller with
      | stopped => exact absurd hcaller hstopped
      | idle | awaits | stopping => rfl
    · have hbound := (turn_listeners.mp hturn).1
      cases hcaller : s.messenger.caller with
      | stopped => exact hstopped hcaller
      | awaits => exact h.calls hcaller
      | stopping =>
          have hphase : phase bound s ≤ bound + 3 := (phase_stopping_bounds hcaller).2
          omega
      | idle =>
          have hphase : phase bound s ≤ 1 := phase_idle_le hcaller
          omega

theorem phases (kernel : Kernel) (bound : Nat) :
    Passes (XserverZmqSplit.step kernel) (Stopping kernel bound) (Quiet kernel) (phase bound)
      (turn bound) (bound + 10) := by
  have hadvances (s : XserverZmqSplit) (event : Event) (h : Stopping kernel bound s)
      (hquiet : Quiet kernel event) : Advances kernel bound s event := by
    cases event with
    | arrive channel wireMsg =>
        obtain ⟨rfl, hharmless⟩ := hquiet
        refine .of_same ⟨orderly_arrive h.orderly .control hharmless, h.ends, h.calls, h.shell⟩
          rfl ?_
        unfold turn
        split_ifs <;> simp
    | stop =>
        have horderly : Orderly kernel (s.step kernel .stop) := orderly_step h.orderly trivial
        refine .of_same ⟨horderly, ?_, h.calls, h.shell⟩ rfl ?_
        · exact h.ends.imp_right fun hchecking => ⟨hchecking.1, rfl⟩
        · unfold turn
          split_ifs <;> simp
    | controlPass => exact advances_controlPass h
    | sendToShell message => exact hquiet.elim
    | stopShell => exact advances_stopShell h
    | receiveReply => exact advances_receiveReply h
    | shellPass pollError => exact advances_shellPass h hquiet
    | listeners event => exact advances_listeners h hquiet
  exact
    { keeps := fun s event h hquiet => (hadvances s event h hquiet).keeps
      mono := fun s event h hquiet => (hadvances s event h hquiet).mono
      leads := fun s event h hquiet => (hadvances s event h hquiet).leads }

/-- Before the control thread has left its loop no thread has been asked to stop; the
shell thread leaves first, then the publisher, then the heartbeat thread; and `start_impl`
returns behind a request to stop, on the control thread with all of them gone. -/
structure StopsInOrder (s : XserverZmqSplit) : Prop where
  serving : s.messenger.server.controlStatus ≠ .left → s.messenger.server.shellStatus ≠ .left ∧
    publisherRep s.listeners.publisher = .fresh ∧ heartbeatRep s.listeners.heartbeat = .fresh
  shellFirst : publisherRep s.listeners.publisher ≠ .fresh →
    s.messenger.server.shellStatus = .left
  inTurn : heartbeatRep s.listeners.heartbeat ≠ .fresh →
    publisherRep s.listeners.publisher = ⟨[], [[[]]], .left⟩
  returned : ∀ main, s.returned main → s.messenger.server.requestStop = true ∧
    s.messenger.server.controlStatus = .left ∧ s.messenger.server.shellStatus = .left
  stopped : s.returned .control →
    publisherRep s.listeners.publisher = ⟨[], [[[]]], .left⟩ ∧
      heartbeatRep s.listeners.heartbeat = ⟨[], [[[]]], .left⟩

theorem Orderly.fresh {s : XserverZmqSplit} (h : Orderly kernel s)
    (hcaller : s.messenger.caller ≠ .stopped) :
    publisherRep s.listeners.publisher = .fresh ∧ heartbeatRep s.listeners.heartbeat = .fresh := by
  have hbehind := h.listeners.chain.behind
  simp only [chainOf, h.begins hcaller, StopStatus.asked, StopStatus.awaiting] at hbehind
  exact ⟨hbehind 0 (Nat.zero_le _), hbehind 1 (Nat.zero_le _)⟩

theorem Stopping.stopped_of_phase {bound : Nat} {s : XserverZmqSplit}
    (h : Stopping kernel bound s) (hlast : bound + 10 ≤ phase bound s) :
    s.messenger.caller = .stopped ∧ 6 ≤ (chainOf s.listeners).phase := by
  cases hcaller : s.messenger.caller with
  | idle =>
      have hphase : phase bound s ≤ 1 := phase_idle_le hcaller
      omega
  | awaits => exact absurd hcaller h.calls
  | stopping =>
      have hphase : phase bound s ≤ bound + 3 := (phase_stopping_bounds hcaller).2
      omega
  | stopped =>
      rw [phase_stopped hcaller] at hlast
      exact ⟨rfl, by omega⟩

end Shutdown

end XeusZmq.SplitShutdown
