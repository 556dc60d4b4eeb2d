import XeusZmq.ServerShutdown
import XeusZmq.ControlPriority
import XeusZmq.PublisherWelcome

/-!
`xserver_zmq_default::start_impl` from its start to its return: the loop of the main
thread, the two threads that it starts, and `stop_channels` behind the loop.
-/

namespace XeusZmq.DefaultShutdown

open XeusZmq.Values
open XeusZmq.Authentication
open XeusZmq.FlatJson
open XeusZmq.JsonAccess
open XeusZmq.Utf8 (validUtf8)
open XeusZmq.ServerLoops
open XeusZmq.DefaultDispatch (status_setPending requestStop_setPending)
open XeusZmq.Runs (run_append run_induction)
open XeusZmq.Baton
open XeusZmq.StopChain
open XeusZmq.ServerShutdown
open XeusZmq.PublisherSafety (serverConfig)
open XeusZmq.PublisherWelcome (sampleHeader stringHeaders_sampleHeader welcomeMessage_decodes)
open XeusZmq.ServedClients (emptyObjectSession)
open XeusZmq.ControlPriority (emptyRequest)

/-- The server while `start_impl` runs. -/
structure XserverZmqDefault where
  server : DefaultServer
  listeners : Listeners

inductive Event
  | server (event : DefaultEvent)
  | listeners (event : ListenerEvent)

namespace XserverZmqDefault

def initial (config : Publisher.Config) (startMsg : Multipart) : XserverZmqDefault :=
  ⟨.initial, .initial config 0 startMsg (literal "stop")⟩

/-- `stop_channels` stands behind the loop. -/
def stopChannels (config : Publisher.Config) (self : XserverZmqDefault) : XserverZmqDefault :=
  if self.server.status = .left then
    { self with listeners := self.listeners.stopChannels config }
  else self

def step (decode : Multipart → Result XMessage) (config : Publisher.Config)
    (self : XserverZmqDefault) : Event → XserverZmqDefault
  | .server event => { self with server := self.server.step decode event }
  | .listeners .stopChannels => self.stopChannels config
  | .listeners event => { self with listeners := self.listeners.step config event }

def returned (self : XserverZmqDefault) : Prop :=
  self.listeners.stopper = .heartbeatReplied

end XserverZmqDefault

section Shutdown

variable {decode : Multipart → Result XMessage} {config : Publisher.Config}
  {startMsg : Multipart}

def run (decode : Multipart → Result XMessage) (config : Publisher.Config)
    (startMsg : Multipart) : List Event → XserverZmqDefault :=
  Runs.run (XserverZmqDefault.step decode config) (.initial config startMsg)

def Event.Harmless (config : Publisher.Config) : Event → Prop
  | .server _ => True
  | .listeners event => event.Harmless config

theorem left_server {s : DefaultServer} (h : s.status = .left) (event : DefaultEvent) :
    (s.step decode event).status = .left := by
  cases event with
  | arrive channel wireMsg => exact (status_setPending s channel _).trans h
  | stop => exact h
  | pass pollError =>
      rw [DefaultServer.step, DefaultServer.pass, h]
      exact h

/-- The loop has seen the request to stop, or its next test does. -/
def LoopEnds (s : DefaultServer) : Prop :=
  s.status = .left ∨ s.status = .checking ∧ s.requestStop = true

theorem pass_of_requestStop {s : DefaultServer} (hstatus : s.status = .checking)
    (hstop : s.requestStop = true) (pollError : Option Nat) :
    (s.pass decode pollError).status = .left := by
  rw [DefaultServer.pass, hstatus]
  exact if_pos hstop

theorem loopEnds_step {s : DefaultServer} (h : LoopEnds s) (event : DefaultEvent) :
    LoopEnds (s.step decode event) := by
  rcases h with hleft | ⟨hstatus, hstop⟩
  · exact Or.inl (left_server hleft event)
  · cases event with
    | arrive channel wireMsg =>
        exact Or.inr ⟨(status_setPending s channel _).trans hstatus,
          (requestStop_setPending s channel _).trans hstop⟩
    | stop => exact Or.inr ⟨hstatus, rfl⟩
    | pass pollError => exact Or.inl (pass_of_requestStop hstatus hstop pollError)

/-- `stop_channels` is not called before the loop has been left. -/
theorem step_listeners (s : XserverZmqDefault) (event : ListenerEvent) :
    s.step decode config (.listeners event) =
        { s with listeners := s.listeners.step config event } ∨
      s.server.status ≠ .left ∧ s.step decode config (.listeners event) = s := by
  cases event with
  | stopChannels =>
      simp only [XserverZmqDefault.step, XserverZmqDefault.stopChannels]
      split_ifs with hleft
      · exact Or.inl rfl
      · exact Or.inr ⟨hleft, rfl⟩
  | publish | peer | ping | publisherPass | heartbeatPass => exact Or.inl rfl

theorem step_of_left {s : XserverZmqDefault} (hleft : s.server.status = .left)
    (event : ListenerEvent) :
    s.step decode config (.listeners event) =
      { s with listeners := s.listeners.step config event } := by
  rcases step_listeners s event with hstep | ⟨hnot, -⟩
  · exact hstep
  · exact absurd hleft hnot

/-- No thread is asked to stop as long as the loop runs. -/
structure Orderly (config : Publisher.Config) (s : XserverZmqDefault) : Prop where
  listeners : Inv config (literal "stop") s.listeners
  begins : s.server.status ≠ .left → s.listeners.stopper = .begins

theorem orderly_step {s : XserverZmqDefault} (h : Orderly config s) {event : Event}
    (hharmless : event.Harmless config) : Orderly config (s.step decode config event) := by
  cases event with
  | server event =>
      refine ⟨h.listeners, fun hstatus => h.begins fun hleft => hstatus ?_⟩
      exact left_server hleft event
  | listeners event =>
      have hlisteners :
          Inv config (literal "stop") (s.step decode config (.listeners event)).listeners := by
        rcases step_listeners s event with hstep | ⟨-, hstep⟩
        · rw [hstep]
          exact (listener_passes config _).keeps s.listeners event h.listeners hharmless
        · rw [hstep]
          exact h.listeners
      refine ⟨hlisteners, fun hstatus => ?_⟩
      cases event with
      | stopChannels =>
          simp only [XserverZmqDefault.step, XserverZmqDefault.stopChannels] at hstatus ⊢
          split_ifs at hstatus ⊢ with hleft
          · exact absurd hleft hstatus
          · exact h.begins hleft
      | publish | peer | ping | publisherPass | heartbeatPass => exact h.begins hstatus

theorem run_orderly (events : List Event)
    (hharmless : ∀ event ∈ events, event.Harmless config) :
    Orderly config (run decode config startMsg events) := by
  revert hharmless
  apply run_induction (P := fun (events : List Event) (s : XserverZmqDefault) =>
    (∀ event ∈ events, event.Harmless config) → Orderly config s)
  · exact fun _ => ⟨inv_initial config 0 startMsg _, fun _ => rfl⟩
  · intro events event ih hharmless
    exact orderly_step (ih fun event' hmem => hharmless event' (List.mem_append_left _ hmem))
      (hharmless event List.mem_concat_self)

/-! The steps that lead from the request to stop to the return. -/

def phase (s : XserverZmqDefault) : Nat :=
  if s.server.status = .left then (chainOf s.listeners).phase + 1 else 0

def turn : Nat → Event → Prop
  | 0, event => ∃ pollError, event = .server (.pass pollError)
  | phase + 1, event =>
      ∃ listenerEvent, event = .listeners listenerEvent ∧
        ServerShutdown.turn phase listenerEvent

theorem phase_of_left {s : XserverZmqDefault} (h : s.server.status = .left) :
    phase s = (chainOf s.listeners).phase + 1 :=
  if_pos h

theorem phase_with_listeners {s : XserverZmqDefault} (h : s.server.status = .left)
    (listeners : Listeners) : phase { s with listeners } = (chainOf listeners).phase + 1 :=
  if_pos h

theorem phase_of_not_left {s : XserverZmqDefault} (h : s.server.status ≠ .left) : phase s = 0 :=
  if_neg h

theorem phases :
    Passes (XserverZmqDefault.step decode config)
      (fun s => Inv config (literal "stop") s.listeners ∧ LoopEnds s.server)
      (Event.Harmless config) phase turn
      7 where
  keeps s event h hharmless := by
    cases event with
    | server event => exact ⟨h.1, loopEnds_step h.2 event⟩
    | listeners event =>
        rcases step_listeners s event with hstep | ⟨-, hstep⟩
        · rw [hstep]
          exact ⟨(listener_passes config _).keeps s.listeners event h.1 hharmless, h.2⟩
        · rw [hstep]
          exact h
  mono s event h hharmless := by
    by_cases hleft : s.server.status = .left
    · rw [phase_of_left hleft]
      cases event with
      | server event =>
          rw [phase_of_left (left_server hleft event)]
          exact Nat.le_refl _
      | listeners event =>
          rw [step_of_left hleft, phase_with_listeners hleft]
          exact Nat.succ_le_succ
            ((listener_passes config _).mono s.listeners event h.1 hharmless)
    · rw [phase_of_not_left hleft]
      exact Nat.zero_le _
  leads s event h hharmless hlast hturn := by
    by_cases hleft : s.server.status = .left
    · rw [phase_of_left hleft] at hlast hturn ⊢
      obtain ⟨listenerEvent, rfl, hturn⟩ := hturn
      rw [step_of_left hleft, phase_with_listeners hleft]
      exact Nat.succ_lt_succ ((listener_passes config _).leads s.listeners listenerEvent h.1
        hharmless (Nat.lt_of_succ_lt_succ hlast) hturn)
    · rw [phase_of_not_left hleft] at hturn ⊢
      obtain ⟨pollError, rfl⟩ := hturn
      rcases h.2 with hleft' | ⟨hstatus, hstop⟩
      · exact absurd hleft' hleft
      · rw [phase_of_left (pass_of_requestStop hstatus hstop pollError)]
        exact Nat.succ_pos _

/-- The steps that `start_impl` takes behind the loop, and the iterations of the two
threads in which they see the requests. -/
def shutdownSteps (publisherReady : Publisher.Ready) (pipe : Nat)
    (heartbeatReady : Heartbeat.Ready) : List Event :=
  [.server (.pass none), .listeners .stopChannels,
    .listeners (.publisherPass none publisherReady pipe), .listeners .stopChannels,
    .listeners .stopChannels, .listeners (.heartbeatPass none heartbeatReady),
    .listeners .stopChannels]

theorem turns_shutdownSteps {publisherReady : Publisher.Ready} (pipe : Nat)
    {heartbeatReady : Heartbeat.Ready} (hpublisher : publisherReady.controller = true)
    (hheartbeat : heartbeatReady.controller = true) :
    Turns turn 0 (shutdownSteps publisherReady pipe heartbeatReady) := by
  refine ⟨⟨none, rfl⟩, ⟨_, rfl, _, rfl, rfl⟩, ⟨_, rfl, _, rfl, 0, ?_, rfl⟩, ⟨_, rfl, _, rfl, rfl⟩,
    ⟨_, rfl, _, rfl, rfl⟩, ⟨_, rfl, _, rfl, 1, ?_, rfl⟩, ⟨_, rfl, _, rfl, rfl⟩, trivial⟩
  · rw [hpublisher]
    rfl
  · rw [hheartbeat]
    rfl

/-- Before the loop has been left no thread has been asked to stop, the heartbeat thread
is asked behind the publisher, and when `start_impl` returns both have replied to one
request and have left. -/
structure StopsInOrder (s : XserverZmqDefault) : Prop where
  serving : s.server.status ≠ .left →
    publisherRep s.listeners.publisher = .fresh ∧ heartbeatRep s.listeners.heartbeat = .fresh
  inTurn : heartbeatRep s.listeners.heartbeat ≠ .fresh →
    publisherRep s.listeners.publisher = ⟨[], [[literal "stop"]], .left⟩
  returned : s.returned → s.server.status = .left ∧
    publisherRep s.listeners.publisher = ⟨[], [[literal "stop"]], .left⟩ ∧
    heartbeatRep s.listeners.heartbeat = ⟨[], [[[]]], .left⟩

theorem run_stopsInOrder {events : List Event}
    (hharmless : ∀ event ∈ events, event.Harmless config) :
    StopsInOrder (run decode config startMsg events) := by
  have horderly : Orderly config (run decode config startMsg events) :=
    run_orderly events hharmless
  generalize run decode config startMsg events = s at horderly
  have hchain := horderly.listeners.chain
  refine ⟨fun hserving => ?_, fun hasked => ?_, fun hreturned => ⟨?_, ?_⟩⟩
  · have hbehind := hchain.behind
    simp only [chainOf, horderly.begins hserving, StopStatus.asked, StopStatus.awaiting] at hbehind
    exact ⟨hbehind 0 (Nat.zero_le _), hbehind 1 (Nat.zero_le _)⟩
  · exact hchain.left_of_asked (i := 0) (j := 1) (by decide) hasked
  · by_contra hserving
    cases (horderly.begins hserving).symm.trans hreturned
  · exact horderly.listeners.stopped hreturned

/-- The threads are stopped one after the other and not before the loop has been left. Once
a listener has asked for it, `start_impl` returns, whatever else happens, when the steps
that this takes have been taken in their order. -/
theorem start_impl_returns (events : List Event)
    (hharmless : ∀ event ∈ events, event.Harmless config) :
    StopsInOrder (run decode config startMsg events) ∧
      ((run decode config startMsg events).server.status = .checking →
        (run decode config startMsg events).server.requestStop = true →
        ∀ more publisherReady pipe heartbeatReady, (∀ event ∈ more, event.Harmless config) →
          publisherReady.controller = true → heartbeatReady.controller = true →
          (shutdownSteps publisherReady pipe heartbeatReady).Sublist more →
          (run decode config startMsg (events ++ more)).returned) := by
  refine ⟨run_stopsInOrder hharmless, ?_⟩
  intro hstatus hstop more publisherReady pipe heartbeatReady hmore hpublisher hheartbeat hsub
  have horderly : Orderly config (run decode config startMsg events) :=
    run_orderly events hharmless
  have hinv : Inv config (literal "stop") (run decode config startMsg events).listeners ∧
      LoopEnds (run decode config startMsg events).server :=
    ⟨horderly.listeners, Or.inr ⟨hstatus, hstop⟩⟩
  have hphases := @phases decode config
  have hreaches := hphases.reaches hsub (turns_shutdownSteps pipe hpublisher hheartbeat)
    (Nat.le_refl 7) hinv (Nat.zero_le _) hmore
  have hinv' := hphases.inv_run hinv hmore
  have hrun : run decode config startMsg (events ++ more) =
      Runs.run (XserverZmqDefault.step decode config) (run decode config startMsg events) more :=
    run_append _ _ _ _
  rw [← hrun] at hreaches hinv'
  refine hinv'.1.stopped_of_phase ?_
  unfold phase at hreaches
  split_ifs at hreaches with hleft
  · exact Nat.le_of_succ_le_succ hreaches
  · exact absurd hreaches (Nat.not_succ_le_zero 6)

end Shutdown

def kernelConfig : Publisher.Config :=
  serverConfig flatJsonLibrary sha256Authentication .strict fun _ => stringObject sampleHeader

theorem welcomed_kernel : Welcomed kernelConfig [1 :: literal "kernel"] := by
  intro topic hsubscription call
  obtain rfl := Option.some.inj hsubscription
  have hown : AcceptsOwnSignatures sha256Authentication :=
    @makeXAuthentication_acceptsOwnSignatures sha256OpenSsl lowerHex (literal "hmac-sha256")
      (literal "key") _ rfl
  have hutf8 : validUtf8 (literal "kernel") = true := by decide
  obtain ⟨message, hmessage, -⟩ := welcomeMessage_decodes hown flatJsonLibrary_rereadsStrings
    stringHeaders_sampleHeader hutf8 call
  exact ⟨message, hmessage⟩

/-- The listener of a control request stops the server. -/
def stopRequested : List Event :=
  [.server (.arrive .control emptyRequest), .listeners (.peer [1 :: literal "kernel"]),
    .server (.pass none), .server (.pass none), .server .stop]

theorem stopRequested_harmless : ∀ event ∈ stopRequested, event.Harmless kernelConfig := by
  intro event hmem
  simp only [stopRequested, List.mem_cons, List.not_mem_nil, or_false] at hmem
  rcases hmem with rfl | rfl | rfl | rfl | rfl
  · trivial
  · exact welcomed_kernel
  all_goals trivial

theorem start_impl_returns_stopRequested :
    (run emptyObjectSession.decode kernelConfig [literal "start"] (stopRequested ++
      shutdownSteps ⟨true, true, true⟩ 0 ⟨true, true⟩)).returned := by
  refine (start_impl_returns stopRequested stopRequested_harmless).2 rfl rfl _ ⟨true, true, true⟩ 0
    ⟨true, true⟩ ?_ rfl rfl (List.Sublist.refl _)
  intro event hmem
  simp only [shutdownSteps, List.mem_cons, List.not_mem_nil, or_false] at hmem
  rcases hmem with rfl | rfl | rfl | rfl | rfl | rfl | rfl
  all_goals first | trivial | exact fun num hnum => by cases hnum

end XeusZmq.DefaultShutdown
