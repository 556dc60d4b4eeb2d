import XeusZmq.DefaultDispatch

/-!
The loop of the default server where it can be met: whatever surrounds it may act between
`zmq::poll`, the test of the request to stop, the read and the call of the listener.
-/

namespace XeusZmq.PolledLoop

open XeusZmq.Values
open XeusZmq.ServerLoops
open XeusZmq.FifoPort
open XeusZmq.DefaultDispatch (NoZmqError catchZmqError_of_ne)
open XeusZmq.Runs (run_append run_cons run_nil run_concat run_induction)

abbrev Call := Channel × XMessage

/-- Where the server thread stands: in the loop of `start_impl`, in `poll_channels`, with
what `zmq::poll` has found on the controller and on the shell, or in a listener. -/
inductive LoopPoint
  | checking
  | polling
  | polled (controller shell : Bool)
  | reading (channel : Channel)
  | notifying (channel : Channel) (msg : XMessage)
  | listening
  | left
  | failed (f : Failure)

/-- The message that has been read and not been passed on yet. -/
def LoopPoint.handed : LoopPoint → List Call
  | .notifying channel msg => [(channel, msg)]
  | _ => []

/-- What `start_impl` does with the result of `poll_channels`. -/
def LoopPoint.returned : Result (Option Call) → LoopPoint
  | .error f => .failed f
  | .ok none => .checking
  | .ok (some (channel, msg)) => .notifying channel msg

structure PollingServer where
  controller : List Multipart
  shell : List Multipart
  requestStop : Bool
  calls : List Call
  point : LoopPoint

/-- The server thread goes on, and if it is at `zmq::poll` that may fail, or the listener
that it is in throws. -/
inductive LoopEvent
  | arrive (channel : Channel) (wireMsg : Multipart)
  | stop
  | goOn (pollError : Option Nat)
  | throws (f : Failure)

namespace PollingServer

def initial : PollingServer :=
  ⟨[], [], false, [], .checking⟩

def pending (self : PollingServer) : Channel → List Multipart
  | .shell => self.shell
  | .control => self.controller

def setPending (self : PollingServer) : Channel → List Multipart → PollingServer
  | .shell, shell => { self with shell }
  | .control, controller => { self with controller }

/-- `zmq::poll` without a timeout returns when there is something to read. -/
def poll (pollError : Option Nat) (self : PollingServer) : LoopPoint :=
  match pollError with
  | some num => .returned (catchZmqError (.error (.exception (.zmqError num))))
  | none =>
      if self.controller.isEmpty && self.shell.isEmpty then .polling
      else .polled (!self.controller.isEmpty) (!self.shell.isEmpty)

/-- The tests of `revents`. -/
def chosen (controller shell : Bool) (self : PollingServer) : LoopPoint :=
  if controller then .reading .control
  else if !self.requestStop && shell then .reading .shell
  else .checking

def read (decode : Multipart → Result XMessage) (channel : Channel) (self : PollingServer) :
    PollingServer :=
  match self.pending channel with
  | [] => self
  | wireMsg :: rest =>
      { self.setPending channel rest with
        point := .returned (catchZmqError ((decode wireMsg).map fun msg => some (channel, msg))) }

def goOn (decode : Multipart → Result XMessage) (pollError : Option Nat)
    (self : PollingServer) : PollingServer :=
  match self.point with
  | .checking => { self with point := if self.requestStop then .left else .polling }
  | .polling => { self with point := self.poll pollError }
  | .polled controller shell => { self with point := self.chosen controller shell }
  | .reading channel => self.read decode channel
  | .notifying channel msg =>
      { self with calls := self.calls ++ [(channel, msg)], point := .listening }
  | .listening => { self with point := .checking }
  | .left => self
  | .failed _ => self

def arrive (self : PollingServer) (channel : Channel) (wireMsg : Multipart) : PollingServer :=
  self.setPending channel (self.pending channel ++ [wireMsg])

/-- An exception of a listener leaves `start_impl`. -/
def throws (f : Failure) (self : PollingServer) : PollingServer :=
  match self.point with
  | .listening => { self with point := .failed f }
  | _ => self

def step (decode : Multipart → Result XMessage) (self : PollingServer) :
    LoopEvent → PollingServer
  | .arrive channel wireMsg => self.arrive channel wireMsg
  | .stop => { self with requestStop := true }
  | .goOn pollError => self.goOn decode pollError
  | .throws f => self.throws f

end PollingServer

open PollingServer

variable {decode : Multipart → Result XMessage}

def run (decode : Multipart → Result XMessage) : List LoopEvent → PollingServer :=
  Runs.run (PollingServer.step decode) .initial

/-! What becomes of the messages that arrive. -/

def arrival : LoopEvent → Option (Channel × Multipart)
  | .arrive channel wireMsg => some (channel, wireMsg)
  | _ => none

def arrivals (events : List LoopEvent) : List (Channel × Multipart) :=
  events.filterMap arrival

theorem pending_setPending (s : PollingServer) (channel : Channel) (wireMsgs : List Multipart) :
    (s.setPending channel wireMsgs).pending = Function.update s.pending channel wireMsgs := by
  funext other
  cases channel <;> cases other <;> rfl

@[simp] theorem calls_setPending (s : PollingServer) (channel : Channel)
    (wireMsgs : List Multipart) : (s.setPending channel wireMsgs).calls = s.calls := by
  cases channel <;> rfl

@[simp] theorem requestStop_setPending (s : PollingServer) (channel : Channel)
    (wireMsgs : List Multipart) :
    (s.setPending channel wireMsgs).requestStop = s.requestStop := by
  cases channel <;> rfl

@[simp] theorem point_setPending (s : PollingServer) (channel : Channel)
    (wireMsgs : List Multipart) : (s.setPending channel wireMsgs).point = s.point := by
  cases channel <;> rfl

theorem catchZmqError_message {result : Result XMessage} (channel : Channel)
    (h : ∀ num, result ≠ .error (.exception (.zmqError num))) :
    catchZmqError (result.map fun msg => some (channel, msg)) =
      result.map fun msg => some (channel, msg) := by
  apply catchZmqError_of_ne
  intro num hnum
  cases result with
  | error f => exact h num (congrArg Except.error (Except.error.inj hnum))
  | ok msg => cases hnum

/-- What becomes of a message that is read. -/
def afterRead (decode : Multipart → Result XMessage) (channel : Channel)
    (wireMsg : Multipart) : LoopPoint :=
  match decode wireMsg with
  | .error f => .failed f
  | .ok msg => .notifying channel msg

theorem read_eq (hzmq : NoZmqError decode) (channel : Channel) (s : PollingServer) :
    s.read decode channel =
      match s.pending channel with
      | [] => s
      | wireMsg :: rest =>
          { s.setPending channel rest with point := afterRead decode channel wireMsg } := by
  rw [PollingServer.read]
  cases s.pending channel with
  | nil => rfl
  | cons wireMsg rest =>
      dsimp only
      rw [catchZmqError_message channel (hzmq wireMsg), afterRead]
      cases decode wireMsg <;> rfl

theorem handed_afterRead (channel : Channel) (wireMsg : Multipart) :
    (afterRead decode channel wireMsg).handed =
      (decoded decode wireMsg).toList.map (channel, ·) := by
  rw [afterRead]
  cases hdecode : decode wireMsg with
  | error f => rw [decoded_of_error hdecode]; rfl
  | ok msg => rw [decoded_of_ok hdecode]; rfl

theorem handed_poll (s : PollingServer) (pollError : Option Nat) :
    (s.poll pollError).handed = [] := by
  cases pollError with
  | none =>
      rw [PollingServer.poll]
      split_ifs <;> rfl
  | some num =>
      rw [PollingServer.poll, catchZmqError]
      split_ifs <;> rfl

theorem handed_chosen (s : PollingServer) (controller shell : Bool) :
    (s.chosen controller shell).handed = [] := by
  rw [PollingServer.chosen]
  split_ifs <;> rfl

/-- A message counts as passed on once it has been read. -/
def ports (s : PollingServer) : Ports Channel Multipart XMessage :=
  ⟨s.pending, s.calls ++ s.point.handed⟩

theorem ports_idle {s s' : PollingServer} (hpending : s'.pending = s.pending)
    (hcalls : s'.calls ++ s'.point.handed = s.calls ++ s.point.handed) :
    Ports.Step (decoded decode) (ports s) none (ports s') := by
  rw [ports, ports, hpending, hcalls]
  exact .idle

theorem goOn_ports (hzmq : NoZmqError decode) (s : PollingServer) (pollError : Option Nat) :
    Ports.Step (decoded decode) (ports s) none (ports (s.goOn decode pollError)) := by
  rw [PollingServer.goOn]
  cases hpoint : s.point with
  | checking =>
      refine ports_idle rfl ?_
      rw [hpoint]
      dsimp only
      split_ifs <;> rfl
  | polling =>
      refine ports_idle rfl ?_
      rw [hpoint]
      exact congrArg _ (handed_poll s pollError)
  | polled controller shell =>
      refine ports_idle rfl ?_
      rw [hpoint]
      exact congrArg _ (handed_chosen s controller shell)
  | reading channel =>
      dsimp only
      rw [read_eq hzmq]
      cases hpending : s.pending channel with
      | nil => exact .idle
      | cons wireMsg rest =>
          have htake : Ports.Step (decoded decode) (ports s) none _ :=
            .take channel wireMsg rest hpending
          rw [ports, hpoint, ← handed_afterRead] at htake
          convert htake using 1
          · simp [ports, hpoint]
          simp only [ports, Ports.mk.injEq, calls_setPending]
          exact ⟨pending_setPending s channel rest, by simp [LoopPoint.handed]⟩
  | notifying channel msg =>
      refine ports_idle rfl ?_
      rw [hpoint]
      exact List.append_nil _
  | listening => exact ports_idle rfl (by rw [hpoint]; rfl)
  | left => exact .idle
  | failed f => exact .idle

theorem step_ports (hzmq : NoZmqError decode) (s : PollingServer) (event : LoopEvent) :
    Ports.Step (decoded decode) (ports s) (arrival event) (ports (s.step decode event)) := by
  cases event with
  | arrive channel wireMsg =>
      have hports : ports (s.step decode (.arrive channel wireMsg)) =
          ⟨Function.update s.pending channel (s.pending channel ++ [wireMsg]),
            s.calls ++ s.point.handed⟩ := by
        rw [PollingServer.step, PollingServer.arrive, ports, pending_setPending, calls_setPending,
          point_setPending]
      rw [hports]
      exact .arrive channel wireMsg
  | stop => exact .idle
  | goOn pollError => exact goOn_ports hzmq s pollError
  | throws f =>
      rw [PollingServer.step, PollingServer.throws]
      cases hpoint : s.point with
      | listening => exact ports_idle rfl (by rw [hpoint]; rfl)
      | _ => exact .idle

theorem run_relay (hzmq : NoZmqError decode) (events : List LoopEvent) :
    (ports (run decode events)).Relay (decoded decode) (arrivals events) := by
  apply run_induction (P := fun events s => (ports s).Relay (decoded decode) (arrivals events))
  · intro channel
    cases channel <;> exact .initial
  · intro events event ih
    rw [arrivals, filterMap_concat]
    exact (step_ports hzmq _ event).relay ih

/-- What `zmq::poll` has found is still there. -/
structure Found (s : PollingServer) : Prop where
  polled : ∀ controller shell, s.point = .polled controller shell →
    (controller = true → s.controller ≠ []) ∧ (shell = true → s.shell ≠ []) ∧
      (controller || shell) = true
  reading : ∀ channel, s.point = .reading channel → s.pending channel ≠ []

theorem found_arrive {s : PollingServer} (h : Found s) (channel : Channel)
    (wireMsg : Multipart) : Found (s.arrive channel wireMsg) := by
  have hkept (other : Channel) (hother : s.pending other ≠ []) :
      (s.arrive channel wireMsg).pending other ≠ [] := by
    rw [PollingServer.arrive, pending_setPending]
    by_cases hchannel : other = channel
    · subst hchannel
      simp
    · rwa [Function.update_of_ne hchannel]
  constructor
  · intro controller shell hpoint
    rw [PollingServer.arrive, point_setPending] at hpoint
    obtain ⟨hcontroller, hshell, hfound⟩ := h.polled controller shell hpoint
    exact ⟨fun htrue => hkept .control (hcontroller htrue),
      fun htrue => hkept .shell (hshell htrue), hfound⟩
  · intro other hpoint
    rw [PollingServer.arrive, point_setPending] at hpoint
    exact hkept other (h.reading other hpoint)

/-- A point at which the loop has not just polled asks for nothing. -/
theorem found_of_point {s : PollingServer} (hpolled : ∀ controller shell,
      s.point ≠ .polled controller shell)
    (hreading : ∀ channel, s.point ≠ .reading channel) : Found s where
  polled controller shell hpoint := absurd hpoint (hpolled controller shell)
  reading channel hpoint := absurd hpoint (hreading channel)

theorem found_poll (s : PollingServer) (pollError : Option Nat) :
    Found { s with point := s.poll pollError } := by
  cases pollError with
  | some num =>
      rw [PollingServer.poll, catchZmqError]
      split_ifs <;>
        exact found_of_point (by simp [LoopPoint.returned]) (by simp [LoopPoint.returned])
  | none =>
      rw [PollingServer.poll]
      split_ifs with hnothing
      · exact found_of_point (by simp) (by simp)
      · refine ⟨fun controller shell hpoint => ?_, by simp⟩
        obtain ⟨rfl, rfl⟩ := LoopPoint.polled.inj hpoint
        refine ⟨by simp, by simp, ?_⟩
        cases hcontroller : s.controller <;> cases hshell : s.shell <;> simp_all

theorem found_chosen {s : PollingServer} (h : Found s) {controller shell : Bool}
    (hpoint : s.point = .polled controller shell) :
    Found { s with point := s.chosen controller shell } := by
  obtain ⟨hcontroller, hshell, -⟩ := h.polled controller shell hpoint
  rw [PollingServer.chosen]
  split_ifs with hcontrol hstop
  · refine ⟨by simp, fun channel hchannel => ?_⟩
    obtain rfl := LoopPoint.reading.inj hchannel
    exact hcontroller hcontrol
  · refine ⟨by simp, fun channel hchannel => ?_⟩
    obtain rfl := LoopPoint.reading.inj hchannel
    exact hshell (Bool.and_eq_true_iff.mp hstop).2
  · exact found_of_point (by simp) (by simp)

theorem found_step (hzmq : NoZmqError decode) {s : PollingServer} (h : Found s)
    (event : LoopEvent) : Found (s.step decode event) := by
  cases event with
  | arrive channel wireMsg => exact found_arrive h channel wireMsg
  | stop => exact ⟨h.polled, h.reading⟩
  | goOn pollError =>
      rw [PollingServer.step, PollingServer.goOn]
      cases hpoint : s.point with
      | checking => exact found_of_point (by simp; split_ifs <;> simp) (by simp; split_ifs <;> simp)
      | polling => exact found_poll s pollError
      | polled controller shell => exact found_chosen h hpoint
      | reading channel =>
          dsimp only
          rw [read_eq hzmq]
          cases hpending : s.pending channel with
          | nil => exact h
          | cons wireMsg rest =>
              cases hdecode : decode wireMsg <;>
                exact found_of_point (by simp [afterRead, hdecode]) (by simp [afterRead, hdecode])
      | notifying channel msg => exact found_of_point (by simp) (by simp)
      | listening => exact found_of_point (by simp) (by simp)
      | left => exact h
      | failed f => exact h
  | throws f =>
      rw [PollingServer.step, PollingServer.throws]
      cases hpoint : s.point with
      | listening => exact found_of_point (by simp) (by simp)
      | _ => exact h

theorem found_run (hzmq : NoZmqError decode) (events : List LoopEvent) :
    Found (run decode events) :=
  run_induction (P := fun _ s => Found s) _ (found_of_point (by rintro _ _ ⟨⟩) (by rintro _ ⟨⟩))
    (fun _ event h => found_step hzmq h event) events

theorem calls_step (s : PollingServer) (event : LoopEvent) :
    s.calls <+: (s.step decode event).calls := by
  cases event with
  | arrive channel wireMsg => exact (calls_setPending s channel _).symm ▸ List.prefix_rfl
  | stop => exact List.prefix_rfl
  | goOn pollError =>
      rw [PollingServer.step, PollingServer.goOn]
      cases s.point with
      | reading channel =>
          dsimp only
          rw [PollingServer.read]
          cases s.pending channel with
          | nil => exact List.prefix_rfl
          | cons wireMsg rest => exact (calls_setPending s channel rest).symm ▸ List.prefix_rfl
      | notifying channel msg => exact List.prefix_append _ _
      | _ => exact List.prefix_rfl
  | throws f =>
      rw [PollingServer.step, PollingServer.throws]
      cases s.point <;> exact List.prefix_rfl

theorem calls_run (s : PollingServer) (events : List LoopEvent) :
    s.calls <+: (Runs.run (PollingServer.step decode) s events).calls := by
  induction events generalizing s with
  | nil => exact List.prefix_rfl
  | cons event events ih => exact (calls_step s event).trans (ih _)

/-! An iteration of `DefaultServer` is the loop with nothing in between. -/

def LoopPoint.ofStatus : LoopStatus → LoopPoint
  | .checking => .checking
  | .polling => .polling
  | .left => .left
  | .failed f => .failed f

def ofDefault (s : DefaultServer) : PollingServer :=
  ⟨s.controller, s.shell, s.requestStop, s.calls, .ofStatus s.status⟩

theorem goOn_read (hzmq : NoZmqError decode) (channel : Channel) (pollError : Option Nat)
    {s : PollingServer} (hpoint : s.point = .reading channel) {wireMsg : Multipart}
    {rest : List Multipart} (hpending : s.pending channel = wireMsg :: rest) :
    ∃ n, Runs.run (PollingServer.step decode) s (List.replicate n (.goOn pollError)) =
      match decode wireMsg with
      | .error f => { s.setPending channel rest with point := .failed f }
      | .ok msg =>
          { s.setPending channel rest with
            calls := s.calls ++ [(channel, msg)]
            point := .checking } := by
  have hread : s.goOn decode pollError =
      { s.setPending channel rest with point := afterRead decode channel wireMsg } := by
    rw [PollingServer.goOn, hpoint]
    dsimp only
    rw [read_eq hzmq, hpending]
  cases hdecode : decode wireMsg with
  | error f =>
      refine ⟨1, ?_⟩
      rw [List.replicate_one, run_cons, PollingServer.step, hread, afterRead, hdecode]
      rfl
  | ok msg =>
      refine ⟨3, ?_⟩
      rw [List.replicate_succ, run_cons, PollingServer.step, hread, afterRead, hdecode]
      cases channel <;> rfl

theorem ofDefault_notify (hzmq : NoZmqError decode) (channel : Channel) (wireMsg : Multipart)
    (s : DefaultServer) :
    ofDefault
        (s.notify (catchZmqError ((decode wireMsg).map fun msg => some (msg, channel)))) =
      match decode wireMsg with
      | .error f => { ofDefault s with point := .failed f }
      | .ok msg =>
          { ofDefault s with calls := s.calls ++ [(channel, msg)], point := .checking } := by
  rw [DefaultDispatch.catchZmqError_message channel (hzmq wireMsg)]
  cases decode wireMsg <;> rfl

theorem pass_goOn (hzmq : NoZmqError decode) (s : DefaultServer) (pollError : Option Nat) :
    ∃ n, Runs.run (PollingServer.step decode) (ofDefault s)
        (List.replicate n (.goOn pollError)) = ofDefault (s.pass decode pollError) := by
  obtain ⟨controller, shell, requestStop, calls, status⟩ := s
  cases status with
  | checking =>
      refine ⟨1, ?_⟩
      cases requestStop <;> rfl
  | left => exact ⟨0, rfl⟩
  | failed f => exact ⟨0, rfl⟩
  | polling =>
      cases pollError with
      | some num =>
          refine ⟨1, ?_⟩
          by_cases hnum : num ≠ eintr ∧ num ≠ eterm <;>
            simp [PollingServer.step, PollingServer.goOn, PollingServer.poll, ofDefault,
              DefaultServer.pass, DefaultServer.waits, DefaultServer.pollChannels,
              DefaultServer.receive, DefaultServer.notify, catchZmqError, hnum,
              LoopPoint.ofStatus, LoopPoint.returned]
      | none =>
          cases controller with
          | cons wireMsg controller =>
              obtain ⟨n, hn⟩ := goOn_read hzmq .control none
                (s := ⟨wireMsg :: controller, shell, requestStop, calls, .reading .control⟩) rfl rfl
              exact ⟨n + 2, hn.trans (ofDefault_notify hzmq .control wireMsg
                ⟨controller, shell, requestStop, calls, .polling⟩).symm⟩
          | nil =>
              cases shell with
              | nil => exact ⟨0, rfl⟩
              | cons wireMsg shell =>
                  cases requestStop with
                  | true => exact ⟨2, rfl⟩
                  | false =>
                      obtain ⟨n, hn⟩ := goOn_read hzmq .shell none
                        (s := ⟨[], wireMsg :: shell, false, calls, .reading .shell⟩) rfl rfl
                      exact ⟨n + 2, hn.trans (ofDefault_notify hzmq .shell wireMsg
                        ⟨[], shell, false, calls, .polling⟩).symm⟩

/-- Whatever the threads of the coarser loop do, those of the finer one can do. -/
theorem run_ofDefault (hzmq : NoZmqError decode) (events : List DefaultEvent) :
    ∃ events', run decode events' = ofDefault (DefaultDispatch.run decode events) ∧
      arrivals events' = DefaultDispatch.arrivals events := by
  apply run_induction (P := fun events s => ∃ events', run decode events' = ofDefault s ∧
    arrivals events' = DefaultDispatch.arrivals events)
  · exact ⟨[], rfl, rfl⟩
  · rintro events event ⟨events', hrun, harrivals⟩
    rw [DefaultDispatch.arrivals_concat]
    cases event with
    | arrive channel wireMsg =>
        refine ⟨events' ++ [.arrive channel wireMsg], ?_, ?_⟩
        · rw [run, run_concat, ← run, hrun]
          cases channel <;> rfl
        · rw [arrivals, filterMap_concat, ← arrivals, harrivals]
          rfl
    | stop =>
        refine ⟨events' ++ [.stop], ?_, ?_⟩
        · rw [run, run_concat, ← run, hrun]
          rfl
        · rw [arrivals, filterMap_concat, ← arrivals, harrivals]
          rfl
    | pass pollError =>
        obtain ⟨n, hn⟩ := pass_goOn hzmq (Runs.run (DefaultServer.step decode) .initial events)
          pollError
        refine ⟨events' ++ List.replicate n (.goOn pollError), ?_, ?_⟩
        · rw [run, run_append, ← run, hrun]
          exact hn
        · rw [arrivals, List.filterMap_append, ← arrivals, harrivals]
          simp [arrival, DefaultDispatch.arrival]

end XeusZmq.PolledLoop
