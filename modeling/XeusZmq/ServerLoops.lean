import XeusZmq.Values

/-!
The loops that receive requests: that of the default server, and those of the
control and shell runners of the split server. A step is taken by a thread of
the server or by what surrounds it, so that a run is any interleaving of the two.
-/

namespace XeusZmq.ServerLoops

open XeusZmq.Values

def eintr : Nat := 4

def eterm : Nat := 156384765

/-- Where the thread of a loop stands: before the test of the loop, in its
body, behind the loop, or ended by an exception. -/
inductive LoopStatus
  | checking
  | polling
  | left
  | failed (f : Failure)
  deriving DecidableEq, Repr

/-- The `catch (const zmq::error_t& e)` clause of the two `poll_channels`. -/
def catchZmqError {α : Type} : Result (Option α) → Result (Option α)
  | .error (.exception (.zmqError num)) =>
      if num ≠ eintr ∧ num ≠ eterm then .error (.exception (.zmqError num)) else .ok none
  | result => result

/-- The `catch (std::exception& e)` clause of `xserver_zmq_split_impl::deserialize`. -/
def catchStdException {α : Type} : Result α → Result (Option α)
  | .ok a => .ok (some a)
  | .error (.exception _) => .ok none
  | .error (.undefined u) => .error (.undefined u)

/-- The default server: the messages that wait on its two sockets, the calls
made of its listeners so far, and its thread. -/
structure DefaultServer where
  controller : List Multipart
  shell : List Multipart
  requestStop : Bool
  calls : List (Channel × XMessage)
  status : LoopStatus

/-- The step `pass` is one of the server thread, whose next `zmq::poll` may fail. -/
inductive DefaultEvent
  | arrive (channel : Channel) (wireMsg : Multipart)
  | stop
  | pass (pollError : Option Nat)

namespace DefaultServer

def initial : DefaultServer :=
  ⟨[], [], false, [], .checking⟩

def pending (self : DefaultServer) : Channel → List Multipart
  | .shell => self.shell
  | .control => self.controller

def setPending (self : DefaultServer) : Channel → List Multipart → DefaultServer
  | .shell, shell => { self with shell }
  | .control, controller => { self with controller }

def receive (decode : Multipart → Result XMessage) (pollError : Option Nat)
    (self : DefaultServer) : Result (Option (XMessage × Channel)) × DefaultServer :=
  match pollError, self.controller, self.shell with
  | some num, _, _ => (.error (.exception (.zmqError num)), self)
  | none, wireMsg :: controller, _ =>
      ((decode wireMsg).map fun msg => some (msg, .control), { self with controller })
  | none, [], wireMsg :: shell =>
      if self.requestStop then (.ok none, self)
      else ((decode wireMsg).map fun msg => some (msg, .shell), { self with shell })
  | none, [], [] => (.ok none, self)

def pollChannels (decode : Multipart → Result XMessage) (pollError : Option Nat)
    (self : DefaultServer) : Result (Option (XMessage × Channel)) × DefaultServer :=
  let (result, self) := self.receive decode pollError
  (catchZmqError result, self)

def notifyListener (self : DefaultServer) (channel : Channel) (msg : XMessage) :
    DefaultServer :=
  { self with calls := self.calls ++ [(channel, msg)] }

/-- `zmq::poll` without a timeout returns when there is something to read. -/
def waits (pollError : Option Nat) (self : DefaultServer) : Bool :=
  pollError.isNone && self.controller.isEmpty && self.shell.isEmpty

/-- What `start_impl` does with the result of `poll_channels`. -/
def notify (result : Result (Option (XMessage × Channel))) (self : DefaultServer) :
    DefaultServer :=
  match result with
  | .error f => { self with status := .failed f }
  | .ok none => { self with status := .checking }
  | .ok (some (msg, channel)) => { self.notifyListener channel msg with status := .checking }

/-- The loop of `start_impl`. -/
def pass (decode : Multipart → Result XMessage) (pollError : Option Nat)
    (self : DefaultServer) : DefaultServer :=
  match self.status with
  | .checking => { self with status := if self.requestStop then .left else .polling }
  | .polling =>
      if self.waits pollError then self
      else
        let (result, self) := self.pollChannels decode pollError
        self.notify result
  | .left => self
  | .failed _ => self

def arrive (self : DefaultServer) (channel : Channel) (wireMsg : Multipart) :
    DefaultServer :=
  self.setPending channel (self.pending channel ++ [wireMsg])

def step (decode : Multipart → Result XMessage) (self : DefaultServer) :
    DefaultEvent → DefaultServer
  | .arrive channel wireMsg => self.arrive channel wireMsg
  | .stop => { self with requestStop := true }
  | .pass pollError => self.pass decode pollError

end DefaultServer

/-- The split server with its two runners, whose threads share nothing but the
list of calls that the model keeps. The shell runner also has a controller
socket, on which the control thread sends it requests. -/
structure SplitServer where
  control : List Multipart
  shell : List Multipart
  shellController : List Bytes
  requestStop : Bool
  calls : List (Channel × XMessage)
  replies : List Bytes
  controlStatus : LoopStatus
  shellStatus : LoopStatus

inductive SplitEvent
  | arrive (channel : Channel) (wireMsg : Multipart)
  | request (message : Bytes)
  | stop
  | controlPass
  | shellPass (pollError : Option Nat)

namespace SplitServer

def initial : SplitServer :=
  ⟨[], [], [], false, [], [], .checking, .polling⟩

def pending (self : SplitServer) : Channel → List Multipart
  | .shell => self.shell
  | .control => self.control

def setPending (self : SplitServer) : Channel → List Multipart → SplitServer
  | .shell, shell => { self with shell }
  | .control, control => { self with control }

def status (self : SplitServer) : Channel → LoopStatus
  | .shell => self.shellStatus
  | .control => self.controlStatus

def deserialize (decode : Multipart → Result XMessage) (wireMsg : Multipart) :
    Result (Option XMessage) :=
  catchStdException (decode wireMsg)

def notifyListener (self : SplitServer) (channel : Channel) (msg : XMessage) : SplitServer :=
  { self with calls := self.calls ++ [(channel, msg)] }

/-- The loop of `xcontrol_default_runner::run_impl`. -/
def controlPass (decode : Multipart → Result XMessage) (self : SplitServer) : SplitServer :=
  match self.controlStatus, self.control with
  | .checking, _ => { self with controlStatus := if self.requestStop then .left else .polling }
  | .polling, [] => self
  | .polling, wireMsg :: control =>
      let self := { self with control }
      match deserialize decode wireMsg with
      | .error f => { self with controlStatus := .failed f }
      | .ok none => { self with controlStatus := .checking }
      | .ok (some msg) => { self.notifyListener .control msg with controlStatus := .checking }
  | .left, _ => self
  | .failed _, _ => self

/-- `xshell::poll_channels`, which waits while there is nothing to read. -/
def pollShellChannels (pollError : Option Nat) (self : SplitServer) :
    Result (Option Channel) :=
  match pollError, self.shell, self.shellController with
  | some num, _, _ => catchZmqError (.error (.exception (.zmqError num)))
  | none, _ :: _, _ => .ok (some .shell)
  | none, [], _ :: _ => .ok (some .control)
  | none, [], [] => .ok none

def readShell (decode : Multipart → Result XMessage) (self : SplitServer) : SplitServer :=
  match self.shell with
  | [] => self
  | wireMsg :: shell =>
      let self := { self with shell }
      match deserialize decode wireMsg with
      | .error f => { self with shellStatus := .failed f }
      | .ok none => self
      | .ok (some msg) => self.notifyListener .shell msg

def readController (internalListener : Bytes → Bytes) (self : SplitServer) : SplitServer :=
  match self.shellController with
  | [] => self
  | val :: shellController =>
      let self := { self with shellController }
      if val = literal "stop" then
        { self with replies := self.replies ++ [val], shellStatus := .left }
      else { self with replies := self.replies ++ [internalListener val] }

/-- The loop of `xshell_default_runner::run_impl`. -/
def shellPass (decode : Multipart → Result XMessage) (internalListener : Bytes → Bytes)
    (pollError : Option Nat) (self : SplitServer) : SplitServer :=
  match self.shellStatus with
  | .polling =>
      match self.pollShellChannels pollError with
      | .error f => { self with shellStatus := .failed f }
      | .ok none => self
      | .ok (some .shell) => self.readShell decode
      | .ok (some .control) => self.readController internalListener
  | _ => self

def arrive (self : SplitServer) (channel : Channel) (wireMsg : Multipart) : SplitServer :=
  self.setPending channel (self.pending channel ++ [wireMsg])

def step (decode : Multipart → Result XMessage) (internalListener : Bytes → Bytes)
    (self : SplitServer) : SplitEvent → SplitServer
  | .arrive channel wireMsg => self.arrive channel wireMsg
  | .request message => { self with shellController := self.shellController ++ [message] }
  | .stop => { self with requestStop := true }
  | .controlPass => self.controlPass decode
  | .shellPass pollError => self.shellPass decode internalListener pollError

end SplitServer

def decoded (decode : Multipart → Result XMessage) (wireMsg : Multipart) : Option XMessage :=
  (decode wireMsg).toOption

theorem decoded_of_ok {decode : Multipart → Result XMessage} {wireMsg : Multipart}
    {msg : XMessage} (h : decode wireMsg = .ok msg) : decoded decode wireMsg = some msg := by
  rw [decoded, h]
  rfl

theorem decoded_of_error {decode : Multipart → Result XMessage} {wireMsg : Multipart}
    {f : Failure} (h : decode wireMsg = .error f) : decoded decode wireMsg = none := by
  rw [decoded, h]
  rfl

/-- A `poll` error that both `poll_channels` throw on. -/
def Fatal (pollError : Option Nat) : Prop :=
  ∃ num, pollError = some num ∧ num ≠ eintr ∧ num ≠ eterm

end XeusZmq.ServerLoops
