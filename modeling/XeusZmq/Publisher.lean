import XeusZmq.ServerLoops
import XeusZmq.FifoPort

/-!
The publisher thread. Steps of the thread interleave with those of the threads
that publish, of the one that stops the channels, and of the peers.
-/

namespace XeusZmq.Publisher

open XeusZmq.Values
open XeusZmq.ServerLoops
open XeusZmq.FifoPort

/-- A message sent to the internal publisher endpoint. The flag tells whether
it was sent before any stop request; no step looks at it. -/
structure Published where
  wireMsg : Multipart
  early : Bool
  deriving DecidableEq, Repr

/-- What the publisher sends on its public socket: a message received from an
internal pipe, or the welcome to a subscription. -/
inductive Sent
  | forwarded (pipe : Nat) (message : Published)
  | welcome (topic : Bytes) (wireMsg : Multipart)
  deriving DecidableEq, Repr

inductive PublisherStatus
  | running
  | left
  | failed (f : Failure)
  deriving DecidableEq, Repr

/-- The callback that the server passes, and the headers that successive calls
of `xeus::make_header` return. -/
structure Config where
  serializeIopubMsgCb : Option (XPubMessage → Result Multipart)
  makeHeader : Nat → Json

/-- The messages that wait on the three sockets of `xpublisher`, and those sent
on two of them. Each thread that publishes has a pipe of its own. -/
structure XPublisher where
  listener : List (Nat × Published)
  controller : List Multipart
  peers : List Multipart
  sent : List Sent
  replies : List Multipart
  stopSent : Bool
  status : PublisherStatus

/-- Sockets that `zmq::poll` reports as readable; what it does not report may
have become readable since. -/
structure Ready where
  listener : Bool
  controller : Bool
  publisher : Bool

/-- The step `pass` is one iteration of the publisher thread, in which `recv`
prefers the given pipe among those with a message. -/
inductive Event
  | publish (pipe : Nat) (wireMsg : Multipart)
  | requestStop (stopMsg : Multipart)
  | peer (wireMsg : Multipart)
  | pass (pollError : Option Nat) (ready : Ready) (pipe : Nat)

def createXpubMessage (header : Json) (topic : Bytes) : XPubMessage where
  topic := []
  data :=
    { header
      parentHeader := .object []
      metadata := .object []
      content := .object [(literal "subscription", .string topic)]
      buffers := [] }

def Config.welcomeMessage (config : Config) (call : Nat) (topic : Bytes) : Result Multipart :=
  match config.serializeIopubMsgCb with
  | none => .error (.exception (.runtimeError "ERROR: IOPUB serialization callback not set"))
  | some serialize => serialize (createXpubMessage (config.makeHeader call) topic)

namespace XPublisher

def initial : XPublisher :=
  ⟨[], [], [], [], [], false, .running⟩

/-- The next message of the pipe, or of the first pipe that has one. -/
def receive (pipe : Nat) (listener : List (Nat × Published)) :
    Option (Nat × Published × List (Nat × Published)) :=
  match takeFrom pipe listener, listener with
  | some (message, rest), _ => some (pipe, message, rest)
  | none, (pipe, message) :: rest => some (pipe, message, rest)
  | none, [] => none

def forward (pipe : Nat) (self : XPublisher) : XPublisher :=
  match receive pipe self.listener with
  | some (pipe, message, listener) =>
      { self with listener, sent := self.sent ++ [.forwarded pipe message] }
  | none => self

def answer (self : XPublisher) : XPublisher :=
  match self.controller with
  | [] => self
  | stopMsg :: controller =>
      { self with controller, replies := self.replies ++ [stopMsg], status := .left }

def welcome (config : Config) (topic : Bytes) (self : XPublisher) : XPublisher :=
  match config.welcomeMessage self.sent.length topic with
  | .error f => { self with status := .failed f }
  | .ok wireMsg => { self with sent := self.sent ++ [.welcome topic wireMsg] }

/-- The topic of a message that is a subscription event. Any other message is
ignored, unsubscriptions included. -/
def subscription : Multipart → Option Bytes
  | [1 :: topic] => some topic
  | _ => none

def servePeer (config : Config) (self : XPublisher) : XPublisher :=
  match self.peers with
  | [] => self
  | wireMsg :: peers =>
      let self := { self with peers }
      match subscription wireMsg with
      | some topic => self.welcome config topic
      | none => self

def pass (config : Config) (pollError : Option Nat) (ready : Ready) (pipe : Nat)
    (self : XPublisher) : XPublisher :=
  match self.status, pollError with
  | .running, some num =>
      if num = eintr then self
      else if num = eterm then { self with status := .left }
      else { self with status := .failed (.exception (.zmqError num)) }
  | .running, none =>
      let self := if ready.listener then self.forward pipe else self
      if ready.controller && !self.controller.isEmpty then self.answer
      else if ready.publisher then self.servePeer config
      else self
  | _, _ => self

def step (config : Config) (self : XPublisher) : Event → XPublisher
  | .publish pipe wireMsg =>
      { self with listener := self.listener ++ [(pipe, ⟨wireMsg, !self.stopSent⟩)] }
  | .requestStop stopMsg =>
      { self with controller := self.controller ++ [stopMsg], stopSent := true }
  | .peer wireMsg => { self with peers := self.peers ++ [wireMsg] }
  | .pass pollError ready pipe => self.pass config pollError ready pipe

end XPublisher

end XeusZmq.Publisher
