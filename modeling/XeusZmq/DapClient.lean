import XeusZmq.Commands
import XeusZmq.DapFraming
import XeusZmq.HeartbeatClient
import XeusZmq.JsonAccess
import XeusZmq.Serializer
import XeusZmq.ServerLoops

/-!
`xdap_tcp_client_impl`: the thread between the frontend, on two `REP` sockets, and
the debugger, on a stream socket. The event handler of the derived class passes
every event to `forward_event`.
-/

namespace XeusZmq.DapClient

open XeusZmq.Values
open XeusZmq.Authentication
open XeusZmq.Serializer
open XeusZmq.JsonAccess
open XeusZmq.DapFraming
open XeusZmq.Commands
open XeusZmq.ServerLoops
open XeusZmq.HeartbeatClient (efsm)

inductive DapTcpType
  | client
  | server
  deriving DecidableEq, Repr

inductive DapInitType
  | sequential
  | parallel
  deriving DecidableEq, Repr

/-- What the client is built with, and what the libraries provide. `header` is the
header that xeus makes for a `debug_event`. -/
structure Config where
  json : JsonLibrary
  auth : XAuthentication
  dapTcpType : DapTcpType
  dapInitType : DapInitType
  routingId : Bytes
  header : Json
  eventCallback : Json → Result PUnit

/-- What the thread has done. `answered` is the message that it took as the response
to a request of its own. -/
inductive Action
  | received (messages : List Bytes)
  | accepted (request : Bytes)
  | forwarded (request : Bytes) (frames : List Bytes)
  | issued (request : Json) (frames : List Bytes)
  | answered (response : Json)
  | replied (message : Json) (text : Bytes)
  | handled (event : Json)
  | callback (event : Json)
  | published (wireMsg : Multipart)

/-- `stream` is what the stream socket delivers from now on. A reply is owed when a
request has been received on `m_controller` and not been answered. -/
structure XDapTcpClient where
  socketId : Bytes
  parentHeader : Bytes
  requestStop : Bool
  waitAttach : Bool
  messageQueue : List Bytes
  stoppedQueue : List Bytes
  stream : List StreamChunk
  replyOwed : Bool
  actions : List Action

/-- Why the thread does not get on: the reader of the stream does not return, or an
exception leaves `start_debugger`. -/
inductive Halt
  | reading (stop : Stop)
  | failed (f : Failure)

abbrev Client := Command XDapTcpClient Halt

def throwing {α : Type} : Result α → Client α
  | .ok a => pure a
  | .error f => throw (.failed f)

@[simp] theorem exec_throwing_ok {α : Type} (a : α) (s : XDapTcpClient) :
    exec (throwing (.ok a)) s = (.ok a, s) := rfl

@[simp] theorem exec_throwing_error {α : Type} (f : Failure) (s : XDapTcpClient) :
    exec (throwing (.error f) : Client α) s = (.error (.failed f), s) := rfl

def record (action : Action) : Client PUnit :=
  modify fun s => { s with actions := s.actions ++ [action] }

@[simp] theorem exec_record (action : Action) (s : XDapTcpClient) :
    exec (record action) s = (.ok ⟨⟩, { s with actions := s.actions ++ [action] }) := rfl

/-- The messages that one call of `handle_tcp_socket` puts into its queue. -/
def receive : Client (List Bytes × Except Stop (List StreamChunk)) := do
  let s ← get
  let (messages, result) := handleTcpSocket s.stream []
  record (.received messages)
  return (messages, result)

def leaveStream : Except Stop (List StreamChunk) → Client PUnit
  | .ok stream => modify fun s => { s with stream := stream }
  | .error stop => throw (.reading stop)

def receiveMessages : Client PUnit := do
  let (messages, result) ← receive
  modify fun s => { s with messageQueue := s.messageQueue ++ messages }
  leaveStream result

def receiveStopped : Client PUnit := do
  let (messages, result) ← receive
  modify fun s => { s with stoppedQueue := s.stoppedQueue ++ messages }
  leaveStream result

abbrev MessageCondition := Json → Result Bool

/-- `std::find_if` over the queue, with what `erase` leaves of it. -/
def findMessage (json : JsonLibrary) (condition : MessageCondition) :
    List Bytes → Result (Option (Json × List Bytes))
  | [] => return none
  | rawMessage :: queue => do
      let message ← liftJson (json.parse rawMessage)
      if ← condition message then
        return some (message, queue)
      else
        let found ← findMessage json condition queue
        return found.map fun found => (found.1, rawMessage :: found.2)

/-- The inner loop of `wait_for_message` over what is left of the stopped queue. -/
def sortStopped (json : JsonLibrary) (condition : MessageCondition) :
    List Bytes → Option Json → Client (Option Json)
  | [], found => return found
  | rawMessage :: queue, found => do
      let message ← throwing (liftJson (json.parse rawMessage))
      let found ← if ← throwing (condition message) then pure (some message)
        else do
          modify fun s => { s with messageQueue := s.messageQueue ++ [rawMessage] }
          pure found
      modify fun s => { s with stoppedQueue := queue }
      sortStopped json condition queue found

/-- The outer loop. Every call of `handle_tcp_socket` that returns has read a chunk. -/
def awaitMessage (json : JsonLibrary) (condition : MessageCondition) : Nat → Client Json
  | 0 => throw (.reading .exhausted)
  | fuel + 1 => do
      receiveStopped
      let found ← sortStopped json condition (← get).stoppedQueue none
      match found with
      | some message => return message
      | none => awaitMessage json condition fuel

def waitForMessage (json : JsonLibrary) (condition : MessageCondition) : Client Json := do
  let s ← get
  let found ← throwing (findMessage json condition s.messageQueue)
  match found with
  | some (message, queue) => do
      modify fun s => { s with messageQueue := queue }
      return message
  | none => awaitMessage json condition (s.stream.length + 1)

def memberIs (message : Json) (key text : String) : Result Bool := do
  let value ← constIndex message (literal key)
  return isText value (literal text)

def namesThreads (message : Json) : Bool :=
  match findMember message (literal "command") with
  | some command => isText command (literal "threads")
  | none => false

def isThreads : MessageCondition := fun message =>
  .ok (namesThreads message)

def isInitialized : MessageCondition := fun message => do
  if ← memberIs message "type" "event" then memberIs message "event" "initialized"
  else return false

def isResponseTo (command : String) : MessageCondition := fun message => do
  if ← memberIs message "type" "response" then memberIs message "command" command
  else return false

def dapRequest (command : String) (seq : Int) : Json :=
  .object [(literal "command", .string (literal command)), (literal "seq", .integer seq),
    (literal "type", .string (literal "request"))]

/-- `message["seq"].get<int>() + 1`. -/
def nextSeq (message : Json) : Result Int := do
  let value ← liftJson (index message (literal "seq"))
  let seq ← getInt value
  checkedAdd seq 1

def sendDapRequest (config : Config) (message : Json) : Client PUnit := do
  let s ← get
  let frames ← throwing (DapFraming.sendDapRequest config.json s.socketId message)
  record (.issued message frames)

def eventCallback (config : Config) (message : Json) : Client PUnit := do
  record (.callback message)
  throwing (config.eventCallback message)

/-- The test of `forward_event`, which inserts the members that it does not find. -/
def stopsAllThreads (message : Json) : Except JsonException (Bool × Json) := do
  let (type, message) ← readAt [.key (literal "type")] message
  if isText type (literal "event") then
    let (event, message) ← readAt [.key (literal "event")] message
    if isText event (literal "stopped") then
      let (all, message) ←
        readAt [.key (literal "body"), .key (literal "allThreadsStopped")] message
      let all ← getBool all
      return (all, message)
    else
      return (false, message)
  else
    return (false, message)

/-- The message with the ids of the threads that the response lists. -/
def addThreadList (message rep : Json) : Except JsonException Json := do
  let (threads, _) ← readAt [.key (literal "body"), .key (literal "threads")] rep
  let ids ← (elements threads).mapM fun thread => index thread (literal "id")
  assignAt [.key (literal "body"), .key (literal "threadList")] (.array ids) message

def publication (config : Config) (parentHeader : Bytes) (message : Json) :
    Result Multipart := do
  let parentHeader ← if parentHeader = [] then pure (.object [])
    else liftJson (config.json.parse parentHeader)
  serializeIopub config.json config.auth .strict
    ⟨literal "debug_event", ⟨config.header, parentHeader, .object [], message, []⟩⟩

def publish (config : Config) (message : Json) : Client PUnit := do
  let s ← get
  let wireMsg ← throwing (publication config s.parentHeader message)
  record (.published wireMsg)

def announceStop (config : Config) (message : Json) : Client PUnit := do
  let seq ← throwing (nextSeq message)
  sendDapRequest config (dapRequest "threads" seq)
  let rep ← waitForMessage config.json isThreads
  record (.answered rep)
  let newMessage ← throwing (liftJson (addThreadList message rep))
  eventCallback config newMessage

def forwardEvent (config : Config) (message : Json) : Client PUnit := do
  let (stopped, message) ← throwing (liftJson (stopsAllThreads message))
  if stopped then announceStop config message else eventCallback config message
  publish config message

/-- `m_controller.send`, which a `REP` socket refuses unless a reply is owed. -/
def sendReply (message : Json) (text : Bytes) : Client PUnit := do
  let s ← get
  if s.replyOwed then
    modify fun s =>
      { s with replyOwed := false, actions := s.actions ++ [.replied message text] }
  else
    throw (.failed (.exception (.zmqError efsm)))

def popFront : Client PUnit := do
  let s ← get
  match s.messageQueue with
  | [] => throw (.failed (.undefined .popEmpty))
  | _ :: queue => modify fun s => { s with messageQueue := queue }

/-- The body of the loop of `process_message_queue`. -/
def processMessage (config : Config) (rawMessage : Bytes) : Client PUnit := do
  let message ← throwing (liftJson (config.json.parse rawMessage))
  let (type, event) ← throwing (liftJson (readAt [.key (literal "type")] message))
  if isText type (literal "event") then
    record (.handled message)
    forwardEvent config event
  else
    let (command, _) ← throwing (liftJson (readAt [.key (literal "command")] event))
    if isText command (literal "disconnect") then
      modify fun s => { s with requestStop := true }
    sendReply message rawMessage
  popFront

def processMessages (config : Config) : Nat → Client PUnit
  | 0 => throw (.reading .exhausted)
  | fuel + 1 => do
      match (← get).messageQueue with
      | [] => return ()
      | rawMessage :: _ => do
          processMessage config rawMessage
          processMessages config fuel

/-- Each pass takes a message from the queue, and each message that it adds has been
read from the stream. -/
def processMessageQueue (config : Config) : Client PUnit := do
  let s ← get
  processMessages config (s.messageQueue.length + (contents s.stream).length + 1)

def handleInitSequence (config : Config) : Client PUnit := do
  let initialized ← waitForMessage config.json isInitialized
  let seq ← throwing (nextSeq initialized)
  sendDapRequest config (dapRequest "configurationDone" seq)
  let configResponse ← waitForMessage config.json (isResponseTo "configurationDone")
  record (.answered configResponse)
  let attachResponse ← waitForMessage config.json (isResponseTo "attach")
  forwardEvent config initialized
  let rawResponse ← throwing (liftJson (config.json.dump .strict attachResponse))
  sendReply attachResponse rawResponse

def handleHeaderSocket (message : Bytes) : Client PUnit :=
  modify fun s => { s with parentHeader := message }

def acceptRequest (message : Bytes) : Client PUnit :=
  modify fun s =>
    { s with replyOwed := true, actions := s.actions ++ [.accepted message] }

def handleControlSocket (config : Config) (message : Bytes) : Client PUnit := do
  acceptRequest message
  let s ← get
  let outcome := DapFraming.handleControlSocket config.json s.socketId s.waitAttach message
  if outcome.sent ≠ [] then
    record (.forwarded message outcome.sent)
  if ← throwing outcome.attached then
    handleInitSequence config
    modify fun s => { s with waitAttach := false }

/-- What `zmq::poll` reports: the messages that wait on the two controller sockets,
and whether the stream socket can be read. -/
structure Poll where
  header : Option Bytes
  control : Option Bytes
  stream : Bool

def handleSockets (config : Config) (poll : Poll) : Client PUnit := do
  match poll.header with
  | some message => handleHeaderSocket message
  | none => pure ()
  match poll.control with
  | some message => handleControlSocket config message
  | none => pure ()

/-- One pass of the loop of `start_debugger` in which `zmq::poll` returns. -/
def pass (config : Config) (poll : Poll) : Client PUnit := do
  handleSockets config poll
  if poll.stream then
    receiveMessages
  processMessageQueue config

inductive Status
  | running
  | left
  | halted (halt : Halt)

structure Thread where
  client : XDapTcpClient
  status : Status

/-- One pass of the loop, in which `zmq::poll` returns or throws. -/
def Thread.step (config : Config) (t : Thread) (polled : Except Nat Poll) : Thread :=
  match t.status, polled with
  | .running, .ok poll =>
      match exec (pass config poll) t.client with
      | (.ok _, client) => ⟨client, if client.requestStop then .left else .running⟩
      | (.error halt, client) => ⟨client, .halted halt⟩
  | .running, .error num =>
      if num = eintr then t
      else if num = eterm then ⟨t.client, .left⟩
      else ⟨t.client, .halted (.failed (.exception (.zmqError num)))⟩
  | _, _ => t

/-- The identity of the debugger, and what the stream socket delivers after the
connection notice that the server branch waits for. -/
def initTcpSocket (config : Config) (stream : List StreamChunk) :
    Option (Bytes × List StreamChunk) :=
  match config.dapTcpType, stream with
  | .client, stream => some (config.routingId, stream)
  | .server, chunk :: stream => some (chunk.identity, stream)
  | .server, [] => none

/-- The thread when it enters the loop. -/
def startDebugger (config : Config) (stream : List StreamChunk) : Option Thread := do
  let (socketId, stream) ← initTcpSocket config stream
  return {
    status := .running
    client := {
      socketId
      parentHeader := []
      requestStop := false
      waitAttach := config.dapInitType == .parallel
      messageQueue := []
      stoppedQueue := []
      stream
      replyOwed := false
      actions := [] } }

end XeusZmq.DapClient
