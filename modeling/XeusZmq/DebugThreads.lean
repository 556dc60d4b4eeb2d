import XeusZmq.DapClientRuns
import XeusZmq.DebuggerSession

/-!
The two threads of a debugging session: the one in `process_request_impl`, and the
client's in `start_debugger`. They meet at two pairs of sockets and in the callback of
the events.
-/

namespace XeusZmq.DebugThreads

open XeusZmq.Values
open XeusZmq.Serializer
open XeusZmq.JsonAccess
open XeusZmq.DapFraming
open XeusZmq.Commands
open XeusZmq.DapClient
open XeusZmq.Debugger (XDebugger Request startIfInitialize handle stopIfDisconnect
  processRequestImpl handleEvent continuedEvent stoppedEvent stopThreads insertThread
  eventHandler)
open XeusZmq.DebuggerSession (isSend EventRules commandName processStarted processRequestImpl_eq
  exec_stopIfDisconnect exec_stopIfDisconnect_of_ne constIndex_of_commandName)

/-- The client whose callback is `handle_event`. -/
def listening (config : Config) : Config :=
  { config with eventCallback := fun message => (exec (handleEvent message) .init).1 }

/-- What the other thread sees of what the thread of the client does. -/
def crosses : Action → Bool
  | .callback _ => true
  | .replied _ _ => true
  | _ => false

def isReply : Action → Bool
  | .replied _ _ => true
  | _ => false

/-! The two threads share the set of the stopped threads, and nothing keeps the end of a
`disconnect` from coming between two changes of one event. -/

/-- A change that the handler of an event makes to the set. -/
inductive ThreadChange
  | insert (id : Int)
  | erase (id : Int)
  | clear
  deriving DecidableEq

def ThreadChange.apply (change : ThreadChange) (s : XDebugger) : XDebugger :=
  match change with
  | .insert id => { s with stoppedThreads := insertThread id s.stoppedThreads }
  | .erase id => { s with stoppedThreads := s.stoppedThreads.erase id }
  | .clear => { s with stoppedThreads := [] }

/-- The ids that `stopped_event` reads. -/
def stoppedIds (message : Json) : Result (List Json) := do
  let body ← constIndex message (literal "body")
  let all ← constIndex body (literal "allThreadsStopped")
  if ← liftJson (getBool all) then
    let ids ← constIndex body (literal "threadList")
    return elements ids
  else
    let id ← constIndex body (literal "threadId")
    return [id]

/-- The ids before the first value that is no int. -/
def readableIds : List Json → List Int
  | [] => []
  | json :: ids =>
      match getInt json with
      | .ok id => id :: readableIds ids
      | .error _ => []

def stoppedChanges (message : Json) : List ThreadChange :=
  match stoppedIds message with
  | .ok ids => (readableIds ids).map .insert
  | .error _ => []

def continuedChange (message : Json) : Result ThreadChange := do
  let body ← constIndex message (literal "body")
  let all ← constIndex body (literal "allThreadsContinued")
  if ← liftJson (getBool all) then
    return .clear
  else
    let id ← constIndex body (literal "threadId") >>= getInt
    return .erase id

def continuedChanges (message : Json) : List ThreadChange :=
  match continuedChange message with
  | .ok change => [change]
  | .error _ => []

def eventName (message : Json) : Result Bytes := do
  let event ← constIndex message (literal "event")
  liftJson (getString event)

/-- What `handle_event` does with the set, change by change. -/
def threadChanges (message : Json) : List ThreadChange :=
  match eventName message with
  | .ok name =>
      if name = literal "continued" then continuedChanges message
      else if name = literal "stopped" then stoppedChanges message
      else []
  | .error _ => []

def applyChanges (changes : List ThreadChange) (s : XDebugger) : XDebugger :=
  changes.foldl (fun s change => change.apply s) s

theorem exec_stopThreads_state (ids : List Json) (s : XDebugger) :
    (exec (stopThreads ids) s).2 = applyChanges ((readableIds ids).map .insert) s := by
  induction ids generalizing s with
  | nil => rfl
  | cons json ids ih =>
      rw [stopThreads, List.forM_eq_forM, List.forM_cons, ← List.forM_eq_forM, ← stopThreads]
      cases hid : getInt json with
      | error f => simp [exec_bind, readableIds, hid, applyChanges]
      | ok id =>
          simp only [exec_bind, exec_fromExcept, exec_modify, ih, readableIds, hid]
          rfl

theorem exec_stoppedEvent (message : Json) (s : XDebugger) :
    exec (stoppedEvent message) s = exec (fromExcept (stoppedIds message) >>= stopThreads) s := by
  unfold stoppedEvent stoppedIds
  cases hbody : constIndex message (literal "body") with
  | error f => rfl
  | ok body =>
      cases hall : constIndex body (literal "allThreadsStopped") with
      | error f => simp [exec_bind, hall]
      | ok all =>
          rcases hbool : getBool all with e | stops
          · simp [exec_bind, hall, hbool]
          · cases stops with
            | true =>
                cases hids : constIndex body (literal "threadList") <;>
                  simp [exec_bind, hall, hbool, hids]
            | false =>
                cases hid : constIndex body (literal "threadId") with
                | error f => simp [exec_bind, hall, hbool, hid]
                | ok id =>
                    cases hint : getInt id <;>
                      simp [exec_bind, hall, hbool, hid, hint, stopThreads]

theorem exec_stoppedEvent_state (message : Json) (s : XDebugger) :
    (exec (stoppedEvent message) s).2 = applyChanges (stoppedChanges message) s := by
  rw [exec_stoppedEvent, exec_bind, exec_fromExcept, stoppedChanges]
  cases stoppedIds message with
  | error f => rfl
  | ok ids => exact exec_stopThreads_state ids s

theorem exec_continuedEvent_state (message : Json) (s : XDebugger) :
    (exec (continuedEvent message) s).2 = applyChanges (continuedChanges message) s := by
  unfold continuedEvent continuedChanges continuedChange
  simp only [exec_bind, exec_fromExcept]
  cases constIndex message (literal "body") with
  | error f => rfl
  | ok body =>
      cases hall : constIndex body (literal "allThreadsContinued") with
      | error f => simp [hall, applyChanges]
      | ok all =>
          rcases hbool : getBool all with e | continues
          · simp [hall, hbool, applyChanges]
          · cases continues with
            | true =>
                simp only [hall, hbool, liftJson_ok, ok_bind, if_true, exec_modify]
                rfl
            | false =>
                cases hindex : constIndex body (literal "threadId") with
                | error f => simp [exec_bind, hall, hbool, hindex, applyChanges]
                | ok json =>
                    cases hid : getInt json <;>
                      simp [exec_bind, hall, hbool, hindex, hid, applyChanges, ThreadChange.apply]

/-- Without anything in between, the changes are the callback. -/
theorem exec_handleEvent_state (message : Json) (s : XDebugger) :
    (exec (handleEvent message) s).2 = applyChanges (threadChanges message) s := by
  unfold handleEvent threadChanges eventName
  simp only [exec_bind, exec_fromExcept]
  cases hevent : constIndex message (literal "event") with
  | error f => rfl
  | ok event =>
      cases hname : getString event with
      | error e => simp [hname, applyChanges]
      | ok name =>
          simp only [hname, liftJson_ok, ok_bind]
          by_cases hcontinued : name = literal "continued"
          · subst hcontinued
            exact exec_continuedEvent_state message s
          · by_cases hstopped : name = literal "stopped"
            · subst hstopped
              exact exec_stoppedEvent_state message s
            · have hnone : eventHandler.lookup name = none := by
                simp [eventHandler, List.lookup_cons, List.lookup_nil, beq_false_of_ne hcontinued,
                  beq_false_of_ne hstopped]
              rw [hnone, if_neg hcontinued, if_neg hstopped]
              rfl

/-- A step of the end of a `disconnect`. -/
inductive Closing
  | stop
  | clearBreakpoints
  | clearStoppedThreads
  | reset
  deriving DecidableEq

def Closing.apply (closing : Closing) (s : XDebugger) : XDebugger :=
  match closing with
  | .stop => { s with actions := s.actions ++ [.stop] }
  | .clearBreakpoints => { s with breakpointList := [] }
  | .clearStoppedThreads => { s with stoppedThreads := [] }
  | .reset => { s with isStarted := false }

def closings (request : Request) : List Closing :=
  if commandName request = some (literal "disconnect") then
    [.stop, .clearBreakpoints, .clearStoppedThreads, .reset]
  else []

theorem exec_stopIfDisconnect_state (request : Request) (s : XDebugger) :
    (exec (stopIfDisconnect request) s).2 =
      (closings request).foldl (fun s closing => closing.apply s) s := by
  rw [closings]
  split_ifs with hcommand
  · rw [exec_stopIfDisconnect hcommand]
    rfl
  · rw [exec_stopIfDisconnect_of_ne hcommand]
    rfl

def publishedBy (actions : List Action) : List Multipart :=
  actions.filterMap fun action =>
    match action with
    | .published wireMsg => some wireMsg
    | _ => none

/-- The request in process, with the reply that it has before it is handled, and what is
still to be sent for it, and with what is left of the end of a `disconnect`; what has been
sent and not received on the two pairs of sockets; and the thread of the client, with what
it has done in its pass that the other thread has not seen, and what the handler that it is
in has still to do. The rest are records: the header whose request has been received last,
if no other header has been since; the value of `m_parent_header` when each request was
received; what has been published while which header was served; how many `disconnect`
requests have cleared the set of the stopped threads, and how many had when the loop of the
client was entered; and the events that were handed over, each with this number of the loop
that has delivered it. -/
structure DebugSystem where
  debugger : XDebugger
  current : Option (Request × Json)
  header : Json
  todo : List Debugger.Action
  closing : List Closing
  headerSocket : Option Bytes
  requestSocket : Option Bytes
  thread : Thread
  pending : List Action
  handling : List ThreadChange
  serving : Option Json
  receipts : List (Json × Bytes)
  publications : List (Option Json × Multipart)
  ended : Nat
  enteredAfter : Nat
  delivered : List (Nat × Json)

/-- `process_request_impl` is entered, sends its next message, has handled the request, or
makes the next step of the end of a `disconnect`. The client's thread enters its loop,
`zmq::poll` returns or throws in it, the next thing that it has done for the other thread
takes effect, or the handler that it is in makes its next change. -/
inductive DebugEvent
  | request (request : Request)
  | send
  | finish
  | close
  | start (stream : List StreamChunk)
  | pass (header control stream : Bool)
  | interrupted (num : Nat)
  | deliver
  | change

/-- A client that has been constructed, and whose loop has not been entered. -/
def freshClient : XDapTcpClient where
  socketId := []
  parentHeader := []
  requestStop := false
  waitAttach := false
  messageQueue := []
  stoppedQueue := []
  stream := []
  replyOwed := false
  actions := []

/-- The state behind `handle_header_socket`. -/
def withHeader (poll : Poll) (s : XDapTcpClient) : XDapTcpClient :=
  match poll.header with
  | some text => { s with parentHeader := text }
  | none => s

namespace DebugSystem

def initial : DebugSystem where
  debugger := .init
  current := none
  header := .null
  todo := []
  closing := []
  headerSocket := none
  requestSocket := none
  thread := ⟨freshClient, .left⟩
  pending := []
  handling := []
  serving := none
  receipts := []
  publications := []
  ended := 0
  enteredAfter := 0
  delivered := []

/-- Nothing is on its way, and no reply is owed: `send_recv` has returned. -/
def returned (self : DebugSystem) : Bool :=
  self.headerSocket.isNone && self.requestSocket.isNone && !self.thread.client.replyOwed &&
    !self.pending.any isReply

/-- The request holds what the calls made for it return, so that what it sends is known
when it is entered. -/
def enter (config : Debugger.Config) (request : Request) (self : DebugSystem) : DebugSystem :=
  match exec (startIfInitialize request) self.debugger with
  | (.ok reply, debugger) =>
      let finished := (exec (processStarted config request reply) debugger).2
      { self with
        debugger
        current := some (request, reply)
        header := request.header
        todo := (finished.actions.drop debugger.actions.length).filter isSend }
  | (.error _, debugger) => { self with debugger }

def send (self : DebugSystem) : DebugSystem :=
  match self.todo with
  | .header text :: todo => { self with todo, headerSocket := some text }
  | .request buffer :: todo => { self with todo, requestSocket := some buffer }
  | _ => self

/-- An exception leaves `process_request_impl`. -/
def finish (config : Debugger.Config) (self : DebugSystem) : DebugSystem :=
  match self.current with
  | some (request, reply) =>
      match exec (handle config request reply) self.debugger with
      | (.ok _, debugger) =>
          { self with debugger, current := none, closing := closings request }
      | (.error _, debugger) => { self with debugger, current := none }
  | none => self

def close (self : DebugSystem) : DebugSystem :=
  match self.closing with
  | closing :: rest =>
      { self with
        debugger := closing.apply self.debugger
        closing := rest
        ended := if closing = .clearStoppedThreads then self.ended + 1 else self.ended }
  | [] => self

/-- The handlers of events hold the mutex that `debug_info_request` takes. -/
def unlocked (self : DebugSystem) : Bool :=
  self.handling.isEmpty ||
    self.current.all fun (request, _) => commandName request != some (literal "debugInfo")

/-- The client keeps its queue and its header from one session to the next. -/
def start (config : Config) (stream : List StreamChunk) (self : DebugSystem) : DebugSystem :=
  match self.thread.status, initTcpSocket config stream with
  | .left, some (socketId, stream) =>
      let client :=
        { self.thread.client with
          socketId
          stream
          requestStop := false
          waitAttach := config.dapInitType == .parallel }
      { self with
        thread := ⟨client, .running⟩
        enteredAfter := self.ended }
  | _, _ => self

def poll (self : DebugSystem) (header control stream : Bool) : Poll where
  header := if header then self.headerSocket else none
  control := if control then self.requestSocket else none
  stream := stream

def served (self : DebugSystem) (poll : Poll) : Option Json :=
  if poll.control.isSome then some self.header
  else if poll.header.isSome then none
  else self.serving

def pass (config : Config) (poll : Poll) (self : DebugSystem) : DebugSystem :=
  let thread := self.thread.step (listening config) (.ok poll)
  let new := thread.client.actions.drop self.thread.client.actions.length
  { self with
    thread
    headerSocket := if poll.header.isSome then none else self.headerSocket
    requestSocket := if poll.control.isSome then none else self.requestSocket
    pending := new.filter crosses
    serving := self.served poll
    receipts := self.receipts ++
      poll.control.toList.map fun _ =>
        (self.header, (withHeader poll self.thread.client).parentHeader)
    publications := self.publications ++ (publishedBy new).map (self.served poll, ·) }

def deliver (self : DebugSystem) : DebugSystem :=
  match self.pending with
  | .callback message :: pending =>
      { self with
        pending
        handling := threadChanges message
        delivered := self.delivered ++ [(self.enteredAfter, message)] }
  | _ :: pending => { self with pending }
  | [] => self

def change (self : DebugSystem) : DebugSystem :=
  match self.handling with
  | change :: handling => { self with debugger := change.apply self.debugger, handling }
  | [] => self

def step (debuggerConfig : Debugger.Config) (config : Config) (self : DebugSystem) :
    DebugEvent → DebugSystem
  | .request request =>
      if self.current.isNone && self.closing.isEmpty then self.enter debuggerConfig request
      else self
  | .send => if self.returned then self.send else self
  | .finish =>
      if self.todo.isEmpty && self.returned && self.unlocked then self.finish debuggerConfig
      else self
  | .close => self.close
  | .start stream =>
      if self.pending.isEmpty && self.handling.isEmpty then self.start config stream else self
  | .pass header control stream =>
      match self.thread.status, self.pending, self.handling with
      | .running, [], [] => self.pass config (self.poll header control stream)
      | _, _, _ => self
  | .interrupted num =>
      if self.pending.isEmpty && self.handling.isEmpty then
        { self with thread := self.thread.step (listening config) (.error num) }
      else self
  | .deliver => if self.handling.isEmpty then self.deliver else self
  | .change => self.change

end DebugSystem

def run (debuggerConfig : Debugger.Config) (config : Config) :
    List DebugEvent → DebugSystem :=
  Runs.run (DebugSystem.step debuggerConfig config) .initial

/-- Without events in between, the steps are the function. -/
theorem finish_enter (config : Debugger.Config) (request : Request) (s : DebugSystem)
    (hidle : s.current = none) (hopen : s.closing = []) :
    let handled := (s.enter config request).finish config
    handled.closing.foldl (fun s closing => closing.apply s) handled.debugger =
      (exec (processRequestImpl config request) s.debugger).2 := by
  rw [processRequestImpl_eq, exec_bind, DebugSystem.enter]
  generalize exec (startIfInitialize request) s.debugger = outcome
  rcases outcome with ⟨result, debugger⟩
  cases result with
  | error e => simp [DebugSystem.finish, hidle, hopen]
  | ok reply =>
      simp only [DebugSystem.finish, processStarted, exec_bind]
      generalize exec (handle config request reply) debugger = outcome
      rcases outcome with ⟨result, debugger⟩
      cases result with
      | error e => simp [hopen]
      | ok reply =>
          simp only [← exec_stopIfDisconnect_state]
          generalize exec (stopIfDisconnect request) debugger = outcome
          rcases outcome with ⟨result, debugger⟩
          cases result <;> rfl

/-- What the command returns does not depend on the state. -/
def Oblivious {α : Type} (c : Command XDebugger Failure α) : Prop :=
  ∀ s s', (exec c s).1 = (exec c s').1

theorem eventRules_oblivious : EventRules fun {_} c => Oblivious c where
  fromExcept _ _ _ := rfl
  threads _ _ _ := rfl
  bind {_ _ c f} hc hf s s' := by
    have hresult := hc s s'
    rw [exec_bind, exec_bind]
    generalize exec c s = outcome at hresult ⊢
    generalize exec c s' = outcome' at hresult ⊢
    rcases outcome with ⟨result, t⟩
    rcases outcome' with ⟨result', t'⟩
    obtain rfl : result = result' := hresult
    cases result with
    | ok a => exact hf a t t'
    | error e => rfl

/-- The callback tells the client what `handle_event` tells it in any state. -/
theorem eventCallback_listening (config : Config) (message : Json) (s : XDebugger) :
    (listening config).eventCallback message = (exec (handleEvent message) s).1 :=
  eventRules_oblivious.handleEvent message .init s

end XeusZmq.DebugThreads
