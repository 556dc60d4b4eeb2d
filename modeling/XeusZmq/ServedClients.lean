import XeusZmq.RemoteCallProgress
import XeusZmq.SplitDispatch

/-!
The two server families with clients around them.
-/

namespace XeusZmq.ServedClients

open XeusZmq.Values
open XeusZmq.Authentication
open XeusZmq.Serializer
open XeusZmq.WireRoundTrip
open XeusZmq.ServerLoops
open XeusZmq.FifoPort
open XeusZmq.DefaultDispatch (NoZmqError)
open XeusZmq.RemoteCalls
open XeusZmq.RemoteCallRuns
open XeusZmq.RemoteCallProgress

section Families

variable {decode : Multipart → Result XMessage}

/-- `xserver_zmq_default`. An exception of a listener leaves `start_impl`. -/
def defaultServer (hzmq : NoZmqError decode) : Server decode DefaultServer (Option Nat) where
  initial := .initial
  ports := DefaultDispatch.ports
  arrive := DefaultServer.arrive
  pass s pollError := s.pass decode pollError
  stop s := { s with requestStop := true }
  throws s _ f := { s with status := .failed f }
  ports_initial := by
    simp only [DefaultDispatch.ports, Ports.initial, Ports.mk.injEq]
    refine ⟨funext fun channel => ?_, rfl⟩
    cases channel <;> rfl
  ports_arrive s channel wireMsg := by
    rw [DefaultServer.arrive, DefaultDispatch.ports, DefaultDispatch.pending_setPending,
      DefaultDispatch.calls_setPending]
    rfl
  ports_pass s pollError := DefaultDispatch.ports_passed (DefaultDispatch.pass_passed hzmq _ s)
  ports_stop _ := rfl
  ports_throws _ _ _ := rfl

/-- The steps of the two threads of a split server, and the requests that the control
thread sends to the shell thread. -/
inductive SplitStep
  | request (message : Bytes)
  | control
  | shell (pollError : Option Nat)

def SplitStep.event : SplitStep → SplitEvent
  | .request message => .request message
  | .control => .controlPass
  | .shell pollError => .shellPass pollError

def throwIn (s : SplitServer) (channel : Channel) (f : Failure) : SplitServer :=
  match channel with
  | .shell => { s with shellStatus := .failed f }
  | .control => { s with controlStatus := .failed f }

/-- `xserver_zmq_split` with its two default runners. An exception of a listener leaves
the loop of the runner that has called it. -/
def splitServer (decode : Multipart → Result XMessage) (internalListener : Bytes → Bytes) :
    Server decode SplitServer SplitStep where
  initial := .initial
  ports := SplitDispatch.ports
  arrive := SplitServer.arrive
  pass s kind := s.step decode internalListener kind.event
  stop s := { s with requestStop := true }
  throws := throwIn
  ports_initial := by
    simp only [SplitDispatch.ports, Ports.initial, Ports.mk.injEq]
    refine ⟨funext fun channel => ?_, rfl⟩
    cases channel <;> rfl
  ports_arrive s channel wireMsg := by
    rw [SplitServer.arrive, SplitDispatch.ports, SplitDispatch.pending_setPending]
    cases channel <;> rfl
  ports_pass s kind := by
    have hstep := @SplitDispatch.step_ports decode internalListener s kind.event
    cases kind <;> exact hstep
  ports_stop _ := rfl
  ports_throws s channel f := by cases channel <;> rfl

/-- The control thread does not ask the shell thread to stop, and `poll` does not fail. -/
def SplitStep.Benign : SplitStep → Prop
  | .request message => message ≠ literal "stop"
  | .control => True
  | .shell pollError => ¬ Fatal pollError

end Families

/-- For the clients of either server, whatever the order of all steps: each request is
passed to a listener once and in order, and each client gets back what the listeners send
in reply to its own requests, once and in order, and nothing else, unless the socket of the
server drops it because as many messages as the mark are on their way to that client. -/
theorem clients_conserve (session : Session) (listener : Listener) (water : HighWater Line)
    (hreplies : Replies listener) :
    (∀ events, Deliverable events →
      Conserves session (defaultServer session.noZmqError) listener water events
        (Network.run session (defaultServer session.noZmqError) listener water events)) ∧
    (∀ internalListener events, Deliverable events →
      Conserves session (splitServer session.decode internalListener) listener water events
        (Network.run session (splitServer session.decode internalListener) listener water
          events)) :=
  ⟨fun _ hids => run_conserves hreplies hids, fun _ _ hids => run_conserves hreplies hids⟩

/-- A session in which every part of a message is the empty object. -/
def emptyObjectSession : Session where
  json := emptyObjectLibrary
  auth := noXAuthentication
  clientHandler := .strict
  serverHandler := .strict
  parsesDumps := emptyObjectLibrary_parsesDumps
  made := noXAuthentication_made

def emptyObjects : XMessageBaseData :=
  ⟨.object [], .object [], .object [], .object [], []⟩

/-- One reply to each request. -/
def acknowledge : Listener := fun _ call =>
  [.send call.1 ⟨call.2.identities, emptyObjects⟩]

theorem acknowledge_replies : Replies acknowledge := by
  intro past call channel msg hmem
  obtain ⟨rfl, rfl⟩ := Action.send.inj (List.mem_singleton.mp hmem)
  exact ⟨rfl, rfl⟩

def firstPeer : RoutingId :=
  ⟨[0, 0, 0, 0, 1], by decide⟩

def secondPeer : RoutingId :=
  ⟨[0, 0, 0, 0, 2], by decide⟩

/-- The request of the second client overtakes those of the first. -/
def twoClients : List (Event (Option Nat)) :=
  [.send (.shell, firstPeer) ⟨[], emptyObjects⟩, .send (.shell, firstPeer) ⟨[], emptyObjects⟩,
    .send (.shell, secondPeer) ⟨[], emptyObjects⟩, .deliver (.shell, secondPeer),
    .deliver (.shell, firstPeer), .deliver (.shell, firstPeer), .pass none, .pass none,
    .pass none, .pass none, .pass none, .pass none, .receive (.shell, secondPeer)]

/-- The socket of the server has room for one message for each client. -/
def oneEach : HighWater Line :=
  ⟨1, fun _ _ => true⟩

theorem twoClients_deliverable : Deliverable twoClients := by
  intro line msg hmem
  simp only [twoClients, List.mem_cons, Event.send.injEq, reduceCtorEq, List.not_mem_nil,
    or_false] at hmem
  rcases hmem with ⟨-, rfl⟩ | ⟨-, rfl⟩ | ⟨-, rfl⟩ <;>
    exact fun id hid => absurd hid List.not_mem_nil

theorem clients_conserve_twoClients :
    let server := defaultServer emptyObjectSession.noZmqError
    let s := Network.run emptyObjectSession server acknowledge oneEach twoClients
    Conserves emptyObjectSession server acknowledge oneEach twoClients s ∧
      s.received emptyObjectSession (.shell, secondPeer) = [.ok ⟨[], emptyObjects⟩] ∧
      (s.down.lanes.pending (.shell, firstPeer)).length = 1 ∧
      (on (.shell, firstPeer) s.down.dropped).length = 1 :=
  ⟨(clients_conserve emptyObjectSession acknowledge oneEach acknowledge_replies).1 twoClients
    twoClients_deliverable, rfl, rfl, rfl⟩

end XeusZmq.ServedClients
