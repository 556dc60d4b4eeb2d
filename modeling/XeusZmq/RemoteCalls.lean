import XeusZmq.WireRoundTrip
import XeusZmq.DefaultDispatch
import XeusZmq.Lanes

/-!
Clients and a server over one network, whose connections last. A client has a DEALER socket
for each channel, linked to the ROUTER socket of the server by a lane in each direction. The
listeners of the server are a parameter; a call of one is a single step with all that it
sends.
-/

namespace XeusZmq.RemoteCalls

open XeusZmq.Values
open XeusZmq.Authentication
open XeusZmq.Serializer
open XeusZmq.WireRoundTrip
open XeusZmq.ServerLoops
open XeusZmq.FifoPort
open XeusZmq.DefaultDispatch (NoZmqError)

/-- What a ROUTER socket takes for the identity of a peer that has set none, as
`xdealer_channel` does. -/
def IsRoutingId (id : Bytes) : Prop :=
  id.length = 5 ∧ id.head? = some 0

instance : DecidablePred IsRoutingId := fun id =>
  inferInstanceAs (Decidable (id.length = 5 ∧ id.head? = some 0))

abbrev RoutingId := {id : Bytes // IsRoutingId id}

theorem RoutingId.ne_delimiter (id : RoutingId) : id.val ≠ delimiter := by
  intro h
  have hlength := id.property.1
  rw [h] at hlength
  exact absurd hlength (by decide)

/-- A DEALER socket of a client. -/
abbrev Line := Channel × RoutingId

abbrev Call := Channel × XMessage

/-- What a listener does with the server: `send_shell` or `send_control`, and `stop`. -/
inductive Action
  | send (channel : Channel) (msg : XMessage)
  | stop

/-- What the listeners do in a call, given the calls before it. -/
abbrev Listener := List Call → Call → List Action

/-- A server as the network sees it. The loop takes steps of several kinds; `throws` is
the end of the thread that serves a channel, by an exception of its listener. -/
structure Server (decode : Multipart → Result XMessage) (σ ρ : Type) where
  initial : σ
  ports : σ → Ports Channel Multipart XMessage
  arrive : σ → Channel → Multipart → σ
  pass : σ → ρ → σ
  stop : σ → σ
  throws : σ → Channel → Failure → σ
  ports_initial : ports initial = Ports.initial
  ports_arrive : ∀ s channel wireMsg,
    ports (arrive s channel wireMsg) = (ports s).put channel wireMsg
  ports_pass : ∀ s kind, Ports.Step (decoded decode) (ports s) none (ports (pass s kind))
  ports_stop : ∀ s, ports (stop s) = ports s
  ports_throws : ∀ s channel f, ports (throws s channel f) = ports s

def Server.calls {decode : Multipart → Result XMessage} {σ ρ : Type}
    (server : Server decode σ ρ) (s : σ) : List Call :=
  (server.ports s).output

/-- The libraries and settings that the parties of a session share, and the error
handlers that they do not. -/
structure Session where
  json : JsonLibrary
  auth : XAuthentication
  clientHandler : ErrorHandler
  serverHandler : ErrorHandler
  parsesDumps : ParsesDumps json
  made : ∃ ssl hexString scheme key, makeXAuthentication ssl hexString scheme key = .ok auth

theorem noXAuthentication_made :
    ∃ ssl hexString scheme key,
      makeXAuthentication ssl hexString scheme key = .ok noXAuthentication :=
  ⟨sha256OpenSsl, lowerHex, literal "none", [], rfl⟩

namespace Session

def decode (session : Session) : Multipart → Result XMessage :=
  deserialize session.json session.auth

theorem accepts (session : Session) : AcceptsOwnSignatures session.auth := by
  obtain ⟨ssl, hexString, scheme, key, hauth⟩ := session.made
  exact makeXAuthentication_acceptsOwnSignatures hauth

theorem noZmqError (session : Session) : NoZmqError session.decode := by
  obtain ⟨ssl, hexString, scheme, key, hauth⟩ := session.made
  exact deserialize_ne_zmqError session.json (makeXAuthentication_verify_ne_exception hauth)

end Session

/-- The lanes to the server, with what has left them, those to the clients, with what
the clients have taken from them, and the server. A DEALER socket waits for room in its
lane, a ROUTER socket does not. -/
structure Network (σ : Type) where
  up : Ports Line Multipart Multipart
  down : Outlets Line Multipart
  server : σ

/-- Steps of the clients, of the lanes to the server, and of its loop. -/
inductive Event (ρ : Type)
  | send (line : Line) (msg : XMessage)
  | deliver (line : Line)
  | pass (kind : ρ)
  | receive (line : Line)

/-- Where a ROUTER socket sends a message: its first frame names the peer. A message for
a peer that is not there is dropped. -/
def peerOf : Multipart → Option (RoutingId × Multipart)
  | [] => none
  | id :: wireMsg => if h : IsRoutingId id then some (⟨id, h⟩, wireMsg) else none

def route (channel : Channel) (wireMsg : Multipart) : Option (Line × Multipart) :=
  (peerOf wireMsg).map fun peer => ((channel, peer.1), peer.2)

namespace Network

section Network

variable {σ ρ : Type} (session : Session) (server : Server session.decode σ ρ)
  (listener : Listener) (water : HighWater Line)

def initial : Network σ :=
  ⟨Ports.initial, Outlets.initial, server.initial⟩

/-- `xclient_zmq_impl::send_on_shell` and `send_on_control`. An exception of the
serializer reaches the caller. -/
def sendOn (line : Line) (msg : XMessage) (self : Network σ) : Network σ :=
  match serialize session.json session.auth session.clientHandler msg with
  | .error _ => self
  | .ok wireMsg => { self with up := self.up.put line wireMsg }

/-- The ROUTER socket puts the identity of the peer in front. -/
def atRouter (entry : Line × Multipart) : Channel × Multipart :=
  (entry.1.1, entry.1.2.val :: entry.2)

def deliver (line : Line) (self : Network σ) : Network σ :=
  match self.up.pending line with
  | [] => self
  | wireMsg :: _ =>
      let (channel, wireMsg) := atRouter (line, wireMsg)
      { self with
        up := self.up.take line
        server := server.arrive self.server channel wireMsg }

def router (channel : Channel) (wireMsg : Multipart) (self : Network σ) : Network σ :=
  match route channel wireMsg with
  | none => self
  | some (line, wireMsg) => { self with down := self.down.offer water line wireMsg }

/-- The actions of a listener that has been called on the given channel. An exception of
the serializer ends them, and the thread. -/
def perform (called : Channel) : List Action → Network σ → Network σ
  | [], self => self
  | .stop :: actions, self =>
      perform called actions { self with server := server.stop self.server }
  | .send channel msg :: actions, self =>
      match serialize session.json session.auth session.serverHandler msg with
      | .error f => { self with server := server.throws self.server called f }
      | .ok wireMsg => perform called actions (self.router water channel wireMsg)

/-- An iteration of the loop of the server, with the call of a listener if there is one. -/
def pass (kind : ρ) (self : Network σ) : Network σ :=
  let past := server.calls self.server
  let self := { self with server := server.pass self.server kind }
  match (server.calls self.server).drop past.length with
  | [] => self
  | call :: _ => self.perform session server water call.1 (listener past call)

def step (self : Network σ) : Event ρ → Network σ
  | .send line msg => self.sendOn session line msg
  | .deliver line => self.deliver session server line
  | .pass kind => self.pass session server listener water kind
  | .receive line => { self with down := self.down.take line }

def run (events : List (Event ρ)) : Network σ :=
  Runs.run (step session server listener water) (initial session server) events

/-- What `receive_on_shell` or `receive_on_control` has returned to a client. -/
def received (line : Line) (self : Network σ) : List (Result XMessage) :=
  (on line self.down.lanes.output).map session.decode

/-- What a client has sent and no listener has been called with, first what the socket
of the server holds, then what the lane does. -/
def waiting (line : Line) (self : Network σ) : List XMessage :=
  (((server.ports self.server).pending line.1).filter (·.head? = some line.2.val) ++
    (self.up.pending line).map (line.2.val :: ·)).filterMap (decoded session.decode)

end Network

end Network

/-- The socket from which a call comes. -/
def callLine (call : Call) : Option Line :=
  match call.2.identities with
  | [] => none
  | id :: _ => if h : IsRoutingId id then some (call.1, ⟨id, h⟩) else none

/-- The messages for which a client has called `send_on_shell` or `send_on_control`. -/
def requests {ρ : Type} (line : Line) (events : List (Event ρ)) : List XMessage :=
  events.filterMap fun event =>
    match event with
    | .send line' msg => if line' = line then some msg else none
    | _ => none

/-- What the listeners have been called with from one socket. -/
def callsFrom (line : Line) (calls : List Call) : List XMessage :=
  (on line.1 calls).filter (·.identities.head? = some line.2.val)

section Replies

variable (session : Session) (listener : Listener)

/-- The messages that a listener sends before an exception, if there is one. -/
def performed : List Action → List Call
  | [] => []
  | .stop :: actions => performed actions
  | .send channel msg :: actions =>
      match serialize session.json session.auth session.serverHandler msg with
      | .error _ => []
      | .ok _ => (channel, msg) :: performed actions

/-- The messages that the listeners send in the calls from one socket, if they are called
directly, call after call. -/
def repliesTo (line : Line) (past : List Call) : List Call → List XMessage
  | [] => []
  | call :: calls =>
      (if callLine call = some line then
        (performed session (listener past call)).map Prod.snd else []) ++
        repliesTo line (past ++ [call]) calls

/-- A reply is sent on the channel of the request, with its identities. -/
def Replies : Prop :=
  ∀ past call channel msg, Action.send channel msg ∈ listener past call →
    channel = call.1 ∧ msg.identities = call.2.identities

end Replies

/-- A part as it is dumped by one party and parsed by another. -/
def reparse (json : JsonLibrary) (errorHandler : ErrorHandler) (part : Json) : Option Json :=
  (json.dump errorHandler part).toOption.bind fun text => (json.parse text).toOption

def reparseData (json : JsonLibrary) (errorHandler : ErrorHandler) (data : XMessageBaseData) :
    Option XMessageBaseData := do
  let header ← reparse json errorHandler data.header
  let parentHeader ← reparse json errorHandler data.parentHeader
  let metadata ← reparse json errorHandler data.metadata
  let content ← reparse json errorHandler data.content
  return { header, parentHeader, metadata, content, buffers := data.buffers }

/-- The message that arrives, with its identities behind a router. -/
def carried (json : JsonLibrary) (errorHandler : ErrorHandler)
    (identities : List Bytes → List Bytes) (msg : XMessage) : Option XMessage :=
  (reparseData json errorHandler msg.data).map fun data =>
    { identities := identities msg.identities, data }

/-- No client puts the delimiter among the identities of a request. -/
def Deliverable {ρ : Type} (events : List (Event ρ)) : Prop :=
  ∀ line msg, .send line msg ∈ events → ∀ id ∈ msg.identities, id ≠ delimiter

/-- What the listeners send in the calls from one socket, as it arrives there. -/
def repliesDue (session : Session) (listener : Listener) (line : Line) (calls : List Call) :
    List (Result XMessage) :=
  ((repliesTo session listener line [] calls).filterMap
    (carried session.json session.serverHandler List.tail)).map .ok

/-- Of each socket, the requests that a listener has been called with and those that wait
are the requests sent. The replies received and those on their way are, but for those that
have been dropped, the replies that the listeners give if they are called directly, with the
calls of all sockets in one order; none is dropped until there are more than the mark. -/
structure Conserves {σ ρ : Type} (session : Session) (server : Server session.decode σ ρ)
    (listener : Listener) (water : HighWater Line) (events : List (Event ρ)) (s : Network σ) :
    Prop where
  requests : ∀ line : Line,
    callsFrom line (server.calls s.server) ++ s.waiting session server line =
      (requests line events).filterMap
        (carried session.json session.clientHandler (line.2.val :: ·))
  replies : ∀ line : Line,
    (s.received session line ++ (s.down.lanes.pending line).map session.decode).Sublist
      (repliesDue session listener line (server.calls s.server))
  count : ∀ line : Line,
    (s.received session line).length + (s.down.lanes.pending line).length +
        (on line s.down.dropped).length =
      (repliesDue session listener line (server.calls s.server)).length
  mark : ∀ line : Line, on line s.down.dropped ≠ [] →
    water.mark ≠ 0 ∧
      water.mark < (repliesDue session listener line (server.calls s.server)).length

end XeusZmq.RemoteCalls
