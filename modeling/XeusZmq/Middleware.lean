import XeusZmq.DecimalText
import XeusZmq.Handshake
import XeusZmq.Loops
import XeusZmq.Search

/-!
`xmiddleware`: end points, the sockets that are bound to them, and the search for a free
port. What the libraries answer is a parameter.
-/

namespace XeusZmq.Middleware

open XeusZmq.Values
open XeusZmq.DecimalText
open XeusZmq.Handshake
open XeusZmq.Loops
open XeusZmq.Search

def tcp : Bytes :=
  literal "tcp"

def getEndPoint (transport ip port : Bytes) : Bytes :=
  let sep : UInt8 := if transport = tcp then 58 else 45
  transport ++ literal "://" ++ ip ++ sep :: port

/-- `std::to_string`. -/
def toStdString (value : Int) : Bytes :=
  if 0 ≤ value then decimal value.natAbs else 45 :: decimal value.natAbs

abbrev SizeT := Fin (2 ^ 64)

/-- The ports that the distribution draws, and what each `zmq_bind` on a socket returns:
an error, or the end point that the socket is bound to from then on. -/
structure Network where
  draws : Nat → Int
  binds : Nat → Except Nat Bytes

/-- An end point asked for, and what ZeroMQ has made of it. -/
structure Binding where
  requested : Bytes
  reported : Bytes
  deriving DecidableEq, Repr

/-- `attempts` are the end points of all calls of `zmq_bind`, `bindings` those of the
calls that have not failed. -/
structure Socket where
  attempts : List Bytes
  bindings : List Binding
  deriving DecidableEq, Repr

namespace Socket

def fresh : Socket :=
  ⟨[], []⟩

def zmqBind (net : Network) (endPoint : Bytes) (self : Socket) : Except Nat Unit × Socket :=
  match net.binds self.attempts.length with
  | .ok reported =>
      (.ok (), ⟨self.attempts ++ [endPoint], self.bindings ++ [⟨endPoint, reported⟩]⟩)
  | .error num => (.error num, ⟨self.attempts ++ [endPoint], self.bindings⟩)

/-- `socket_t::bind`. -/
def bind (net : Network) (endPoint : Bytes) (self : Socket) : Result Unit × Socket :=
  match self.zmqBind net endPoint with
  | (.ok _, socket) => (.ok (), socket)
  | (.error num, socket) => (.error (.exception (.zmqError num)), socket)

def enoent : Nat := 2

/-- `socket_t::unbind`, which knows the end points as they were reported. -/
def unbind (endPoint : Bytes) (self : Socket) : Result Unit × Socket :=
  if self.bindings.any fun binding => binding.reported == endPoint then
    (.ok (), { self with bindings := self.bindings.filter (·.reported != endPoint) })
  else (.error (.exception (.zmqError enoent)), self)

/-- The option `last_endpoint`, which is empty before the first `bind`. -/
def lastEndpoint (self : Socket) : Bytes :=
  (self.bindings.getLast?.map Binding.reported).getD []

def einval : Nat := 22

/-- `socket_t::get` of that option with a buffer that must hold the terminator too. -/
def getLastEndpoint (initSize : Nat) (self : Socket) : Result Bytes :=
  if self.lastEndpoint.length + 1 ≤ initSize then .ok self.lastEndpoint
  else .error (.exception (.zmqError einval))

end Socket

/-! The search for a free port. -/

structure PortSearch where
  tries : Nat
  rdPort : Bytes
  draws : Nat
  socket : Socket
  deriving DecidableEq, Repr

/-- One round: the body of the loop, and its condition with the `bind` in it. -/
def PortSearch.step (net : Network) (transport ip : Bytes) (maxTries : SizeT)
    (self : PortSearch) : Bool × PortSearch :=
  let rdPort := toStdString (net.draws self.draws)
  let tries := (self.tries + 1) % 2 ^ 64
  if tries ≤ maxTries.val then
    let (bound, socket) := self.socket.zmqBind net (getEndPoint transport ip rdPort)
    match bound with
    | .ok _ => (false, ⟨tries, rdPort, self.draws + 1, socket⟩)
    | .error _ => (true, ⟨tries, rdPort, self.draws + 1, socket⟩)
  else (false, ⟨tries, rdPort, self.draws + 1, self.socket⟩)

/-- The port, unless the loop has not ended after `fuel` rounds. -/
def findFreePortImpl (fuel : Nat) (net : Network) (socket : Socket) (transport ip : Bytes)
    (maxTries : SizeT) : Option (Bytes × Socket) :=
  (loop (PortSearch.step net transport ip maxTries) fuel ⟨0, [], 0, socket⟩).map fun s =>
    (if s.tries > maxTries.val then [] else s.rdPort, s.socket)

/-- The overload of `init_socket` with a port. -/
def initSocket (fuel : Nat) (net : Network) (socket : Socket) (transport ip port : Bytes) :
    Option (Result Unit × Socket) :=
  if port ≠ [] then some (socket.bind net (getEndPoint transport ip port))
  else (findFreePortImpl fuel net socket transport ip 100).map fun found => (.ok (), found.2)

def localhost : Bytes :=
  literal "127.0.0.1"

def findFreePort (fuel : Nat) (net : Network) (maxTries : SizeT) : Option (Result Bytes) :=
  (findFreePortImpl fuel net .fresh tcp localhost maxTries).map fun (port, socket) =>
    match socket.unbind (getEndPoint tcp localhost port) with
    | (.ok _, _) => .ok port
    | (.error f, _) => .error f

/-! The ports that are announced. -/

def getSocketPort (socket : Socket) : Result Bytes := do
  let endPoint ← socket.getLastEndpoint 32
  let begin := match findLast 58 endPoint with
    | some i => i + 1
    | none => 0
  return endPoint.drop begin

structure ServerSockets where
  controller : Socket
  shell : Socket
  stdin : Socket
  publisher : Socket
  heartbeat : Socket

def updateConfig (sockets : ServerSockets) (config : XKernelConfiguration) :
    Result XKernelConfiguration := do
  let controlPort ← getSocketPort sockets.controller
  let shellPort ← getSocketPort sockets.shell
  let stdinPort ← getSocketPort sockets.stdin
  let iopubPort ← getSocketPort sockets.publisher
  let hbPort ← getSocketPort sockets.heartbeat
  return { config with controlPort, shellPort, stdinPort, iopubPort, hbPort }

end XeusZmq.Middleware
