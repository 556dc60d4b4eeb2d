import XeusZmq.Middleware

/-!
Whether the ports that a server announces lead a client to the end points it has bound.
-/

namespace XeusZmq.PortAnnouncement

open XeusZmq.Values
open XeusZmq.Handshake (XKernelConfiguration BoundPorts Port)
open XeusZmq.Search
open XeusZmq.Middleware

/-- The transports of ZeroMQ that a configuration names. -/
inductive Transport
  | tcp
  | ipc
  deriving DecidableEq, Repr

def Transport.text : Transport → Bytes
  | .tcp => Middleware.tcp
  | .ipc => literal "ipc"

inductive Channel
  | control
  | shell
  | stdin
  | iopub
  | hb
  deriving DecidableEq, Repr

namespace Channel

def socket (sockets : ServerSockets) : Channel → Socket
  | .control => sockets.controller
  | .shell => sockets.shell
  | .stdin => sockets.stdin
  | .iopub => sockets.publisher
  | .hb => sockets.heartbeat

def port (config : XKernelConfiguration) : Channel → Bytes
  | .control => config.controlPort
  | .shell => config.shellPort
  | .stdin => config.stdinPort
  | .iopub => config.iopubPort
  | .hb => config.hbPort

def boundPort (ports : BoundPorts) : Channel → Port
  | .control => ports.control
  | .shell => ports.shell
  | .stdin => ports.stdin
  | .iopub => ports.iopub
  | .hb => ports.hb

end Channel

/-- The end point to which a client connects its socket of a channel. -/
def clientEndPoint (config : XKernelConfiguration) (channel : Channel) : Bytes :=
  getEndPoint config.transport config.ip (channel.port config)

abbrev ChannelPort := {port : Bytes // port ≠ [] ∧ 58 ∉ port}

def PortLeadsBack (transport : Transport) (ip : Bytes) (port : ChannelPort) : Prop :=
  ∀ socket : Socket, socket.lastEndpoint = getEndPoint transport.text ip port.val →
    ∃ p, getSocketPort socket = .ok p ∧
      getEndPoint transport.text ip p = socket.lastEndpoint

structure PortsLeadBack (transport : Transport) (ip : Bytes) (ports : Channel → ChannelPort) :
    Prop where
  ofSocket : ∀ channel, PortLeadsBack transport ip (ports channel)
  ofConfig : ∀ (sockets : ServerSockets) (config : XKernelConfiguration),
    (∀ channel, (Channel.socket sockets channel).lastEndpoint =
      getEndPoint transport.text ip (ports channel).val) →
    config.transport = transport.text → config.ip = ip →
    ∃ config', updateConfig sockets config = .ok config' ∧
      ∀ channel, clientEndPoint config' channel = (Channel.socket sockets channel).lastEndpoint

/-- The size of the buffer leaves room for 31 bytes and the terminator. -/
theorem getSocketPort_of_length {socket : Socket} {front back : Bytes}
    (hsplit : socket.lastEndpoint = front ++ 58 :: back) (hback : 58 ∉ back)
    (hlength : socket.lastEndpoint.length ≤ 31) : getSocketPort socket = .ok back := by
  have hget : socket.getLastEndpoint 32 = .ok socket.lastEndpoint :=
    if_pos (Nat.succ_le_succ hlength)
  rw [getSocketPort, hget, hsplit, ok_bind]
  simp only [findLast_split front hback]
  change Except.ok ((front ++ 58 :: back).drop (front.length + 1)) = _
  simp

theorem getSocketPort_of_too_long {socket : Socket} (h : 31 < socket.lastEndpoint.length) :
    getSocketPort socket = .error (.exception (.zmqError Socket.einval)) := by
  have hget : socket.getLastEndpoint 32 = .error (.exception (.zmqError Socket.einval)) :=
    if_neg (Nat.not_le.mpr (Nat.succ_lt_succ h))
  rw [getSocketPort, hget]
  rfl

theorem getEndPoint_tcp (ip port : Bytes) :
    getEndPoint Transport.tcp.text ip port = literal "tcp://" ++ ip ++ 58 :: port :=
  rfl

theorem getEndPoint_ipc (ip port : Bytes) :
    getEndPoint Transport.ipc.text ip port = literal "ipc://" ++ ip ++ 45 :: port :=
  rfl

theorem length_getEndPoint (transport : Transport) (ip port : Bytes) :
    (getEndPoint transport.text ip port).length = ip.length + port.length + 7 := by
  cases transport with
  | tcp =>
      rw [getEndPoint_tcp]
      simp [literal]
      omega
  | ipc =>
      rw [getEndPoint_ipc]
      simp [literal]
      omega

theorem getSocketPort_tcp {ip : Bytes} {port : ChannelPort} {socket : Socket}
    (hbound : socket.lastEndpoint = getEndPoint Transport.tcp.text ip port.val)
    (hlength : ip.length + port.val.length ≤ 24) : getSocketPort socket = .ok port.val := by
  refine getSocketPort_of_length (hbound.trans (getEndPoint_tcp ip port.val)) port.property.2 ?_
  rw [hbound, length_getEndPoint]
  omega

/-- What stands behind the last colon is more than the port, which comes behind a dash. -/
theorem getSocketPort_ipc {ip : Bytes} {port : ChannelPort} {socket : Socket} {p : Bytes}
    (hbound : socket.lastEndpoint = getEndPoint Transport.ipc.text ip port.val)
    (hp : getSocketPort socket = .ok p) : port.val.length < p.length := by
  have hcolon : (58 : UInt8) ∈ literal "ipc://" ++ ip :=
    List.mem_append_left ip (by decide)
  obtain ⟨front, back, hsplit, hback⟩ := exists_last hcolon
  have hall : socket.lastEndpoint = front ++ 58 :: (back ++ 45 :: port.val) := by
    rw [hbound, getEndPoint_ipc, hsplit, List.append_assoc, List.cons_append]
  have hrest : (58 : UInt8) ∉ back ++ 45 :: port.val := by
    simp only [List.mem_append, List.mem_cons, not_or]
    exact ⟨hback, by decide, port.property.2⟩
  by_cases hlength : socket.lastEndpoint.length ≤ 31
  · rw [getSocketPort_of_length hall hrest hlength] at hp
    obtain rfl := Except.ok.inj hp
    rw [List.length_append, List.length_cons]
    omega
  · rw [getSocketPort_of_too_long (Nat.lt_of_not_le hlength)] at hp
    cases hp

/-- A socket bound to an end point that is reported as it was asked for. -/
def boundTo (endPoint : Bytes) : Socket :=
  ⟨[endPoint], [⟨endPoint, endPoint⟩]⟩

theorem portLeadsBack_iff {transport : Transport} {ip : Bytes} {port : ChannelPort} :
    PortLeadsBack transport ip port ↔
      transport = .tcp ∧ ip.length + port.val.length ≤ 24 := by
  constructor
  · intro h
    obtain ⟨p, hp, hback⟩ := h (boundTo (getEndPoint transport.text ip port.val)) rfl
    have hlength : p.length = port.val.length := by
      have := congrArg List.length hback
      change _ = (getEndPoint transport.text ip port.val).length at this
      rw [length_getEndPoint, length_getEndPoint] at this
      omega
    cases transport with
    | tcp =>
        refine ⟨rfl, ?_⟩
        by_contra hlong
        rw [getSocketPort_of_too_long] at hp
        · cases hp
        · change 31 < (getEndPoint Transport.tcp.text ip port.val).length
          rw [length_getEndPoint]
          omega
    | ipc => exact absurd hlength (getSocketPort_ipc rfl hp).ne'
  · rintro ⟨rfl, hlength⟩ socket hbound
    exact ⟨port.val, getSocketPort_tcp hbound hlength, hbound.symm⟩

theorem updateConfig_of_ports {sockets : ServerSockets} {config : XKernelConfiguration}
    {ports : Channel → Bytes}
    (h : ∀ channel, getSocketPort (Channel.socket sockets channel) = .ok (ports channel)) :
    updateConfig sockets config = .ok { config with
      controlPort := ports .control
      shellPort := ports .shell
      stdinPort := ports .stdin
      iopubPort := ports .iopub
      hbPort := ports .hb } := by
  have hcontrol : getSocketPort sockets.controller = .ok (ports .control) := h .control
  have hshell : getSocketPort sockets.shell = .ok (ports .shell) := h .shell
  have hstdin : getSocketPort sockets.stdin = .ok (ports .stdin) := h .stdin
  have hiopub : getSocketPort sockets.publisher = .ok (ports .iopub) := h .iopub
  have hhb : getSocketPort sockets.heartbeat = .ok (ports .hb) := h .hb
  rw [updateConfig, hcontrol, hshell, hstdin, hiopub, hhb]
  rfl

/-- The registration is sent the ports that the sockets tell. -/
theorem updateConfig_of_boundPorts {sockets : ServerSockets} {config : XKernelConfiguration}
    {ports : BoundPorts}
    (h : ∀ channel, getSocketPort (Channel.socket sockets channel) =
      .ok (Channel.boundPort ports channel).val) :
    updateConfig sockets config = .ok (Handshake.updateConfig ports config) :=
  updateConfig_of_ports h

/-- A port leads back over TCP, and only from end points that fit the buffer they are
read into. -/
theorem portsLeadBack_iff (transport : Transport) (ip : Bytes) (ports : Channel → ChannelPort) :
    PortsLeadBack transport ip ports ↔
      transport = .tcp ∧ ∀ channel, ip.length + (ports channel).val.length ≤ 24 := by
  constructor
  · intro h
    have hport := fun channel => portLeadsBack_iff.mp (h.ofSocket channel)
    exact ⟨(hport .shell).1, fun channel => (hport channel).2⟩
  · rintro ⟨rfl, hlength⟩
    refine ⟨fun channel => portLeadsBack_iff.mpr ⟨rfl, hlength channel⟩, ?_⟩
    rintro sockets config hbound htransport rfl
    refine ⟨_, updateConfig_of_ports fun channel =>
      getSocketPort_tcp (hbound channel) (hlength channel), fun channel => ?_⟩
    rw [hbound channel, ← htransport]
    cases channel <;> rfl

/-- The ports that a connection file for this transport names. -/
def ipcPorts : Channel → ChannelPort
  | .control => ⟨literal "5", by decide⟩
  | .shell => ⟨literal "1", by decide⟩
  | .stdin => ⟨literal "3", by decide⟩
  | .iopub => ⟨literal "2", by decide⟩
  | .hb => ⟨literal "4", by decide⟩

theorem not_portsLeadBack_ipcPorts :
    ¬ PortsLeadBack .ipc (literal "/tmp/kernel") ipcPorts := by
  intro h
  have hport := portLeadsBack_iff.mp (h.ofSocket .shell)
  cases hport.1

end XeusZmq.PortAnnouncement
