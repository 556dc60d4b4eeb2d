import XeusZmq.RemoteCalls

/-!
The heartbeat thread of a server, and the peers that ping it. A peer is a REQ socket,
which puts an empty frame before each ping.
-/

namespace XeusZmq.Heartbeat

open XeusZmq.Values
open XeusZmq.ServerLoops
open XeusZmq.FifoPort
open XeusZmq.Runs
open XeusZmq.RemoteCalls

inductive HeartbeatStatus
  | running
  | left
  | failed (f : Failure)
  deriving DecidableEq, Repr

/-- The messages that wait on the two sockets of `xheartbeat`, and those sent on them. -/
structure XHeartbeat where
  heartbeat : List Multipart
  controller : List Multipart
  sent : List Multipart
  replies : List Multipart
  status : HeartbeatStatus

/-- Sockets that `zmq::poll` reports as readable. -/
structure Ready where
  heartbeat : Bool
  controller : Bool

namespace XHeartbeat

def initial : XHeartbeat :=
  ⟨[], [], [], [], .running⟩

/-- The message goes back with all its frames, the identity of its peer in front. -/
def echo (self : XHeartbeat) : XHeartbeat :=
  match self.heartbeat with
  | [] => self
  | wireMsg :: heartbeat => { self with heartbeat, sent := self.sent ++ [wireMsg] }

def answer (self : XHeartbeat) : XHeartbeat :=
  match self.controller with
  | [] => self
  | stopMsg :: controller =>
      { self with controller, replies := self.replies ++ [stopMsg], status := .left }

/-- The branches behind `zmq::poll`. -/
def serve (ready : Ready) (self : XHeartbeat) : XHeartbeat :=
  let self := if ready.heartbeat then self.echo else self
  if ready.controller then self.answer else self

/-- One iteration of the loop of `run`. -/
def pass (pollError : Option Nat) (ready : Ready) (self : XHeartbeat) : XHeartbeat :=
  match self.status with
  | .running =>
      match pollError with
      | some num =>
          if num = eintr then self
          else if num = eterm then { self with status := .left }
          else { self with status := .failed (.exception (.zmqError num)) }
      | none => self.serve ready
  | _ => self

/-- What one iteration can do, `s₁` being the state behind the first branch. -/
inductive Passed (pollError : Option Nat) (ready : Ready) (s : XHeartbeat) : XHeartbeat → Prop
  | ended (hstatus : s.status ≠ .running) : Passed pollError ready s s
  | pollFailed (num : Nat) (status : HeartbeatStatus) (hstatus : s.status = .running)
      (hpoll : pollError = some num) (hkeep : num = eintr → status = .running) :
      Passed pollError ready s { s with status }
  | answered (s₁ : XHeartbeat) (stopMsg : Multipart) (rest : List Multipart)
      (hstatus : s.status = .running) (hpoll : pollError = none)
      (hs₁ : (if ready.heartbeat then s.echo else s) = s₁) (hready : ready.controller = true)
      (hcontroller : s.controller = stopMsg :: rest) :
      Passed pollError ready s
        { s₁ with controller := rest, replies := s.replies ++ [stopMsg], status := .left }
  | echoed (s₁ : XHeartbeat) (hstatus : s.status = .running) (hpoll : pollError = none)
      (hs₁ : (if ready.heartbeat then s.echo else s) = s₁)
      (hcontroller : ready.controller = true → s.controller = []) : Passed pollError ready s s₁

theorem echo_frame (s : XHeartbeat) :
    s.echo.controller = s.controller ∧ s.echo.replies = s.replies ∧
      s.echo.status = s.status := by
  unfold echo
  split <;> exact ⟨rfl, rfl, rfl⟩

theorem firstBranch_frame (ready : Bool) (s : XHeartbeat) :
    (if ready then s.echo else s).controller = s.controller ∧
      (if ready then s.echo else s).replies = s.replies ∧
      (if ready then s.echo else s).status = s.status := by
  split_ifs
  · exact echo_frame s
  · exact ⟨rfl, rfl, rfl⟩

theorem serve_passed (ready : Ready) {s : XHeartbeat} (hstatus : s.status = .running) :
    Passed none ready s (s.serve ready) := by
  obtain ⟨hcontroller, hreplies, -⟩ := firstBranch_frame ready.heartbeat s
  unfold serve
  simp only
  generalize hs₁ : (if ready.heartbeat then s.echo else s) = s₁ at hcontroller hreplies
  split_ifs with hready
  · unfold answer
    rw [hcontroller]
    cases hcontroller' : s.controller with
    | nil => exact .echoed s₁ hstatus rfl hs₁ fun _ => hcontroller'
    | cons stopMsg rest =>
        have hanswered : Passed none ready s _ :=
          .answered s₁ stopMsg rest hstatus rfl hs₁ hready hcontroller'
        simpa [hreplies] using hanswered
  · exact .echoed s₁ hstatus rfl hs₁ fun h => absurd h hready

theorem pass_passed (pollError : Option Nat) (ready : Ready) (s : XHeartbeat) :
    Passed pollError ready s (s.pass pollError ready) := by
  unfold pass
  split
  · rename_i hstatus
    split
    · rename_i num
      split_ifs with hintr hterm
      · have hsame : Passed (some num) ready s { s with status := s.status } :=
          .pollFailed num _ hstatus rfl fun _ => hstatus
        exact hsame
      · exact .pollFailed num _ hstatus rfl fun h => absurd h hintr
      · exact .pollFailed num _ hstatus rfl fun h => absurd h hintr
    · exact serve_passed ready hstatus
  · rename_i hstatus
    exact .ended hstatus

/-- An iteration echoes one message at most. -/
theorem pass_sent (pollError : Option Nat) (ready : Ready) (s : XHeartbeat) :
    ((s.pass pollError ready).sent = s.sent ∧
        (s.pass pollError ready).heartbeat = s.heartbeat) ∨
      ∃ wireMsg rest, s.heartbeat = wireMsg :: rest ∧
        (s.pass pollError ready).sent = s.sent ++ [wireMsg] ∧
        (s.pass pollError ready).heartbeat = rest := by
  have hfirst : ((if ready.heartbeat then s.echo else s).sent = s.sent ∧
        (if ready.heartbeat then s.echo else s).heartbeat = s.heartbeat) ∨
      ∃ wireMsg rest, s.heartbeat = wireMsg :: rest ∧
        (if ready.heartbeat then s.echo else s).sent = s.sent ++ [wireMsg] ∧
        (if ready.heartbeat then s.echo else s).heartbeat = rest := by
    split_ifs
    · unfold echo
      cases hheartbeat : s.heartbeat with
      | nil => exact Or.inl ⟨rfl, hheartbeat⟩
      | cons wireMsg rest => exact Or.inr ⟨wireMsg, rest, rfl, rfl, rfl⟩
    · exact Or.inl ⟨rfl, rfl⟩
  have hpassed := pass_passed pollError ready s
  generalize s.pass pollError ready = s' at hpassed
  cases hpassed with
  | ended | pollFailed => exact Or.inl ⟨rfl, rfl⟩
  | answered s₁ stopMsg rest hstatus hpoll hs₁ | echoed s₁ hstatus hpoll hs₁ => rwa [hs₁] at hfirst

end XHeartbeat

/-- The peers with the lanes to the heartbeat socket and back. -/
structure PingNetwork where
  up : Ports RoutingId Multipart Multipart
  down : Ports RoutingId Multipart Multipart
  server : XHeartbeat

inductive PingEvent
  | ping (peer : RoutingId) (wireMsg : Multipart)
  | deliver (peer : RoutingId)
  | requestStop (stopMsg : Multipart)
  | pass (pollError : Option Nat) (ready : Ready)
  | receive (peer : RoutingId)

namespace PingNetwork

def initial : PingNetwork :=
  ⟨Ports.initial, Ports.initial, .initial⟩

/-- The frames of a ping as the REQ socket sends them. -/
def reqFrames (wireMsg : Multipart) : Multipart :=
  [] :: wireMsg

def deliver (peer : RoutingId) (self : PingNetwork) : PingNetwork :=
  match self.up.pending peer with
  | [] => self
  | wireMsg :: _ =>
      { self with
        up := self.up.take peer
        server := { self.server with
          heartbeat := self.server.heartbeat ++ [peer.val :: wireMsg] } }

def router (wireMsg : Multipart) (down : Ports RoutingId Multipart Multipart) :
    Ports RoutingId Multipart Multipart :=
  match peerOf wireMsg with
  | none => down
  | some (peer, wireMsg) => down.put peer wireMsg

def pass (pollError : Option Nat) (ready : Ready) (self : PingNetwork) : PingNetwork :=
  let server := self.server.pass pollError ready
  match server.sent.drop self.server.sent.length with
  | [] => { self with server }
  | wireMsg :: _ => { self with server, down := router wireMsg self.down }

def step (self : PingNetwork) : PingEvent → PingNetwork
  | .ping peer wireMsg => { self with up := self.up.put peer (reqFrames wireMsg) }
  | .deliver peer => self.deliver peer
  | .requestStop stopMsg =>
      { self with
        server := { self.server with controller := self.server.controller ++ [stopMsg] } }
  | .pass pollError ready => self.pass pollError ready
  | .receive peer => { self with down := self.down.take peer }

/-- The pings of one peer, from those that it has received back to those that have not
reached the server. -/
def journey (peer : RoutingId) (self : PingNetwork) : List Multipart :=
  on peer self.down.output ++ (self.down.pending peer ++
    (on peer (self.server.heartbeat.filterMap peerOf) ++ self.up.pending peer))

end PingNetwork

def run : List PingEvent → PingNetwork :=
  Runs.run PingNetwork.step .initial

def pings (peer : RoutingId) (events : List PingEvent) : List Multipart :=
  events.filterMap fun event =>
    match event with
    | .ping peer' wireMsg => if peer' = peer then some (PingNetwork.reqFrames wireMsg) else none
    | _ => none

theorem pings_concat (peer : RoutingId) (events : List PingEvent) (event : PingEvent) :
    pings peer (events ++ [event]) = pings peer events ++ pings peer [event] :=
  List.filterMap_append

theorem peerOf_cons (peer : RoutingId) (wireMsg : Multipart) :
    peerOf (peer.val :: wireMsg) = some (peer, wireMsg) :=
  dif_pos peer.property

theorem journey_deliver (peer : RoutingId) (s : PingNetwork) (other : RoutingId) :
    (s.deliver peer).journey other = s.journey other := by
  unfold PingNetwork.deliver
  cases hpending : s.up.pending peer with
  | nil => rfl
  | cons wireMsg rest =>
      simp only [PingNetwork.journey, List.filterMap_append, List.filterMap_cons,
        List.filterMap_nil, peerOf_cons, on_append, Ports.pending_take, List.append_assoc]
      by_cases hother : other = peer
      · subst hother
        simp [hpending]
      · simp [on_cons_of_ne (Ne.symm hother), hother]

theorem journey_pass (pollError : Option Nat) (ready : Ready) (s : PingNetwork)
    (other : RoutingId) : (s.pass pollError ready).journey other = s.journey other := by
  unfold PingNetwork.pass
  simp only
  rcases XHeartbeat.pass_sent pollError ready s.server with ⟨hsent, hheartbeat⟩ |
    ⟨wireMsg, rest, hwaits, hsent, hheartbeat⟩
  · rw [hsent, List.drop_length]
    simp [PingNetwork.journey, hheartbeat]
  · rw [hsent, List.drop_left]
    simp only [PingNetwork.journey, hheartbeat, hwaits]
    unfold PingNetwork.router
    cases hpeer : peerOf wireMsg with
    | none => simp [hpeer]
    | some peer =>
        obtain ⟨peer, frames⟩ := peer
        have houtput : (s.down.put peer frames).output = s.down.output := rfl
        simp only [Ports.pending_put, houtput, List.filterMap_cons, hpeer]
        by_cases hother : peer = other
        · subst hother
          simp
        · simp [on_cons_of_ne hother]

theorem run_journey (events : List PingEvent) (peer : RoutingId) :
    (run events).journey peer = pings peer events := by
  apply run_induction (P := fun events (s : PingNetwork) => s.journey peer = pings peer events)
  · rfl
  · intro events event ih
    rw [pings_concat, ← ih]
    generalize Runs.run PingNetwork.step .initial events = s
    cases event with
    | ping peer' wireMsg =>
        by_cases hpeer : peer' = peer
        · subst hpeer
          simp [PingNetwork.step, PingNetwork.journey, Ports.pending_put, pings]
        · simp [PingNetwork.step, PingNetwork.journey, Ports.pending_put, pings, hpeer,
            on_cons_of_ne hpeer]
    | deliver peer' => exact (journey_deliver peer' s peer).trans (List.append_nil _).symm
    | requestStop stopMsg => exact (List.append_nil _).symm
    | pass pollError ready =>
        exact (journey_pass pollError ready s peer).trans (List.append_nil _).symm
    | receive peer' =>
        have htake := Ports.on_output_take peer' peer s.down
        simp only [PingNetwork.step, PingNetwork.journey, pings, List.filterMap_cons,
          List.filterMap_nil, List.append_nil, ← List.append_assoc, htake]

/-! What has been put on the lanes. -/

def pingWire : PingEvent → Option (RoutingId × Multipart)
  | .ping peer wireMsg => some (peer, PingNetwork.reqFrames wireMsg)
  | _ => none

structure Linked (events : List PingEvent) (s : PingNetwork) : Prop where
  up : s.up.Relay some (events.filterMap pingWire)
  down : s.down.Relay some (s.server.sent.filterMap peerOf)

theorem linked_pass {events : List PingEvent} {s : PingNetwork} (h : Linked events s)
    (pollError : Option Nat) (ready : Ready) :
    Linked events (s.pass pollError ready) := by
  unfold PingNetwork.pass
  simp only
  rcases XHeartbeat.pass_sent pollError ready s.server with ⟨hsent, -⟩ |
    ⟨wireMsg, rest, -, hsent, -⟩
  · rw [hsent, List.drop_length]
    exact ⟨h.up, hsent ▸ h.down⟩
  · rw [hsent, List.drop_left]
    refine ⟨h.up, ?_⟩
    simp only [hsent, List.filterMap_append]
    unfold PingNetwork.router
    cases hpeer : peerOf wireMsg with
    | none => simpa [hpeer] using h.down
    | some peer =>
        have hput := h.down.put peer.1 peer.2
        simpa [hpeer] using hput

theorem run_linked (events : List PingEvent) : Linked events (run events) := by
  apply run_induction (P := Linked)
  · exact ⟨Ports.initial_relay some, Ports.initial_relay some⟩
  · intro events event ih
    have hsame (hevent : pingWire event = none) :
        (events ++ [event]).filterMap pingWire = events.filterMap pingWire := by
      rw [filterMap_concat, hevent, Option.toList_none, List.append_nil]
    cases event with
    | ping peer wireMsg =>
        refine ⟨?_, ih.down⟩
        rw [filterMap_concat]
        exact ih.up.put peer _
    | deliver peer =>
        rw [PingNetwork.step, PingNetwork.deliver]
        split
        · exact ⟨hsame rfl ▸ ih.up, ih.down⟩
        · exact ⟨hsame rfl ▸ ih.up.take peer, ih.down⟩
    | requestStop stopMsg => exact ⟨hsame rfl ▸ ih.up, ih.down⟩
    | pass pollError ready =>
        have hpass := linked_pass ih pollError ready
        exact ⟨hsame rfl ▸ hpass.up, hpass.down⟩
    | receive peer => exact ⟨hsame rfl ▸ ih.up, ih.down.take peer⟩

/-! The stages of a run in which every ping comes back. -/

theorem run_deliver (peers : List RoutingId) (s : PingNetwork) :
    (Runs.run PingNetwork.step s (peers.map .deliver)).up = s.up.takeAll peers ∧
      (Runs.run PingNetwork.step s (peers.map .deliver)).server.status = s.server.status := by
  induction peers generalizing s with
  | nil => exact ⟨rfl, rfl⟩
  | cons peer peers ih =>
      obtain ⟨hup, hstatus⟩ := ih (s.deliver peer)
      have hdeliver : (s.deliver peer).up = s.up.take peer ∧
          (s.deliver peer).server.status = s.server.status := by
        unfold PingNetwork.deliver Ports.take
        split <;> simp_all
      rw [hdeliver.1] at hup
      exact ⟨hup, hstatus.trans hdeliver.2⟩

theorem run_echo (n : Nat) {s : PingNetwork} (hstatus : s.server.status = .running)
    (hn : s.server.heartbeat.length ≤ n) :
    (Runs.run PingNetwork.step s
        (List.replicate n (.pass none ⟨true, false⟩))).server.heartbeat = [] ∧
      (Runs.run PingNetwork.step s (List.replicate n (.pass none ⟨true, false⟩))).up = s.up := by
  induction n generalizing s with
  | zero => exact ⟨List.length_eq_zero_iff.mp (Nat.le_zero.mp hn), rfl⟩
  | succ n ih =>
      have hserver : s.server.pass none ⟨true, false⟩ = s.server.echo := by
        simp [XHeartbeat.pass, hstatus, XHeartbeat.serve]
      have hstep : (s.step (.pass none ⟨true, false⟩)).server = s.server.echo ∧
          (s.step (.pass none ⟨true, false⟩)).up = s.up := by
        simp only [PingNetwork.step, PingNetwork.pass, hserver]
        split <;> exact ⟨rfl, rfl⟩
      have hlength : s.server.echo.heartbeat.length ≤ n := by
        unfold XHeartbeat.echo
        cases hheartbeat : s.server.heartbeat with
        | nil => simp [hheartbeat]
        | cons wireMsg rest =>
            rw [hheartbeat, List.length_cons] at hn
            exact Nat.le_of_succ_le_succ hn
      have hrunning : s.server.echo.status = .running :=
        (XHeartbeat.echo_frame s.server).2.2.trans hstatus
      rw [List.replicate_succ, Runs.run_cons, ← hstep.2]
      exact ih (hstep.1 ▸ hrunning) (hstep.1 ▸ hlength)

theorem run_receive (peers : List RoutingId) (s : PingNetwork) :
    Runs.run PingNetwork.step s (peers.map .receive) =
      { s with down := s.down.takeAll peers } := by
  induction peers generalizing s with
  | nil => rfl
  | cons peer peers ih => exact ih _

theorem run_comes_back (events : List PingEvent) (hstatus : (run events).server.status = .running) :
    ∃ more, (∀ peer, pings peer more = []) ∧
      ∀ peer, on peer (run (events ++ more)).down.output = pings peer events := by
  -- The lanes to the server are emptied, then the thread echoes what waits, then the peers
  -- receive what is on the lanes to them.
  let delivers : List PingEvent := ((events.filterMap pingWire).map Prod.fst).map .deliver
  obtain ⟨hup₁, hstatus₁⟩ := run_deliver ((events.filterMap pingWire).map Prod.fst) (run events)
  have hrun₁ : run (events ++ delivers) = Runs.run PingNetwork.step (run events) delivers :=
    run_append _ _ _ _
  rw [← hrun₁] at hup₁ hstatus₁
  let echoes : List PingEvent :=
    List.replicate (run (events ++ delivers)).server.heartbeat.length (.pass none ⟨true, false⟩)
  obtain ⟨hheartbeat₂, hup₂⟩ := run_echo (run (events ++ delivers)).server.heartbeat.length
    (hstatus₁.trans hstatus) (Nat.le_refl _)
  have hrun₂ : run (events ++ delivers ++ echoes) =
      Runs.run PingNetwork.step (run (events ++ delivers)) echoes := run_append _ _ _ _
  rw [← hrun₂] at hheartbeat₂ hup₂
  have hdown₂ := (run_linked (events ++ delivers ++ echoes)).down
  let peers :=
    ((run (events ++ delivers ++ echoes)).server.sent.filterMap peerOf).map Prod.fst
  have hrun₃ : run (events ++ (delivers ++ echoes ++ peers.map .receive)) =
      { run (events ++ delivers ++ echoes) with
        down := (run (events ++ delivers ++ echoes)).down.takeAll peers } := by
    rw [← List.append_assoc, ← List.append_assoc, ← run_receive]
    exact run_append _ _ _ _
  have hnone : ∀ peer, pings peer (delivers ++ echoes ++ peers.map .receive) = [] := by
    intro peer
    rw [pings, List.filterMap_eq_nil_iff]
    intro event hmem
    simp only [delivers, echoes, List.mem_append, List.mem_map, List.mem_replicate] at hmem
    rcases hmem with (⟨_, -, rfl⟩ | ⟨-, rfl⟩) | ⟨_, -, rfl⟩ <;> rfl
  refine ⟨_, hnone, fun peer => ?_⟩
  have hjourney := run_journey (events ++ (delivers ++ echoes ++ peers.map .receive)) peer
  have hpings : pings peer (events ++ (delivers ++ echoes ++ peers.map .receive)) =
      pings peer events := by
    rw [pings, List.filterMap_append, ← pings, ← pings, hnone, List.append_nil]
  rw [hpings, PingNetwork.journey] at hjourney
  rw [hrun₃] at hjourney ⊢
  have hdown : ((run (events ++ delivers ++ echoes)).down.takeAll peers).pending peer = [] :=
    hdown₂.pending_takeAll peer
  simp only [hheartbeat₂, hup₂, hup₁, (run_linked events).up.pending_takeAll peer, hdown,
    List.filterMap_nil, on_nil, List.append_nil] at hjourney
  exact hjourney

/-- Whatever the order of all steps, each peer gets back its own pings, unchanged, in order
and once each, and those of no other peer: every ping that it has sent has come back, is on
its way back, waits at the server, or is on its way there. As long as the thread runs, all
of them can still come back. -/
theorem pings_come_back (events : List PingEvent) :
    (∀ peer, (run events).journey peer = pings peer events) ∧
      ((run events).server.status = .running →
        ∃ more, (∀ peer, pings peer more = []) ∧
          ∀ peer, on peer (run (events ++ more)).down.output = pings peer events) :=
  ⟨run_journey events, run_comes_back events⟩

end XeusZmq.Heartbeat
