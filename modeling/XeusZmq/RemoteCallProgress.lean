import XeusZmq.RemoteCallRuns

/-!
That every request is answered, if the loop of the server makes progress.
-/

namespace XeusZmq.RemoteCallProgress

open XeusZmq.Values
open XeusZmq.Authentication
open XeusZmq.Serializer
open XeusZmq.WireRoundTrip
open XeusZmq.ServerLoops
open XeusZmq.FifoPort
open XeusZmq.Runs
open XeusZmq.RemoteCalls
open XeusZmq.RemoteCallRuns

section Progress

variable {σ ρ : Type} {session : Session} {server : Server session.decode σ ρ}
  {listener : Listener} {water : HighWater Line}

/-- Everything that waits at the sockets decodes. -/
def Decodes {decode : Multipart → Result XMessage} (server : Server decode σ ρ) (s : σ) : Prop :=
  ∀ channel, ∀ wireMsg ∈ (server.ports s).pending channel, ∃ msg, decode wireMsg = .ok msg

/-- A server that keeps serving as long as what arrives decodes and its steps are benign,
and reads all that waits. -/
structure Progress {decode : Multipart → Result XMessage} (server : Server decode σ ρ)
    (serving : σ → Prop) (benign : ρ → Prop) : Prop where
  initial : serving server.initial
  arrive : ∀ s channel wireMsg, serving s → serving (server.arrive s channel wireMsg)
  pass : ∀ s kind, serving s → benign kind → Decodes server s → serving (server.pass s kind)
  drains : ∀ s, serving s → Decodes server s → ∃ kinds : List ρ, (∀ kind ∈ kinds, benign kind) ∧
    ∀ channel, (server.ports (kinds.foldl server.pass s)).pending channel = []

/-- The listeners never stop the server, and what they send can be serialized. -/
def Answers (session : Session) (listener : Listener) : Prop :=
  ∀ past call action, action ∈ listener past call → ∃ channel msg wireMsg,
    action = .send channel msg ∧
      serialize session.json session.auth session.serverHandler msg = .ok wireMsg

def Benign (benign : ρ → Prop) (events : List (Event ρ)) : Prop :=
  ∀ kind, .pass kind ∈ events → benign kind

theorem perform_server {actions : List Action} (called : Channel) (s : Network σ)
    (h : ∀ action ∈ actions, ∃ channel msg wireMsg, action = .send channel msg ∧
      serialize session.json session.auth session.serverHandler msg = .ok wireMsg) :
    (s.perform session server water called actions).server = s.server := by
  induction actions generalizing s with
  | nil => rfl
  | cons action actions ih =>
      obtain ⟨channel, msg, wireMsg, rfl, hserialize⟩ := h action List.mem_cons_self
      rw [Network.perform, hserialize]
      simp only
      rw [ih _ fun action hmem => h action (List.mem_cons_of_mem _ hmem), router_server]

theorem pass_server (hanswers : Answers session listener) (kind : ρ) (s : Network σ) :
    (s.pass session server listener water kind).server = server.pass s.server kind := by
  unfold Network.pass
  simp only
  split
  · rfl
  · exact perform_server _ _ (hanswers _ _)

theorem deliver_down (line : Line) (s : Network σ) :
    (s.deliver session server line).down = s.down := by
  unfold Network.deliver
  split <;> rfl

theorem deliver_up (line : Line) (s : Network σ) :
    (s.deliver session server line).up = s.up.take line := by
  unfold Network.deliver Ports.take
  split <;> simp_all

/-- What has arrived from clients that call `send_on_shell` and `send_on_control` decodes. -/
theorem linked_decodes {events : List (Event ρ)} (hids : Deliverable events)
    {s : Network σ} (h : Linked session server listener water events s) :
    Decodes server s.server := by
  intro channel wireMsg hwaits
  obtain ⟨⟨line, sent⟩, houtput, hrouter⟩ :=
    List.mem_map.mp (mem_on.mp ((h.sockets channel).mem_arrived hwaits))
  obtain ⟨rfl, rfl⟩ := Prod.mk.inj hrouter
  have hsent : sent ∈ on line (events.filterMap (upWire session)) := by
    rw [(h.up line).arrived_eq]
    exact List.mem_append_left _ (mem_on.mpr houtput)
  obtain ⟨event, hevent, hwire⟩ := List.mem_filterMap.mp (mem_on.mp hsent)
  cases event with
  | send line' msg =>
      rw [upWire] at hwire
      cases hserialize : serialize session.json session.auth session.clientHandler msg with
      | error f =>
          rw [hserialize] at hwire
          cases hwire
      | ok wireMsg =>
          rw [hserialize] at hwire
          obtain ⟨rfl, rfl⟩ := Prod.mk.inj (Option.some.inj hwire)
          obtain ⟨frames, hwrites, rfl⟩ := serialize_eq_ok.mp hserialize
          obtain ⟨msg', hdecode, -⟩ :=
            decode_frames hwrites (line'.2.val :: ·) fun id hmem => by
              rcases List.mem_cons.mp hmem with rfl | hmem
              · exact line'.2.ne_delimiter
              · exact hids line' msg hevent id hmem
          exact ⟨msg', hdecode⟩
  | _ => cases hwire

/-- Events of which none is a client's. -/
def SendsNothing (more : List (Event ρ)) : Prop :=
  ∀ line msg, .send line msg ∉ more

theorem SendsNothing.append {front more : List (Event ρ)} (hfront : SendsNothing front)
    (hmore : SendsNothing more) : SendsNothing (front ++ more) := by
  intro line msg hmem
  rcases List.mem_append.mp hmem with hmem | hmem
  · exact hfront line msg hmem
  · exact hmore line msg hmem

theorem run_deliver {serving : σ → Prop} {benign : ρ → Prop}
    (hprogress : Progress server serving benign) (lines : List Line) (s : Network σ)
    (hserving : serving s.server) :
    (Runs.run (Network.step session server listener water) s (lines.map .deliver)).up =
        s.up.takeAll lines ∧
      (Runs.run (Network.step session server listener water) s (lines.map .deliver)).down =
        s.down ∧
      serving (Runs.run (Network.step session server listener water) s
        (lines.map .deliver)).server := by
  induction lines generalizing s with
  | nil => exact ⟨rfl, rfl, hserving⟩
  | cons line lines ih =>
      have hserving' : serving (s.deliver session server line).server := by
        unfold Network.deliver
        split
        · exact hserving
        · exact hprogress.arrive _ _ _ hserving
      have hrest := ih (s.deliver session server line) hserving'
      rw [deliver_up, deliver_down] at hrest
      exact hrest

theorem run_receive (lines : List Line) (s : Network σ) :
    Runs.run (Network.step session server listener water) s (lines.map .receive) =
      { s with down := s.down.takeAll lines } := by
  induction lines generalizing s with
  | nil => rfl
  | cons line lines ih => exact ih _

theorem run_serving {serving : σ → Prop} {benign : ρ → Prop}
    (hprogress : Progress server serving benign) (hanswers : Answers session listener)
    (events : List (Event ρ)) (hids : Deliverable events) (hbenign : Benign benign events) :
    serving (Network.run session server listener water events).server := by
  revert hids hbenign
  apply run_induction (P := fun (events : List (Event ρ)) (s : Network σ) =>
    Deliverable events → Benign benign events → serving s.server)
  · exact fun _ _ => hprogress.initial
  · intro events event ih hids hbenign
    have hids' : Deliverable events := fun line msg hmem =>
      hids line msg (List.mem_append_left _ hmem)
    have hserving := ih hids' fun kind hmem => hbenign kind (List.mem_append_left _ hmem)
    have hlinked := @run_linked σ ρ session server listener water events
    cases event with
    | send line msg =>
        show serving (Network.sendOn session line msg _).server
        unfold Network.sendOn
        split <;> exact hserving
    | deliver line =>
        show serving (Network.deliver session server line _).server
        unfold Network.deliver
        split
        · exact hserving
        · exact hprogress.arrive _ _ _ hserving
    | pass kind =>
        show serving (Network.pass session server listener water kind _).server
        rw [pass_server hanswers]
        exact hprogress.pass _ kind hserving (hbenign kind List.mem_concat_self)
          (linked_decodes hids' hlinked)
    | receive line => exact hserving

/-- Nothing is on its way, and nothing has been dropped since. -/
structure Drained {decode : Multipart → Result XMessage} (server : Server decode σ ρ)
    (before s : Network σ) : Prop where
  up : ∀ line, s.up.pending line = []
  server : ∀ channel, (server.ports s.server).pending channel = []
  down : ∀ line, s.down.lanes.pending line = []
  dropped : s.down.dropped = before.down.dropped

end Progress

end XeusZmq.RemoteCallProgress
