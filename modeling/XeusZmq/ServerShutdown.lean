import XeusZmq.StopChain
import XeusZmq.Heartbeat
import XeusZmq.PublisherRuns
import Mathlib.Data.Fin.VecNotation

/-!
The publisher and the heartbeat thread of a server, and `stop_channels`, with which
both servers end them.
-/

namespace XeusZmq.ServerShutdown

open XeusZmq.Values
open XeusZmq.ServerLoops
open XeusZmq.Publisher (XPublisher PublisherStatus)
open XeusZmq.Heartbeat (XHeartbeat HeartbeatStatus)
open XeusZmq.Baton
open XeusZmq.StopChain

/-! The two threads as threads that reply to one request and leave. -/

/-- If the message is a subscription, the callback serializes the welcome to it. -/
def Welcomed (config : Publisher.Config) (wireMsg : Multipart) : Prop :=
  ∀ topic, XPublisher.subscription wireMsg = some topic →
    ∀ call, ∃ message, config.welcomeMessage call topic = .ok message

/-- `zmq::poll` fails with `EINTR` at most. -/
def Harmless (pollError : Option Nat) : Prop :=
  ∀ num, pollError = some num → num = eintr

def publisherStatus : PublisherStatus → RepStatus
  | .running => .running
  | .left => .left
  | .failed _ => .failed

def publisherRep (s : XPublisher) : Rep Multipart :=
  ⟨s.controller, s.replies, publisherStatus s.status⟩

def heartbeatStatus : HeartbeatStatus → RepStatus
  | .running => .running
  | .left => .left
  | .failed _ => .failed

def heartbeatRep (s : XHeartbeat) : Rep Multipart :=
  ⟨s.controller, s.replies, heartbeatStatus s.status⟩

theorem pass_of_running {waiting replies : List Multipart} {sees : Bool}
    (h : sees = true → waiting = []) :
    (⟨waiting, replies, .running⟩ : Rep Multipart).pass sees = ⟨waiting, replies, .running⟩ := by
  cases sees with
  | false => rfl
  | true =>
      rw [h rfl]
      rfl

theorem pass_of_not_running {r : Rep Multipart} {sees : Bool} (h : r.status ≠ .running) :
    r.pass sees = r := by
  unfold Rep.pass
  split
  · rename_i hstatus _
    exact absurd hstatus h
  · rfl

theorem forward_replies (pipe : Nat) (s : XPublisher) : (s.forward pipe).replies = s.replies := by
  unfold XPublisher.forward
  split <;> rfl

theorem publisherRep_firstBranch (ready : Bool) (pipe : Nat) (s : XPublisher) :
    publisherRep (if ready then s.forward pipe else s) = publisherRep s := by
  split_ifs
  · rw [publisherRep, PublisherRuns.forward_controller, forward_replies,
      PublisherRuns.forward_status]
    rfl
  · rfl

theorem peers_pass {config : Publisher.Config} (pollError : Option Nat)
    (ready : Publisher.Ready) (pipe : Nat) {s : XPublisher} {wireMsg : Multipart}
    (hmem : wireMsg ∈ (s.pass config pollError ready pipe).peers) : wireMsg ∈ s.peers := by
  have hpassed := PublisherRuns.pass_passed config pollError ready pipe s
  have hfirst := PublisherRuns.firstBranch_eq XPublisher.peers (PublisherRuns.forward_peers pipe)
    ready.listener s
  generalize s.pass config pollError ready pipe = s' at hpassed hmem
  cases hpassed with
  | ended | pollFailed => exact hmem
  | answered s₁ stopMsg rest hstatus hnone hs₁ | skipped s₁ hstatus hnone hs₁ =>
      rw [← hs₁] at hfirst
      exact hfirst ▸ hmem
  | served s₁ s₂ hstatus hnone hs₁ hcontroller hserved =>
      rw [← hs₁] at hfirst
      rw [← hfirst]
      cases hserved with
      | nothing => exact hmem
      | ignored _ _ hpeers | welcomed _ _ _ _ _ hpeers | failed _ _ _ _ _ hpeers =>
          rw [hpeers]
          exact List.mem_cons_of_mem _ hmem

theorem publisherRep_pass {config : Publisher.Config} {pollError : Option Nat}
    (hpoll : Harmless pollError) (ready : Publisher.Ready) (pipe : Nat) {s : XPublisher}
    (hwelcomed : ∀ wireMsg ∈ s.peers, Welcomed config wireMsg) :
    publisherRep (s.pass config pollError ready pipe) =
      (publisherRep s).pass (pollError.isNone && ready.controller) := by
  have hpassed := PublisherRuns.pass_passed config pollError ready pipe s
  have hfirst := publisherRep_firstBranch ready.listener pipe s
  have hrunning (hstatus : s.status = .running) :
      publisherRep s = ⟨s.controller, s.replies, .running⟩ := by
    rw [publisherRep, hstatus]
    rfl
  generalize s.pass config pollError ready pipe = s' at hpassed
  cases hpassed with
  | ended hended =>
      refine (pass_of_not_running fun hstatus => hended ?_).symm
      cases hs : s.status with
      | running => rfl
      | left | failed => rw [publisherRep, hs] at hstatus; cases hstatus
  | pollFailed num status hstatus hnum hkeep =>
      rw [hrunning hstatus, hnum, hkeep (hpoll num hnum)]
      rfl
  | answered s₁ stopMsg rest hstatus hnone hs₁ hready hcontroller =>
      rw [← hs₁] at hfirst
      rw [hrunning hstatus, hnone, hready, hcontroller, publisherRep]
      simp only
      rw [show s₁.replies = s.replies from congrArg Rep.replies hfirst]
      rfl
  | served s₁ s₂ hstatus hnone hs₁ hcontroller hserved =>
      rw [← hs₁] at hfirst
      rw [hrunning hstatus, hnone, pass_of_running (by simpa using hcontroller),
        ← hrunning hstatus, ← hfirst]
      cases hserved with
      | nothing | ignored | welcomed => rfl
      | failed wireMsg rest call topic f hpeers hsubscription hmessage =>
          have hpeers₁ := PublisherRuns.firstBranch_eq XPublisher.peers
            (PublisherRuns.forward_peers pipe) ready.listener s
          rw [← hs₁, hpeers] at hpeers₁
          obtain ⟨message, hok⟩ :=
            hwelcomed wireMsg (hpeers₁ ▸ List.mem_cons_self) topic hsubscription call
          cases hok.symm.trans hmessage
  | skipped s₁ hstatus hnone hs₁ hcontroller =>
      rw [← hs₁] at hfirst
      rw [hrunning hstatus, hnone, pass_of_running (by simpa using hcontroller),
        ← hrunning hstatus, hfirst]

theorem heartbeatRep_pass {pollError : Option Nat} (hpoll : Harmless pollError)
    (ready : Heartbeat.Ready) (s : XHeartbeat) :
    heartbeatRep (s.pass pollError ready) =
      (heartbeatRep s).pass (pollError.isNone && ready.controller) := by
  have hpassed := XHeartbeat.pass_passed pollError ready s
  have hrunning (hstatus : s.status = .running) :
      heartbeatRep s = ⟨s.controller, s.replies, .running⟩ := by
    rw [heartbeatRep, hstatus]
    rfl
  generalize s.pass pollError ready = s' at hpassed
  cases hpassed with
  | ended hended =>
      refine (pass_of_not_running fun hstatus => hended ?_).symm
      cases hs : s.status with
      | running => rfl
      | left | failed => rw [heartbeatRep, hs] at hstatus; cases hstatus
  | pollFailed num status hstatus hnum hkeep =>
      rw [hrunning hstatus, hnum, hkeep (hpoll num hnum)]
      rfl
  | answered s₁ stopMsg rest hstatus hnone hs₁ hready hcontroller =>
      rw [hrunning hstatus, hnone, hready, hcontroller]
      rfl
  | echoed s₁ hstatus hnone hs₁ hcontroller =>
      obtain ⟨hcontroller₁, hreplies₁, hstatus₁⟩ :=
        XHeartbeat.firstBranch_frame ready.heartbeat s
      rw [hs₁] at hcontroller₁ hreplies₁ hstatus₁
      rw [hrunning hstatus, hnone, pass_of_running (by simpa using hcontroller), heartbeatRep,
        hcontroller₁, hreplies₁, hstatus₁, hstatus]
      rfl

/-- How far `stop_channels` has come. -/
inductive StopStatus
  | begins
  | awaitsPublisher
  | publisherReplied
  | awaitsHeartbeat
  | heartbeatReplied
  deriving DecidableEq, Repr

namespace StopStatus

def asked : StopStatus → Nat
  | .begins | .awaitsPublisher => 0
  | .publisherReplied | .awaitsHeartbeat => 1
  | .heartbeatReplied => 2

def awaiting : StopStatus → Bool
  | .awaitsPublisher | .awaitsHeartbeat => true
  | _ => false

end StopStatus

/-- The publisher and the heartbeat thread, with the thread that stops them. -/
structure Listeners where
  publisher : XPublisher
  heartbeat : XHeartbeat
  stopMsg : Bytes
  stopper : StopStatus

inductive ListenerEvent
  | publish (pipe : Nat) (wireMsg : Multipart)
  | peer (wireMsg : Multipart)
  | ping (wireMsg : Multipart)
  | publisherPass (pollError : Option Nat) (ready : Publisher.Ready) (pipe : Nat)
  | heartbeatPass (pollError : Option Nat) (ready : Heartbeat.Ready)
  | stopChannels

namespace Listeners

/-- The two threads when the start message has been published, with what the stop message
will hold when the first of them is asked. -/
def initial (config : Publisher.Config) (pipe : Nat) (startMsg : Multipart) (stopMsg : Bytes) :
    Listeners :=
  ⟨XPublisher.initial.step config (.publish pipe startMsg), .initial, stopMsg, .begins⟩

/-- One call of `send` or `recv` in `stop_channels`. `zmq_msg_send` takes the content of
the message that it sends. -/
def stopChannels (config : Publisher.Config) (self : Listeners) : Listeners :=
  match self.stopper with
  | .begins =>
      { self with
        publisher := self.publisher.step config (.requestStop [self.stopMsg])
        stopMsg := []
        stopper := .awaitsPublisher }
  | .awaitsPublisher =>
      if self.publisher.replies.isEmpty then self else { self with stopper := .publisherReplied }
  | .publisherReplied =>
      { self with
        heartbeat := { self.heartbeat with
          controller := self.heartbeat.controller ++ [[self.stopMsg]] }
        stopMsg := []
        stopper := .awaitsHeartbeat }
  | .awaitsHeartbeat =>
      if self.heartbeat.replies.isEmpty then self else { self with stopper := .heartbeatReplied }
  | .heartbeatReplied => self

def step (config : Publisher.Config) (self : Listeners) : ListenerEvent → Listeners
  | .publish pipe wireMsg =>
      { self with publisher := self.publisher.step config (.publish pipe wireMsg) }
  | .peer wireMsg => { self with publisher := self.publisher.step config (.peer wireMsg) }
  | .ping wireMsg =>
      { self with
        heartbeat := { self.heartbeat with heartbeat := self.heartbeat.heartbeat ++ [wireMsg] } }
  | .publisherPass pollError ready pipe =>
      { self with publisher := self.publisher.pass config pollError ready pipe }
  | .heartbeatPass pollError ready =>
      { self with heartbeat := self.heartbeat.pass pollError ready }
  | .stopChannels => self.stopChannels config

end Listeners

/-! The two threads as a chain. -/

def ListenerEvent.Harmless (config : Publisher.Config) : ListenerEvent → Prop
  | .peer wireMsg => Welcomed config wireMsg
  | .publisherPass pollError _ _ | .heartbeatPass pollError _ =>
      ServerShutdown.Harmless pollError
  | _ => True

def label : ListenerEvent → Option (Label 2)
  | .publisherPass pollError ready _ => some (.serve 0 (pollError.isNone && ready.controller))
  | .heartbeatPass pollError ready => some (.serve 1 (pollError.isNone && ready.controller))
  | .stopChannels => some .call
  | _ => none

def chainOf (s : Listeners) : Chain 2 Multipart :=
  ⟨![publisherRep s.publisher, heartbeatRep s.heartbeat], s.stopper.asked, s.stopper.awaiting⟩

/-- The requests, of which only the first one has its content. -/
def stopRequests (first : Bytes) : Fin 2 → Multipart :=
  ![[first], [[]]]

/-- What `stop_msg` holds. -/
def HoldsMessage (first : Bytes) (s : Listeners) : Prop :=
  s.stopMsg = if s.stopper = .begins then first else []

theorem update_zero {α : Type} (a b c : α) : Function.update ![a, b] 0 c = ![c, b] :=
  funext (Fin.forall_fin_two.mpr ⟨rfl, rfl⟩)

theorem update_one {α : Type} (a b c : α) : Function.update ![a, b] 1 c = ![a, c] :=
  funext (Fin.forall_fin_two.mpr ⟨rfl, rfl⟩)

theorem chainOf_stopChannels {config : Publisher.Config} {first : Bytes} {s : Listeners}
    (hmessage : HoldsMessage first s) :
    chainOf (s.stopChannels config) = (chainOf s).call (stopRequests first) := by
  unfold HoldsMessage at hmessage
  unfold Listeners.stopChannels Chain.call
  cases hstopper : s.stopper with
  | begins =>
      rw [hstopper, if_pos rfl] at hmessage
      rw [hmessage]
      simp only [chainOf, hstopper, StopStatus.asked, StopStatus.awaiting]
      rw [dif_pos (by decide)]
      exact congrArg (fun rep => (⟨rep, 0, true⟩ : Chain 2 Multipart)) (update_zero _ _ _).symm
  | awaitsPublisher =>
      simp only [chainOf, hstopper, StopStatus.asked, StopStatus.awaiting]
      rw [dif_pos (by decide)]
      show _ = if s.publisher.replies.isEmpty = true then _ else _
      split_ifs with hempty
      · rw [hstopper]
      · rfl
  | publisherReplied =>
      rw [hstopper, if_neg (by rintro ⟨⟩)] at hmessage
      rw [hmessage]
      simp only [chainOf, hstopper, StopStatus.asked, StopStatus.awaiting]
      rw [dif_pos (by decide)]
      exact congrArg (fun rep => (⟨rep, 1, true⟩ : Chain 2 Multipart)) (update_one _ _ _).symm
  | awaitsHeartbeat =>
      simp only [chainOf, hstopper, StopStatus.asked, StopStatus.awaiting]
      rw [dif_pos (by decide)]
      show _ = if s.heartbeat.replies.isEmpty = true then _ else _
      split_ifs with hempty
      · rw [hstopper]
      · rfl
  | heartbeatReplied =>
      simp only [chainOf, hstopper, StopStatus.asked]
      rw [dif_neg (by decide)]

theorem holdsMessage_step {config : Publisher.Config} {first : Bytes} {s : Listeners}
    (h : HoldsMessage first s) (event : ListenerEvent) :
    HoldsMessage first (s.step config event) := by
  cases event with
  | stopChannels =>
      obtain ⟨publisher, heartbeat, stopMsg, stopper⟩ := s
      simp only [Listeners.step, Listeners.stopChannels]
      cases stopper with
      | begins | publisherReplied => rfl
      | awaitsPublisher | awaitsHeartbeat =>
          simp only
          split_ifs
          · exact h
          · exact h
      | heartbeatReplied => exact h
  | publish | peer | ping | publisherPass | heartbeatPass => exact h

theorem chainOf_step {config : Publisher.Config} {first : Bytes} {s : Listeners}
    (hmessage : HoldsMessage first s)
    (hwelcomed : ∀ wireMsg ∈ s.publisher.peers, Welcomed config wireMsg) {event : ListenerEvent}
    (hharmless : event.Harmless config) :
    chainOf (s.step config event) =
      (label event).elim (chainOf s) ((chainOf s).step (stopRequests first)) := by
  cases event with
  | stopChannels => exact chainOf_stopChannels hmessage
  | publisherPass pollError ready pipe =>
      have hrep := publisherRep_pass hharmless ready pipe hwelcomed
      simp only [Listeners.step, label, Option.elim, Chain.step, Chain.serve, chainOf, hrep]
      exact congrArg (fun rep => (⟨rep, _, _⟩ : Chain 2 Multipart)) (update_zero _ _ _).symm
  | heartbeatPass pollError ready =>
      have hrep := heartbeatRep_pass hharmless ready s.heartbeat
      simp only [Listeners.step, label, Option.elim, Chain.step, Chain.serve, chainOf, hrep]
      exact congrArg (fun rep => (⟨rep, _, _⟩ : Chain 2 Multipart)) (update_one _ _ _).symm
  | publish | peer | ping => rfl

/-! How far the two threads and the one that stops them have come. -/

structure Inv (config : Publisher.Config) (first : Bytes) (s : Listeners) : Prop where
  message : HoldsMessage first s
  welcomed : ∀ wireMsg ∈ s.publisher.peers, Welcomed config wireMsg
  chain : (chainOf s).Inv (stopRequests first)

theorem inv_initial (config : Publisher.Config) (pipe : Nat) (startMsg : Multipart)
    (first : Bytes) : Inv config first (Listeners.initial config pipe startMsg first) where
  message := rfl
  welcomed _ hmem := absurd hmem List.not_mem_nil
  chain := by
    have hinitial : chainOf (Listeners.initial config pipe startMsg first) = Chain.initial :=
      congrArg (fun rep => (⟨rep, 0, false⟩ : Chain 2 Multipart))
        (funext (Fin.forall_fin_two.mpr ⟨rfl, rfl⟩))
    exact hinitial ▸ Chain.inv_initial _

def turn (phase : Nat) (event : ListenerEvent) : Prop :=
  ∃ chainLabel, label event = some chainLabel ∧ Chain.turn phase chainLabel

theorem welcomed_step {config : Publisher.Config} {s : Listeners}
    (h : ∀ wireMsg ∈ s.publisher.peers, Welcomed config wireMsg) {event : ListenerEvent}
    (hharmless : event.Harmless config) {wireMsg : Multipart}
    (hmem : wireMsg ∈ (s.step config event).publisher.peers) : Welcomed config wireMsg := by
  cases event with
  | peer wireMsg' =>
      rcases List.mem_append.mp hmem with hmem | hmem
      · exact h wireMsg hmem
      · exact List.mem_singleton.mp hmem ▸ hharmless
  | publisherPass pollError ready pipe => exact h wireMsg (peers_pass pollError ready pipe hmem)
  | stopChannels =>
      refine h wireMsg ?_
      simp only [Listeners.step, Listeners.stopChannels] at hmem
      cases hstopper : s.stopper with
      | begins | publisherReplied | heartbeatReplied =>
          rw [hstopper] at hmem
          exact hmem
      | awaitsPublisher | awaitsHeartbeat =>
          rw [hstopper] at hmem
          simp only at hmem
          split_ifs at hmem <;> exact hmem
  | publish | ping | heartbeatPass => exact h wireMsg hmem

theorem listener_passes (config : Publisher.Config) (first : Bytes) :
    Passes (Listeners.step config) (Inv config first) (ListenerEvent.Harmless config)
      (fun s => (chainOf s).phase) turn 6 where
  keeps s event h hharmless := by
    refine ⟨holdsMessage_step h.message event, fun _ => welcomed_step h.welcomed hharmless, ?_⟩
    rw [chainOf_step h.message h.welcomed hharmless]
    cases label event with
    | none => exact h.chain
    | some chainLabel => exact Chain.inv_step h.chain chainLabel
  mono s event h hharmless := by
    rw [chainOf_step h.message h.welcomed hharmless]
    cases label event with
    | none => exact Nat.le_refl _
    | some chainLabel => exact (Chain.passes _).mono _ chainLabel h.chain trivial
  leads s event h hharmless hlast hturn := by
    obtain ⟨chainLabel, hlabel, hturn⟩ := hturn
    rw [chainOf_step h.message h.welcomed hharmless, hlabel]
    exact (Chain.passes _).leads _ chainLabel h.chain trivial hlast hturn

/-- Where the two threads are when `stop_channels` returns. -/
theorem Inv.stopped {config : Publisher.Config} {first : Bytes} {s : Listeners}
    (h : Inv config first s)
    (hstopper : s.stopper = .heartbeatReplied) :
    publisherRep s.publisher = ⟨[], [[first]], .left⟩ ∧
      heartbeatRep s.heartbeat = ⟨[], [[[]]], .left⟩ := by
  have hleft := h.chain.left (congrArg StopStatus.asked hstopper)
  exact ⟨hleft 0, hleft 1⟩

theorem Inv.stopped_of_phase {config : Publisher.Config} {first : Bytes} {s : Listeners}
    (h : Inv config first s)
    (hphase : 6 ≤ (chainOf s).phase) : s.stopper = .heartbeatReplied := by
  have hasked : s.stopper.asked = 2 := Chain.asked_of_phase h.chain hphase
  cases hstopper : s.stopper with
  | heartbeatReplied => rfl
  | begins | awaitsPublisher | publisherReplied | awaitsHeartbeat =>
      rw [hstopper] at hasked
      exact absurd hasked (by decide)

end XeusZmq.ServerShutdown
