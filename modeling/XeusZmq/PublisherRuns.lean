import XeusZmq.Publisher
import XeusZmq.Runs

/-!
What every run of the publisher thread preserves: each internal pipe is
forwarded in order, and the messages of the peers are taken one after another.
-/

namespace XeusZmq.PublisherRuns

open XeusZmq.Values
open XeusZmq.ServerLoops
open XeusZmq.FifoPort
open XeusZmq.Runs
open XeusZmq.Publisher

variable {config : Config}

def run (config : Config) : List Event → XPublisher :=
  Runs.run (XPublisher.step config) .initial

theorem run_append_cons (before after : List Event) (event : Event) :
    run config (before ++ event :: after) =
      Runs.run (XPublisher.step config) ((run config before).step config event) after :=
  Runs.run_append _ _ _ _

def isStop : Event → Bool
  | .requestStop _ => true
  | _ => false

def publication (stopSent : Bool) : Event → Option (Nat × Published)
  | .publish pipe wireMsg => some (pipe, ⟨wireMsg, !stopSent⟩)
  | _ => none

def publicationsFrom : Bool → List Event → List (Nat × Published)
  | _, [] => []
  | stopSent, event :: events =>
      (publication stopSent event).toList ++ publicationsFrom (stopSent || isStop event) events

/-- Everything sent to the internal endpoint, with the flag for whether it was
sent before the first stop request. -/
def publications (events : List Event) : List (Nat × Published) :=
  publicationsFrom false events

theorem publicationsFrom_append (stopSent : Bool) (front events : List Event) :
    publicationsFrom stopSent (front ++ events) =
      publicationsFrom stopSent front ++
        publicationsFrom (stopSent || front.any isStop) events := by
  induction front generalizing stopSent with
  | nil => simp [publicationsFrom]
  | cons event front ih =>
      simp only [List.cons_append, publicationsFrom, ih, List.any_cons, Bool.or_assoc,
        List.append_assoc]

theorem publications_concat (events : List Event) (event : Event) :
    publications (events ++ [event]) =
      publications events ++ (publication (events.any isStop) event).toList := by
  simp [publications, publicationsFrom_append, publicationsFrom]

def peerMessage : Event → Option Multipart
  | .peer wireMsg => some wireMsg
  | _ => none

def peerMessages (events : List Event) : List Multipart :=
  events.filterMap peerMessage

theorem peerMessages_concat (events : List Event) (event : Event) :
    peerMessages (events ++ [event]) = peerMessages events ++ (peerMessage event).toList :=
  filterMap_concat peerMessage events event

def forwards (s : XPublisher) : List (Nat × Published) :=
  s.sent.filterMap fun
    | .forwarded pipe message => some (pipe, message)
    | .welcome _ _ => none

def welcomes (s : XPublisher) : List Bytes :=
  s.sent.filterMap fun
    | .forwarded _ _ => none
    | .welcome topic _ => some topic

def ports (s : XPublisher) : Ports Nat Published Published :=
  ⟨fun pipe => on pipe s.listener, forwards s⟩

/-! The parts of one iteration. -/

theorem receive_eq_none {pipe : Nat} {listener : List (Nat × Published)}
    (h : XPublisher.receive pipe listener = none) : listener = [] := by
  unfold XPublisher.receive at h
  split at h
  · exact absurd h nofun
  · exact absurd h nofun
  · rfl

theorem receive_eq_some {pipe source : Nat} {listener rest : List (Nat × Published)}
    {message : Published}
    (h : XPublisher.receive pipe listener = some (source, message, rest)) :
    takeFrom source listener = some (message, rest) := by
  unfold XPublisher.receive at h
  split at h
  · rename_i htake
    obtain ⟨rfl, hrest⟩ := Prod.mk.inj (Option.some.inj h)
    obtain ⟨rfl, rfl⟩ := Prod.mk.inj hrest
    exact htake
  · obtain ⟨rfl, hrest⟩ := Prod.mk.inj (Option.some.inj h)
    obtain ⟨rfl, rfl⟩ := Prod.mk.inj hrest
    rw [takeFrom, if_pos rfl]
  · exact absurd h.symm (Option.some_ne_none _)

theorem forward_ports (pipe : Nat) (s : XPublisher) :
    Ports.Step some (ports s) none (ports (s.forward pipe)) := by
  unfold XPublisher.forward
  split
  · rename_i source message rest hreceive
    obtain ⟨hothers, hself⟩ := on_takeFrom (receive_eq_some hreceive)
    have htake : Ports.Step some (ports s) none _ := .take source message _ hself
    convert htake using 1
    simp only [ports, forwards, List.filterMap_append, hothers]
    rfl
  · exact .idle

theorem answer_ports (s : XPublisher) : ports s.answer = ports s := by
  unfold XPublisher.answer
  split <;> rfl

theorem welcome_ports (topic : Bytes) (s : XPublisher) :
    ports (s.welcome config topic) = ports s := by
  unfold XPublisher.welcome
  split
  · rfl
  · simp [ports, forwards]

theorem servePeer_ports (s : XPublisher) : ports (s.servePeer config) = ports s := by
  unfold XPublisher.servePeer
  split
  · rfl
  · simp only
    split
    · exact welcome_ports _ _
    · rfl

theorem pass_ports (pollError : Option Nat) (ready : Ready) (pipe : Nat) (s : XPublisher) :
    Ports.Step some (ports s) none (ports (s.pass config pollError ready pipe)) := by
  unfold XPublisher.pass
  split
  · split_ifs <;> exact .idle
  · have hforward : Ports.Step some (ports s) none
        (ports (if ready.listener then s.forward pipe else s)) := by
      split_ifs
      · exact forward_ports pipe s
      · exact .idle
    simp only
    generalize (if ready.listener then s.forward pipe else s) = s₁ at hforward
    split_ifs
    · rwa [answer_ports]
    · rwa [servePeer_ports]
    · exact hforward
  · exact .idle

theorem step_ports (s : XPublisher) (event : Event) :
    Ports.Step some (ports s) (publication s.stopSent event) (ports (s.step config event)) := by
  cases event with
  | publish pipe wireMsg =>
      have harrive : Ports.Step some (ports s) (some (pipe, _)) _ :=
        .arrive pipe (Published.mk wireMsg !s.stopSent)
      have hports : ports (s.step config (.publish pipe wireMsg)) =
          ⟨Function.update (ports s).pending pipe
            ((ports s).pending pipe ++ [⟨wireMsg, !s.stopSent⟩]), forwards s⟩ := by
        simp only [ports, XPublisher.step, Ports.mk.injEq]
        refine ⟨?_, rfl⟩
        funext other
        by_cases hother : other = pipe
        · subst hother
          simp
        · rw [Function.update_of_ne hother, on_append, on_cons_of_ne (Ne.symm hother), on_nil,
            List.append_nil]
      rwa [hports]
  | requestStop stopMsg => exact .idle
  | peer wireMsg => exact .idle
  | pass pollError ready pipe => exact pass_ports pollError ready pipe s

/-! Forwarding touches the listener and what is sent, and nothing else. -/

@[simp] theorem forward_controller (pipe : Nat) (s : XPublisher) :
    (s.forward pipe).controller = s.controller := by
  unfold XPublisher.forward
  split <;> rfl

@[simp] theorem forward_peers (pipe : Nat) (s : XPublisher) :
    (s.forward pipe).peers = s.peers := by
  unfold XPublisher.forward
  split <;> rfl

@[simp] theorem forward_stopSent (pipe : Nat) (s : XPublisher) :
    (s.forward pipe).stopSent = s.stopSent := by
  unfold XPublisher.forward
  split <;> rfl

@[simp] theorem forward_status (pipe : Nat) (s : XPublisher) :
    (s.forward pipe).status = s.status := by
  unfold XPublisher.forward
  split <;> rfl

@[simp] theorem welcomes_forward (pipe : Nat) (s : XPublisher) :
    welcomes (s.forward pipe) = welcomes s := by
  unfold XPublisher.forward
  split
  · simp [welcomes]
  · rfl

theorem welcome_mem_forward {pipe : Nat} {s : XPublisher} {topic : Bytes} {wireMsg : Multipart} :
    .welcome topic wireMsg ∈ (s.forward pipe).sent ↔ .welcome topic wireMsg ∈ s.sent := by
  unfold XPublisher.forward
  split <;> simp

/-- What forwarding leaves alone, the first branch of an iteration does too. -/
theorem firstBranch_eq {β : Type*} {pipe : Nat} (f : XPublisher → β)
    (hf : ∀ s : XPublisher, f (s.forward pipe) = f s) (ready : Bool) (s : XPublisher) :
    f (if ready then s.forward pipe else s) = f s := by
  split_ifs
  · exact hf s
  · rfl

inductive PeerServed (config : Config) (s : XPublisher) : XPublisher → Prop
  | nothing (hpeers : s.peers = []) : PeerServed config s s
  | ignored (wireMsg : Multipart) (rest : List Multipart) (hpeers : s.peers = wireMsg :: rest)
      (hsubscription : XPublisher.subscription wireMsg = none) :
      PeerServed config s { s with peers := rest }
  | welcomed (wireMsg : Multipart) (rest : List Multipart) (call : Nat) (topic : Bytes)
      (message : Multipart) (hpeers : s.peers = wireMsg :: rest)
      (hsubscription : XPublisher.subscription wireMsg = some topic)
      (hmessage : config.welcomeMessage call topic = .ok message) :
      PeerServed config s
        { s with peers := rest, sent := s.sent ++ [.welcome topic message] }
  | failed (wireMsg : Multipart) (rest : List Multipart) (call : Nat) (topic : Bytes)
      (f : Failure) (hpeers : s.peers = wireMsg :: rest)
      (hsubscription : XPublisher.subscription wireMsg = some topic)
      (hmessage : config.welcomeMessage call topic = .error f) :
      PeerServed config s { s with peers := rest, status := .failed f }

theorem servePeer_served (config : Config) (s : XPublisher) :
    PeerServed config s (s.servePeer config) := by
  unfold XPublisher.servePeer
  split
  · rename_i hpeers
    exact .nothing hpeers
  · rename_i wireMsg rest hpeers
    simp only
    cases hsubscription : XPublisher.subscription wireMsg with
    | none => exact .ignored wireMsg rest hpeers hsubscription
    | some topic =>
        simp only [XPublisher.welcome]
        cases hmessage : config.welcomeMessage s.sent.length topic with
        | error f => exact .failed wireMsg rest _ topic f hpeers hsubscription hmessage
        | ok message => exact .welcomed wireMsg rest _ topic message hpeers hsubscription hmessage

/-- What one iteration can do, `s₁` being the state behind the first branch. -/
inductive Passed (config : Config) (pollError : Option Nat) (ready : Ready) (pipe : Nat)
    (s : XPublisher) : XPublisher → Prop
  | ended (hstatus : s.status ≠ .running) : Passed config pollError ready pipe s s
  | pollFailed (num : Nat) (status : PublisherStatus) (hstatus : s.status = .running)
      (hpoll : pollError = some num) (hkeep : num = eintr → status = .running) :
      Passed config pollError ready pipe s { s with status }
  | answered (s₁ : XPublisher) (stopMsg : Multipart) (rest : List Multipart)
      (hstatus : s.status = .running) (hpoll : pollError = none)
      (hfirst : s₁ = if ready.listener then s.forward pipe else s)
      (hready : ready.controller = true) (hcontroller : s.controller = stopMsg :: rest) :
      Passed config pollError ready pipe s
        { s₁ with controller := rest, replies := s₁.replies ++ [stopMsg], status := .left }
  | served (s₁ s₂ : XPublisher) (hstatus : s.status = .running) (hpoll : pollError = none)
      (hfirst : s₁ = if ready.listener then s.forward pipe else s)
      (hcontroller : ready.controller = true → s.controller = [])
      (hserved : PeerServed config s₁ s₂) : Passed config pollError ready pipe s s₂
  | skipped (s₁ : XPublisher) (hstatus : s.status = .running) (hpoll : pollError = none)
      (hfirst : s₁ = if ready.listener then s.forward pipe else s)
      (hcontroller : ready.controller = true → s.controller = [])
      (hready : ready.publisher = false) : Passed config pollError ready pipe s s₁

theorem pass_passed (config : Config) (pollError : Option Nat) (ready : Ready) (pipe : Nat)
    (s : XPublisher) :
    Passed config pollError ready pipe s (s.pass config pollError ready pipe) := by
  unfold XPublisher.pass
  split
  · rename_i num hstatus
    split_ifs with hintr hterm
    · have hsame : Passed config (some num) ready pipe s { s with status := .running } :=
        .pollFailed num .running hstatus rfl fun _ => rfl
      rwa [← hstatus] at hsame
    · exact .pollFailed num .left hstatus rfl fun h => absurd h hintr
    · exact .pollFailed num _ hstatus rfl fun h => absurd h hintr
  · rename_i hstatus
    simp only
    generalize hfirst : (if ready.listener then s.forward pipe else s) = s₁
    have hcontroller : s₁.controller = s.controller :=
      hfirst ▸ firstBranch_eq XPublisher.controller (forward_controller pipe) ready.listener s
    rw [hcontroller]
    by_cases hready : ready.controller = true ∧ s.controller ≠ []
    · obtain ⟨stopMsg, rest, hstop⟩ := List.exists_cons_of_ne_nil hready.2
      rw [if_pos (by simp [hready.1, hstop]), XPublisher.answer, hcontroller, hstop]
      exact .answered s₁ stopMsg rest hstatus rfl hfirst.symm hready.1 hstop
    · have hnone : ready.controller = true → s.controller = [] := fun h => by
        by_contra hne
        exact hready ⟨h, hne⟩
      rw [if_neg (by simpa using hnone)]
      split_ifs with hpublisher
      · exact .served s₁ _ hstatus rfl hfirst.symm hnone (servePeer_served config s₁)
      · exact .skipped s₁ hstatus rfl hfirst.symm hnone (by simpa using hpublisher)
  · rename_i pollError _ _ hrunning hrunning'
    apply Passed.ended
    intro hstatus
    rcases Option.eq_none_or_eq_some pollError with hpoll | ⟨num, hpoll⟩
    · exact hrunning' hstatus hpoll
    · exact hrunning num hstatus hpoll

/-! Runs. -/

theorem pass_stopSent (config : Config) (pollError : Option Nat) (ready : Ready) (pipe : Nat)
    (s : XPublisher) :
    (s.pass config pollError ready pipe).stopSent = s.stopSent := by
  have hpassed := pass_passed config pollError ready pipe s
  generalize s.pass config pollError ready pipe = s' at hpassed
  have hfirst := firstBranch_eq XPublisher.stopSent (forward_stopSent pipe) ready.listener s
  cases hpassed with
  | ended => rfl
  | pollFailed => rfl
  | answered s₁ stopMsg rest hstatus hpoll hs₁ => exact hs₁ ▸ hfirst
  | served s₁ s₂ hstatus hpoll hs₁ hcontroller hserved =>
      rw [← hs₁] at hfirst
      cases hserved <;> exact hfirst
  | skipped s₁ hstatus hpoll hs₁ => exact hs₁ ▸ hfirst

theorem run_stopSent (config : Config) (events : List Event) :
    (run config events).stopSent = events.any isStop := by
  apply run_induction (P := fun events (s : XPublisher) => s.stopSent = events.any isStop)
  · rfl
  · intro events event ih
    rw [List.any_append, ← ih]
    cases event with
    | pass pollError ready pipe =>
        rw [XPublisher.step, pass_stopSent]
        simp [isStop]
    | publish pipe wireMsg => simp [XPublisher.step, isStop]
    | requestStop stopMsg => simp [XPublisher.step, isStop]
    | peer wireMsg => simp [XPublisher.step, isStop]

/-- What has been forwarded of a pipe, followed by what waits in it, is what
was published on it. -/
theorem run_relay (config : Config) (events : List Event) :
    (ports (run config events)).Relay some (publications events) := by
  apply run_induction (P := fun events s => (ports s).Relay some (publications events))
  · exact fun _ => .initial
  · intro events event ih
    rw [publications_concat]
    rw [← run_stopSent config events]
    exact (step_ports _ event).relay ih

end XeusZmq.PublisherRuns
