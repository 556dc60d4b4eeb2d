import XeusZmq.HeartbeatClient
import XeusZmq.IopubClient

/-!
The shutdown of a client: the messenger asks the iopub thread and then the heartbeat
thread to stop, and waits for the reply of each.
-/

namespace XeusZmq.ClientShutdown

open XeusZmq.Values
open XeusZmq.Authentication
open XeusZmq.Serializer
open XeusZmq.WireRoundTrip
open XeusZmq.Runs
open XeusZmq.HeartbeatClient
open XeusZmq.IopubClient

/-- How far the call of `stop_channels` has come. -/
inductive MessengerStatus
  | idle
  | awaitsIopub
  | awaitsHeartbeat
  | stopped
  deriving DecidableEq, Repr

structure Client where
  iopubClient : XiopubClient
  heartbeatClient : XheartbeatClient
  messenger : MessengerStatus

/-- The steps of the two threads, and those of the thread that calls `stop_channels`:
the call itself, and the return of the `recv` it waits in. -/
inductive ClientEvent
  | arrive (wireMsg : Multipart)
  | iopubPass (pollError : Option Nat) (iopub controller : Bool)
  | pop
  | heartbeatRound (outcome : Outcome)
  | stopChannels
  | receiveReply

namespace Client

def stopMsg : Multipart :=
  [literal "stop"]

/-- Both threads are started. -/
def initial (send : ReqSend) (maxRetry : Nat) : Client :=
  ⟨.initial, .initial send maxRetry, .idle⟩

/-- An exception that leaves the function of a thread ends the process. -/
def terminated (self : Client) : Bool :=
  match self.iopubClient.status, self.heartbeatClient.status with
  | .failed _, _ => true
  | _, .sendFailed _ => true
  | _, .pollFailed _ => true
  | _, _ => false

/-- The controller of the heartbeat thread is readable only while a request waits there. -/
def readable (self : Client) (outcome : Outcome) : Outcome :=
  if self.messenger = .awaitsHeartbeat then outcome else { outcome with controller := none }

def stopChannels (self : Client) : Client :=
  match self.messenger with
  | .idle =>
      { self with
        iopubClient := { self.iopubClient with
          controller := self.iopubClient.controller ++ [stopMsg] }
        messenger := .awaitsIopub }
  | _ => self

/-- The heartbeat thread sets its flag as soon as it has replied. -/
def receiveReply (self : Client) : Client :=
  match self.messenger with
  | .awaitsIopub =>
      if self.iopubClient.replies.isEmpty then self else { self with messenger := .awaitsHeartbeat }
  | .awaitsHeartbeat =>
      if self.heartbeatClient.requestStop then { self with messenger := .stopped } else self
  | _ => self

def step (decode : Multipart → Result XPubMessage) (send : ReqSend) (self : Client)
    (event : ClientEvent) : Client :=
  if self.terminated then self
  else
    match event with
    | .arrive wireMsg =>
        { self with iopubClient := self.iopubClient.step decode (.arrive wireMsg) }
    | .iopubPass pollError iopub controller =>
        { self with
          iopubClient := self.iopubClient.step decode (.pass pollError iopub controller) }
    | .pop => { self with iopubClient := self.iopubClient.step decode .pop }
    | .heartbeatRound outcome =>
        { self with heartbeatClient := self.heartbeatClient.step send (self.readable outcome) }
    | .stopChannels => self.stopChannels
    | .receiveReply => self.receiveReply

end Client

section Shutdown

variable {decode : Multipart → Result XPubMessage} {send : ReqSend}

def run (decode : Multipart → Result XPubMessage) (send : ReqSend) (maxRetry : Nat) :
    List ClientEvent → Client :=
  Runs.run (Client.step decode send) (.initial send maxRetry)

def IopubGone (s : XiopubClient) : Prop :=
  s.status = .left ∧ s.replies = []

def HeartbeatGone (s : XheartbeatClient) : Prop :=
  s.status = .left ∧ s.requestStop = false

/-- The messenger waits for a thread that has left its loop without a reply. -/
def Stranded (s : Client) : Prop :=
  (s.messenger = .awaitsIopub ∧ IopubGone s.iopubClient) ∨
    (s.messenger = .awaitsHeartbeat ∧ HeartbeatGone s.heartbeatClient)

def NeverStranded (decode : Multipart → Result XPubMessage) (send : ReqSend) (maxRetry : Nat)
    (events : List ClientEvent) : Prop :=
  ∀ past, past <+: events → ¬ Stranded (run decode send maxRetry past)

/-- A round of the heartbeat thread fails only while a retry is left. -/
def RetryLeft (s : Client) (event : ClientEvent) : Prop :=
  ∀ outcome, event = .heartbeatRound outcome → s.terminated = false →
    s.heartbeatClient.status = .waiting → outcome.pollError = none →
    (s.readable outcome).Failed → s.heartbeatClient.retryCount < s.heartbeatClient.maxRetry

/-! The iopub thread replies before it leaves its loop. -/

theorem not_iopubGone_answer {s : XiopubClient} (h : ¬ IopubGone s) : ¬ IopubGone s.answer := by
  unfold XiopubClient.answer
  split
  · exact h
  · rintro ⟨-, hreplies⟩
    simp at hreplies

theorem not_iopubGone_pass {s : XiopubClient} (h : ¬ IopubGone s) (pollError : Option Nat)
    (iopub controller : Bool) : ¬ IopubGone (s.pass decode pollError iopub controller) := by
  have hanswer {t : XiopubClient} (ht : ¬ IopubGone t) :
      ¬ IopubGone (if controller then t.answer else t) := by
    split_ifs
    · exact not_iopubGone_answer ht
    · exact ht
  unfold XiopubClient.pass
  split
  · exact fun hgone => absurd hgone.1 nofun
  · split
    · simp only
      split
      · exact h
      · exact fun hgone => absurd hgone.1 nofun
      · exact hanswer h
    · exact hanswer h
  · exact h

theorem not_iopubGone_pop (decode : Multipart → Result XPubMessage) {s : XiopubClient}
    (h : ¬ IopubGone s) : ¬ IopubGone (s.step decode .pop) := by
  simp only [XiopubClient.step, XiopubClient.popIopubMessage]
  split <;> exact h

/-! The heartbeat thread leaves its loop with a reply, or out of retries. -/

theorem not_heartbeatGone_beginRound {s : XheartbeatClient} (h : s.status = .waiting) :
    ¬ HeartbeatGone (s.beginRound send) := by
  rintro ⟨hleft, hstop⟩
  unfold XheartbeatClient.beginRound at hleft hstop
  split_ifs at hleft hstop with hrequest
  · exact absurd (hrequest.symm.trans hstop) nofun
  · unfold XheartbeatClient.sendHeartbeatMessage at hleft
    simp only at hleft
    split at hleft
    · exact absurd (h.symm.trans hleft) nofun
    · exact absurd hleft nofun

theorem not_heartbeatGone_step {s : XheartbeatClient} (h : ¬ HeartbeatGone s)
    (outcome : Outcome)
    (hretry : s.status = .waiting → outcome.pollError = none → outcome.Failed →
      s.retryCount < s.maxRetry) :
    ¬ HeartbeatGone (s.step send outcome) := by
  unfold XheartbeatClient.step
  split
  · exact fun hgone => absurd hgone.1 nofun
  · rename_i hstatus hpoll
    obtain ⟨-, hstatus', hmaxRetry, hretryCount⟩ := receive_frame s outcome
    simp only [XheartbeatClient.endRound]
    split_ifs with hanswered hless
    · exact not_heartbeatGone_beginRound (hstatus'.trans hstatus)
    · have hfailed : outcome.Failed :=
        (receive_eq_false_iff s outcome).mp (by simpa using hanswered)
      rw [hretryCount, hmaxRetry] at hless
      exact absurd (hretry hstatus hpoll hfailed) hless
    · exact not_heartbeatGone_beginRound (hstatus'.trans hstatus)
  · exact h

/-- Neither thread has left its loop without a reply. -/
structure Served (s : Client) : Prop where
  iopub : ¬ IopubGone s.iopubClient
  heartbeat : ¬ HeartbeatGone s.heartbeatClient

theorem Served.not_stranded {s : Client} (h : Served s) : ¬ Stranded s := by
  rintro (⟨-, hgone⟩ | ⟨-, hgone⟩)
  · exact h.iopub hgone
  · exact h.heartbeat hgone

theorem served_step {s : Client} (h : Served s) {event : ClientEvent}
    (hretry : RetryLeft s event) : Served (s.step decode send event) := by
  unfold Client.step
  split_ifs with hterminated
  · exact h
  cases event with
  | arrive wireMsg => exact ⟨h.iopub, h.heartbeat⟩
  | iopubPass pollError iopub controller =>
      exact ⟨not_iopubGone_pass h.iopub pollError iopub controller, h.heartbeat⟩
  | pop => exact ⟨not_iopubGone_pop decode h.iopub, h.heartbeat⟩
  | heartbeatRound outcome =>
      refine ⟨h.iopub, not_heartbeatGone_step h.heartbeat _ ?_⟩
      intro hstatus hpoll hfailed
      refine hretry outcome rfl (by simpa using hterminated) hstatus ?_ hfailed
      unfold Client.readable at hpoll
      split_ifs at hpoll <;> exact hpoll
  | stopChannels =>
      simp only [Client.stopChannels]
      split <;> exact ⟨h.iopub, h.heartbeat⟩
  | receiveReply =>
      simp only [Client.receiveReply]
      split
      · split_ifs <;> exact ⟨h.iopub, h.heartbeat⟩
      · split_ifs <;> exact ⟨h.iopub, h.heartbeat⟩
      · exact h

/-- As long as no round fails with all retries used up, the messenger is never
left waiting for a thread that is gone. -/
theorem neverStranded_of_retryLeft (decode : Multipart → Result XPubMessage) (send : ReqSend)
    (maxRetry : Nat) (events : List ClientEvent)
    (h : Guarded (Client.step decode send) RetryLeft (.initial send maxRetry) events) :
    NeverStranded decode send maxRetry events := by
  rintro past ⟨rest, rfl⟩
  apply Served.not_stranded
  apply run_induction_guarded (P := fun _ s => Served s) ?_ ?_ past h.front
  · exact ⟨fun hgone => absurd hgone.1 nofun, not_heartbeatGone_beginRound rfl⟩
  · intro past event hserved hretry
    exact served_step hserved hretry

end Shutdown

def replyTo (controller : Option (Except Exception Unit)) : ClientEvent :=
  .heartbeatRound ⟨none, some (.ok ()), controller⟩

/-- The iopub thread has replied, and the heartbeat thread is asked next. -/
def iopubStopped : List ClientEvent :=
  [.stopChannels, .iopubPass none false true, .receiveReply]

/-- A signal interrupts `recv` on the controller, with the ping of the round answered. -/
def interrupted : ClientEvent :=
  replyTo (some (.error (.zmqError ServerLoops.eintr)))

theorem neverStranded_interruptedOnce :
    NeverStranded (deserializeIopub emptyObjectLibrary noXAuthentication) reqSend 3
      (iopubStopped ++ [interrupted, replyTo (some (.ok ())), .receiveReply]) := by
  apply neverStranded_of_retryLeft
  simp only [iopubStopped, List.cons_append, List.nil_append, guarded_cons, guarded_nil]
  refine ⟨by rintro _ ⟨⟩, by rintro _ ⟨⟩, by rintro _ ⟨⟩, ?_, ?_, by rintro _ ⟨⟩, trivial⟩
  · rintro outcome - - - - -
    exact Nat.succ_pos 2
  · rintro outcome - - - - -
    decide

/-- Four failed rounds in a row while `stop_channels` waits for the heartbeat thread. -/
theorem not_neverStranded :
    ¬ NeverStranded (deserializeIopub emptyObjectLibrary noXAuthentication) reqSend 3
      (iopubStopped ++ List.replicate 4 interrupted) := by
  intro h
  exact h _ (List.prefix_refl _) (.inr ⟨rfl, rfl, rfl⟩)

end XeusZmq.ClientShutdown
