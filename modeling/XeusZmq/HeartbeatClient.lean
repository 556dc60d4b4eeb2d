import XeusZmq.ServerLoops
import XeusZmq.Runs

/-!
The heartbeat thread of a client: a ping a round, on a socket that alternates
requests and replies.
-/

namespace XeusZmq.HeartbeatClient

open XeusZmq.Values
open XeusZmq.ServerLoops
open XeusZmq.Runs

/-- Where the thread stands: waiting for the answer to a ping, behind the loop,
or ended by an exception of `send` or of `zmq::poll`. -/
inductive HeartbeatStatus
  | waiting
  | left
  | sendFailed (e : Exception)
  | pollFailed (num : Nat)
  deriving DecidableEq, Repr

/-- What `wait_for_answer` meets: whether `zmq::poll` fails, and for each of the
two sockets that is readable how receiving from it ends. -/
structure Outcome where
  pollError : Option Nat
  heartbeat : Option (Except Exception Unit)
  controller : Option (Except Exception Unit)

/-- The client and its heartbeat socket, which is `awaiting` as long as a ping
is unanswered. The other logs are of the pings, each with the state of the socket
it was sent in, and of the calls of the kernel status listener. -/
structure XheartbeatClient where
  maxRetry : Nat
  retryCount : Nat
  requestStop : Bool
  awaiting : Bool
  pings : List Bool
  notified : List Bool
  status : HeartbeatStatus

/-- How `send` on the heartbeat socket ends, in terms of `awaiting`. -/
abbrev ReqSend := Bool → Except Exception Unit

namespace XheartbeatClient

def sendHeartbeatMessage (send : ReqSend) (self : XheartbeatClient) : XheartbeatClient :=
  let self := { self with pings := self.pings ++ [self.awaiting] }
  match send self.awaiting with
  | .ok () => { self with awaiting := true }
  | .error e => { self with status := .sendFailed e }

/-- The part of `wait_for_answer` inside the `try` block. -/
def receive (outcome : Outcome) (self : XheartbeatClient) : Bool × XheartbeatClient :=
  match outcome.heartbeat with
  | some (.error _) => (false, self)
  | heartbeat =>
      let self := if heartbeat.isSome then { self with awaiting := false } else self
      match outcome.controller with
      | some (.error _) => (false, self)
      | some (.ok ()) => (true, { self with requestStop := true })
      | none => (true, self)

def notifyKernelDead (status : Bool) (self : XheartbeatClient) : XheartbeatClient :=
  { self with notified := self.notified ++ [status] }

/-- The test of the loop of `run`, and the ping if it goes on. -/
def beginRound (send : ReqSend) (self : XheartbeatClient) : XheartbeatClient :=
  if self.requestStop then { self with status := .left } else self.sendHeartbeatMessage send

def endRound (send : ReqSend) (answered : Bool) (self : XheartbeatClient) : XheartbeatClient :=
  if !answered then
    if self.retryCount < self.maxRetry then
      { self with retryCount := self.retryCount + 1 }.beginRound send
    else { self.notifyKernelDead true with status := .left }
  else { self with retryCount := 0 }.beginRound send

def step (send : ReqSend) (self : XheartbeatClient) (outcome : Outcome) : XheartbeatClient :=
  match self.status, outcome.pollError with
  | .waiting, some num => { self with status := .pollFailed num }
  | .waiting, none =>
      let (answered, self) := self.receive outcome
      self.endRound send answered
  | _, _ => self

def initial (send : ReqSend) (maxRetry : Nat) : XheartbeatClient :=
  beginRound send
    { maxRetry
      retryCount := 0
      requestStop := false
      awaiting := false
      pings := []
      notified := []
      status := .waiting }

end XheartbeatClient

def run (send : ReqSend) (maxRetry : Nat) : List Outcome → XheartbeatClient :=
  Runs.run (XheartbeatClient.step send) (.initial send maxRetry)

/-! Detection of the death of the kernel. -/

inductive Round
  | answered
  | unanswered
  | stopped
  deriving DecidableEq, Repr

def Round.outcome : Round → Outcome
  | .answered => ⟨none, some (.ok ()), none⟩
  | .unanswered => ⟨none, none, none⟩
  | .stopped => ⟨none, none, some (.ok ())⟩

/-- Some `maxRetry + 1` consecutive rounds, with no stop before them, have gone
unanswered. -/
def Dead (maxRetry : Nat) (rounds : List Round) : Prop :=
  ∃ front back, rounds = front ++ List.replicate (maxRetry + 1) .unanswered ++ back ∧
    .stopped ∉ front

/-- After each round, the listener has been told once that the kernel is dead if
it is by then, and has been told nothing otherwise. -/
def DetectsDeath (send : ReqSend) (maxRetry : Nat) (rounds : List Round) : Prop :=
  ∀ past, past <+: rounds →
    (Dead maxRetry past → (run send maxRetry (past.map Round.outcome)).notified = [true]) ∧
    (¬ Dead maxRetry past → (run send maxRetry (past.map Round.outcome)).notified = [])

/-- A round without an exception counts as answered, a timeout included. -/
theorem receive_outcome (s : XheartbeatClient) (round : Round) :
    (s.receive round.outcome).1 = true := by
  cases round <;> rfl

theorem beginRound_notified (send : ReqSend) (s : XheartbeatClient) :
    (s.beginRound send).notified = s.notified := by
  unfold XheartbeatClient.beginRound XheartbeatClient.sendHeartbeatMessage
  split_ifs
  · rfl
  · simp only
    split <;> rfl

theorem step_outcome_notified (send : ReqSend) (s : XheartbeatClient) (round : Round) :
    (s.step send round.outcome).notified = s.notified := by
  unfold XheartbeatClient.step
  split
  · rfl
  · have hanswered := receive_outcome s round
    have hnotified : (s.receive round.outcome).2.notified = s.notified := by
      cases round <;> rfl
    simp only [XheartbeatClient.endRound, hanswered, Bool.not_true, Bool.false_eq_true, if_false]
    rw [beginRound_notified]
    exact hnotified
  · rfl

theorem run_notified (send : ReqSend) (maxRetry : Nat) (rounds : List Round) :
    (run send maxRetry (rounds.map Round.outcome)).notified = [] := by
  induction rounds using List.reverseRecOn with
  | nil => exact beginRound_notified send ⟨maxRetry, 0, false, false, [], [], .waiting⟩
  | append_singleton rounds round ih =>
      rw [List.map_append, List.map_singleton, run, run_concat, step_outcome_notified]
      exact ih

theorem Dead.of_prefix {maxRetry : Nat} {past rounds : List Round} (h : Dead maxRetry past)
    (hpast : past <+: rounds) : Dead maxRetry rounds := by
  obtain ⟨front, back, rfl, hfront⟩ := h
  obtain ⟨rest, rfl⟩ := hpast
  exact ⟨front, back ++ rest, by simp, hfront⟩

/-- The death of the kernel is detected exactly as long as it does not happen:
a timeout resets the count. -/
theorem detectsDeath_iff (send : ReqSend) (maxRetry : Nat) (rounds : List Round) :
    DetectsDeath send maxRetry rounds ↔ ¬ Dead maxRetry rounds := by
  constructor
  · intro h hdead
    have hnotified := (h rounds (List.prefix_refl rounds)).1 hdead
    rw [run_notified] at hnotified
    exact absurd hnotified nofun
  · intro halive past hpast
    refine ⟨fun hdead => absurd (hdead.of_prefix hpast) halive, fun _ => ?_⟩
    exact run_notified send maxRetry past

def efsm : Nat := 156384763

/-- A `REQ` socket with default options: a second `send` without a receive in
between fails, and `cppzmq` turns the failure into an exception. -/
def reqSend : ReqSend
  | true => .error (.zmqError efsm)
  | false => .ok ()

theorem not_detectsDeath : ¬ DetectsDeath reqSend 0 [.unanswered] := by
  intro h
  have hnotified := (h [.unanswered] (List.prefix_refl _)).1 ⟨[], [], rfl, List.not_mem_nil⟩
  exact absurd hnotified (by decide)

/-! Alternation of pings and answers. -/

/-- The socket sends a ping if the one before it has been answered, and throws if not. -/
structure Alternating (send : ReqSend) : Prop where
  answered : send false = .ok ()
  awaiting : ∃ e, send true = .error e

theorem reqSend_alternating : Alternating reqSend :=
  ⟨rfl, _, rfl⟩

/-- No ping has been sent while the previous one was unanswered, and no
exception of `send` has escaped. -/
structure Alternates (s : XheartbeatClient) : Prop where
  pings : ∀ awaiting ∈ s.pings, awaiting = false
  noEscape : ∀ e, s.status ≠ .sendFailed e

def Outcome.Answered (outcome : Outcome) : Prop :=
  outcome.heartbeat = some (.ok ())

def Outcome.Stopped (outcome : Outcome) : Prop :=
  (∀ e, outcome.heartbeat ≠ some (.error e)) ∧ outcome.controller = some (.ok ())

def Outcome.Failed (outcome : Outcome) : Prop :=
  (∃ e, outcome.heartbeat = some (.error e)) ∨ ∃ e, outcome.controller = some (.error e)

/-- The ping of the round is answered, or the round is the last one. -/
def AnsweredOrLast (s : XheartbeatClient) (outcome : Outcome) : Prop :=
  s.status = .waiting → outcome.pollError ≠ none ∨ outcome.Answered ∨ outcome.Stopped ∨
    outcome.Failed ∧ s.maxRetry ≤ s.retryCount

/-- A thread that waits has sent a ping that is unanswered, and is to go on. -/
structure Awaits (s : XheartbeatClient) : Prop where
  awaiting : s.status = .waiting → s.awaiting = true
  requestStop : s.status = .waiting → s.requestStop = false

def PingsAlternate (s : XheartbeatClient) : Prop :=
  ∀ awaiting ∈ s.pings, awaiting = false

theorem alternates_iff {s : XheartbeatClient} (h : ∀ e, s.status ≠ .sendFailed e) :
    Alternates s ↔ PingsAlternate s :=
  ⟨fun halternates => halternates.pings, fun hpings => ⟨hpings, h⟩⟩

theorem ne_sendFailed {s : XheartbeatClient} (h : s.status = .waiting) (e : Exception) :
    s.status ≠ .sendFailed e := by
  rw [h]
  exact nofun

/-! What `wait_for_answer` makes of an outcome. -/

theorem receive_frame (s : XheartbeatClient) (outcome : Outcome) :
    (s.receive outcome).2.pings = s.pings ∧ (s.receive outcome).2.status = s.status ∧
      (s.receive outcome).2.maxRetry = s.maxRetry ∧
      (s.receive outcome).2.retryCount = s.retryCount := by
  obtain ⟨pollError, heartbeat, controller⟩ := outcome
  rcases heartbeat with _ | (e | _) <;> rcases controller with _ | (e' | _) <;>
    exact ⟨rfl, rfl, rfl, rfl⟩

theorem receive_eq_false_iff (s : XheartbeatClient) (outcome : Outcome) :
    (s.receive outcome).1 = false ↔ outcome.Failed := by
  obtain ⟨pollError, heartbeat, controller⟩ := outcome
  rcases heartbeat with _ | (e | _) <;> rcases controller with _ | (e' | _) <;>
    simp [XheartbeatClient.receive, Outcome.Failed]

theorem receive_requestStop_iff {s : XheartbeatClient} (h : s.requestStop = false)
    (outcome : Outcome) : (s.receive outcome).2.requestStop = true ↔ outcome.Stopped := by
  obtain ⟨pollError, heartbeat, controller⟩ := outcome
  rcases heartbeat with _ | (e | _) <;> rcases controller with _ | (e' | _) <;>
    simp [XheartbeatClient.receive, Outcome.Stopped, h]

theorem receive_awaiting_iff {s : XheartbeatClient} (h : s.awaiting = true)
    (outcome : Outcome) : (s.receive outcome).2.awaiting = false ↔ outcome.Answered := by
  obtain ⟨pollError, heartbeat, controller⟩ := outcome
  rcases heartbeat with _ | (e | _) <;> rcases controller with _ | (e' | _) <;>
    simp [XheartbeatClient.receive, Outcome.Answered, h]

/-! Runs on a socket that alternates. -/

section Alternation

variable {send : ReqSend} (hsend : Alternating send)

include hsend

theorem sendHeartbeatMessage_idle {s : XheartbeatClient} (h : s.awaiting = false) :
    s.sendHeartbeatMessage send =
      { s with pings := s.pings ++ [false], awaiting := true } := by
  simp [XheartbeatClient.sendHeartbeatMessage, h, hsend.answered]

theorem sendHeartbeatMessage_awaiting {s : XheartbeatClient} (h : s.awaiting = true) :
    ∃ e, s.sendHeartbeatMessage send =
      { s with pings := s.pings ++ [true], status := .sendFailed e } := by
  obtain ⟨e, he⟩ := hsend.awaiting
  refine ⟨e, ?_⟩
  simp [XheartbeatClient.sendHeartbeatMessage, h, he]

theorem awaits_beginRound (s : XheartbeatClient) : Awaits (s.beginRound send) := by
  unfold XheartbeatClient.beginRound
  split_ifs with hstop
  · exact ⟨nofun, nofun⟩
  · cases hawaiting : s.awaiting with
    | false =>
        rw [sendHeartbeatMessage_idle hsend hawaiting]
        exact ⟨fun _ => rfl, fun _ => by simpa using hstop⟩
    | true =>
        obtain ⟨e, hfails⟩ := sendHeartbeatMessage_awaiting hsend hawaiting
        rw [hfails]
        exact ⟨nofun, nofun⟩

theorem awaits_step {s : XheartbeatClient} (h : Awaits s) (outcome : Outcome) :
    Awaits (s.step send outcome) := by
  unfold XheartbeatClient.step
  split
  · exact ⟨nofun, nofun⟩
  · simp only [XheartbeatClient.endRound]
    split_ifs
    · exact awaits_beginRound hsend _
    · exact ⟨nofun, nofun⟩
    · exact awaits_beginRound hsend _
  · exact h

theorem alternates_beginRound {s : XheartbeatClient} (hstatus : s.status = .waiting) :
    Alternates (s.beginRound send) ↔
      PingsAlternate s ∧ (s.requestStop = true ∨ s.awaiting = false) := by
  unfold XheartbeatClient.beginRound
  split_ifs with hstop
  · rw [alternates_iff]
    · exact ⟨fun h => ⟨h, Or.inl hstop⟩, fun h => h.1⟩
    · exact fun e => nofun
  · cases hawaiting : s.awaiting with
    | false =>
        rw [sendHeartbeatMessage_idle hsend hawaiting]
        rw [alternates_iff]
        · simp [PingsAlternate, or_imp]
        · exact ne_sendFailed hstatus
    | true =>
        obtain ⟨e, hfails⟩ := sendHeartbeatMessage_awaiting hsend hawaiting
        rw [hfails]
        constructor
        · exact fun h => absurd rfl (h.noEscape e)
        · rintro ⟨-, hrequest | hfalse⟩
          · exact absurd hrequest hstop
          · exact absurd hfalse nofun

theorem alternates_endRound {s : XheartbeatClient} (hstatus : s.status = .waiting)
    (answered : Bool) :
    Alternates (s.endRound send answered) ↔
      PingsAlternate s ∧ (s.requestStop = true ∨ s.awaiting = false ∨
        answered = false ∧ s.maxRetry ≤ s.retryCount) := by
  unfold XheartbeatClient.endRound
  cases answered with
  | true =>
      refine (alternates_beginRound hsend (s := { s with retryCount := 0 }) hstatus).trans ?_
      simp [PingsAlternate]
  | false =>
      simp only [Bool.not_false, if_true]
      split_ifs with hretry
      · refine (alternates_beginRound hsend
          (s := { s with retryCount := s.retryCount + 1 }) hstatus).trans ?_
        simp [PingsAlternate, Nat.not_le.mpr hretry]
      · rw [alternates_iff]
        · simp [PingsAlternate, XheartbeatClient.notifyKernelDead, Nat.not_lt.mp hretry]
        · exact fun e => nofun

theorem alternates_step {s : XheartbeatClient} (h : Awaits s) (outcome : Outcome) :
    Alternates (s.step send outcome) ↔ Alternates s ∧ AnsweredOrLast s outcome := by
  unfold XheartbeatClient.step AnsweredOrLast
  split
  · rename_i num hstatus hpoll
    rw [alternates_iff (ne_sendFailed hstatus)]
    rw [alternates_iff]
    · simp [hpoll, PingsAlternate]
    · exact fun e => nofun
  · rename_i hstatus hpoll
    obtain ⟨hpings, hstatus', hmaxRetry, hretryCount⟩ := receive_frame s outcome
    rw [alternates_iff (ne_sendFailed hstatus)]
    simp only
    rw [alternates_endRound hsend (hstatus'.trans hstatus), PingsAlternate, hpings, hmaxRetry,
      hretryCount, receive_eq_false_iff, receive_requestStop_iff (h.requestStop hstatus),
      receive_awaiting_iff (h.awaiting hstatus)]
    simp only [hstatus, hpoll, ne_eq, not_true_eq_false, false_or, forall_const, PingsAlternate]
    rw [← or_assoc, ← or_assoc, or_comm (a := outcome.Stopped)]
  · rename_i hsome hnone
    have hstatus : s.status ≠ .waiting := by
      intro hstatus
      rcases Option.eq_none_or_eq_some outcome.pollError with hpoll | ⟨num, hpoll⟩
      · exact hnone hstatus hpoll
      · exact hsome num hstatus hpoll
    simp [hstatus]

theorem run_awaits (maxRetry : Nat) (outcomes : List Outcome) :
    Awaits (run send maxRetry outcomes) := by
  apply run_induction (P := fun _ s => Awaits s)
  · exact awaits_beginRound hsend _
  · intro past outcome ih
    exact awaits_step hsend ih outcome

theorem run_alternates_iff (maxRetry : Nat) (outcomes : List Outcome) :
    Alternates (run send maxRetry outcomes) ↔
      Guarded (XheartbeatClient.step send) AnsweredOrLast (.initial send maxRetry) outcomes := by
  induction outcomes using List.reverseRecOn with
  | nil =>
      simp only [guarded_nil, iff_true]
      have hbegin := alternates_beginRound hsend
        (s := ⟨maxRetry, 0, false, false, [], [], .waiting⟩) rfl
      exact hbegin.mpr ⟨fun _ hmem => absurd hmem List.not_mem_nil, Or.inr rfl⟩
  | append_singleton past outcome ih =>
      rw [guarded_concat, ← ih, run, run_concat]
      exact alternates_step hsend (run_awaits hsend maxRetry past) outcome

end Alternation

/-- Pings and answers alternate in every state of a run if and only if every
ping but the last is answered, where a round is the last one when a stop message
is received in it, or when receiving throws and no retry is left. -/
theorem alternates_iff_answeredOrLast (send : ReqSend) (hsend : Alternating send)
    (maxRetry : Nat) (outcomes : List Outcome) :
    (∀ past, past <+: outcomes → Alternates (run send maxRetry past)) ↔
      Guarded (XheartbeatClient.step send) AnsweredOrLast (.initial send maxRetry) outcomes := by
  constructor
  · intro h
    exact (run_alternates_iff hsend maxRetry outcomes).mp (h outcomes (List.prefix_refl outcomes))
  · rintro h past ⟨rest, rfl⟩
    exact (run_alternates_iff hsend maxRetry past).mpr h.front

/-- A ping is answered, and a stop message comes in the next round. -/
theorem alternates_iff_answeredOrLast_stopped :
    Alternates (run reqSend 3 [Round.answered.outcome, Round.stopped.outcome]) := by
  refine (alternates_iff_answeredOrLast reqSend reqSend_alternating 3 _).mpr ?_ _
    (List.prefix_refl _)
  simp only [guarded_cons, guarded_nil, and_true]
  exact ⟨fun _ => .inr (.inl rfl), fun _ => .inr (.inr (.inl ⟨by rintro _ ⟨⟩, rfl⟩))⟩

theorem not_alternates_timeout :
    ¬ ∀ past, past <+: [Round.unanswered.outcome] → Alternates (run reqSend 3 past) := by
  intro h
  exact absurd rfl ((h _ (List.prefix_refl _)).noEscape (.zmqError efsm))

end XeusZmq.HeartbeatClient
