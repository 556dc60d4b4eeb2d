import XeusZmq.RemoteCalls
import XeusZmq.SplitDispatch

/-!
The two `abort_queue`: a loop that takes the shell requests that wait, without blocking,
and sleeps after each of them. Requests arrive at any time.
-/

namespace XeusZmq.AbortQueue

open XeusZmq.Values
open XeusZmq.ServerLoops
open XeusZmq.FifoPort
open XeusZmq.Runs
open XeusZmq.RemoteCalls (Session)

inductive AbortStatus
  | aborting
  | returned
  | failed (f : Failure)
  deriving DecidableEq, Repr

/-- What the listener given to `abort_queue` does, given the messages before. -/
abbrev AbortListener := List XMessage → XMessage → Except Exception Unit

structure Aborting where
  shell : List Multipart
  calls : List XMessage
  status : AbortStatus

inductive AbortEvent
  | arrive (wireMsg : Multipart)
  | pass (recvError : Option Nat)

namespace Aborting

def start (shell : List Multipart) : Aborting :=
  ⟨shell, [], .aborting⟩

/-- What becomes of a request that has been received. The two loops differ in where an
exception of the listener goes. -/
def abort (thrown : Exception → AbortStatus) (decode : Multipart → Result XMessage)
    (l : AbortListener) (wireMsg : Multipart) (self : Aborting) : Aborting :=
  match decode wireMsg with
  | .error (.exception _) => self
  | .error (.undefined u) => { self with status := .failed (.undefined u) }
  | .ok msg =>
      match l self.calls msg with
      | .ok () => { self with calls := self.calls ++ [msg] }
      | .error e => { self with calls := self.calls ++ [msg], status := thrown e }

/-- One iteration of the loop. -/
def pass (thrown : Exception → AbortStatus) (decode : Multipart → Result XMessage)
    (l : AbortListener) (recvError : Option Nat) (self : Aborting) : Aborting :=
  match self.status with
  | .aborting =>
      match recvError, self.shell with
      | some num, _ => { self with status := .failed (.exception (.zmqError num)) }
      | none, [] => { self with status := .returned }
      | none, wireMsg :: shell => { self with shell }.abort thrown decode l wireMsg
  | _ => self

def step (thrown : Exception → AbortStatus) (decode : Multipart → Result XMessage)
    (l : AbortListener) (self : Aborting) : AbortEvent → Aborting
  | .arrive wireMsg => { self with shell := self.shell ++ [wireMsg] }
  | .pass recvError => self.pass thrown decode l recvError

end Aborting

/-- A run of the loop on the requests that wait when it is entered. -/
def abortQueue (thrown : Exception → AbortStatus) (decode : Multipart → Result XMessage)
    (l : AbortListener) (shell : List Multipart) : List AbortEvent → Aborting :=
  run (Aborting.step thrown decode l) (.start shell)

/-- `xserver_zmq_impl::abort_queue` catches what the listener throws. -/
def XserverZmqImpl.abortQueue : (decode : Multipart → Result XMessage) → AbortListener →
    List Multipart → List AbortEvent → Aborting :=
  AbortQueue.abortQueue fun _ => .aborting

/-- `xshell::abort_queue` catches what the decoder throws only. -/
def Xshell.abortQueue : (decode : Multipart → Result XMessage) → AbortListener →
    List Multipart → List AbortEvent → Aborting :=
  AbortQueue.abortQueue fun e => .failed (.exception e)

def arrivals (events : List AbortEvent) : List Multipart :=
  events.filterMap fun event =>
    match event with
    | .arrive wireMsg => some wireMsg
    | .pass _ => none

def passes (events : List AbortEvent) : Nat :=
  events.countP fun event =>
    match event with
    | .arrive _ => false
    | .pass _ => true

/-- Each request is taken once and in order; the loop ends within one iteration for each
request that waits or arrives and one more; when it returns, nothing had been left. -/
structure Aborts (decode : Multipart → Result XMessage) (shell : List Multipart)
    (abort : List AbortEvent → Aborting) (events : List AbortEvent) : Prop where
  once : Relays (decoded decode) (shell ++ arrivals events) (abort events).shell
    (abort events).calls
  ends : shell.length + (arrivals events).length < passes events →
    (abort events).status ≠ .aborting
  returned : (abort events).status = .returned →
    ∃ before after, events = before ++ .pass none :: after ∧
      (abort events).calls = (shell ++ arrivals before).filterMap (decoded decode)

/-- The listener throws on none of the messages. -/
def NeverThrows (l : AbortListener) (calls : List XMessage) : Prop :=
  ∀ front msg rest, calls = front ++ msg :: rest → l front msg = .ok ()

section AbortQueue

variable {thrown : Exception → AbortStatus} {decode : Multipart → Result XMessage}
  {l : AbortListener} {shell : List Multipart}

/-- What one iteration can do. -/
inductive Passed (thrown : Exception → AbortStatus) (decode : Multipart → Result XMessage)
    (l : AbortListener) (recvError : Option Nat) (s : Aborting) : Aborting → Prop
  | ended (hstatus : s.status ≠ .aborting) : Passed thrown decode l recvError s s
  | recvFailed (num : Nat) (hstatus : s.status = .aborting) (hrecv : recvError = some num) :
      Passed thrown decode l recvError s { s with status := .failed (.exception (.zmqError num)) }
  | returned (hstatus : s.status = .aborting) (hrecv : recvError = none) (hshell : s.shell = []) :
      Passed thrown decode l recvError s { s with status := .returned }
  | taken (wireMsg : Multipart) (rest : List Multipart) (status : AbortStatus)
      (hstatus : s.status = .aborting) (hshell : s.shell = wireMsg :: rest)
      (hreturned : (∀ e, thrown e ≠ .returned) → status ≠ .returned) :
      Passed thrown decode l recvError s
        { s with shell := rest, calls := s.calls ++ (decoded decode wireMsg).toList, status }

theorem pass_passed (recvError : Option Nat) (s : Aborting) :
    Passed thrown decode l recvError s (s.pass thrown decode l recvError) := by
  unfold Aborting.pass
  split
  · rename_i hstatus
    split
    · exact .recvFailed _ hstatus rfl
    · rename_i hshell
      exact .returned hstatus rfl hshell
    · rename_i wireMsg rest hshell
      have htaken (status : AbortStatus)
          (hreturned : (∀ e, thrown e ≠ .returned) → status ≠ .returned) :
          Passed thrown decode l none s _ :=
        .taken wireMsg rest status hstatus hshell hreturned
      have hsame := htaken s.status fun _ => by rw [hstatus]; exact nofun
      unfold Aborting.abort
      cases hdecode : decode wireMsg with
      | error f =>
          rw [decoded_of_error hdecode, Option.toList_none, List.append_nil] at hsame
          cases f with
          | exception e => exact hsame
          | undefined u =>
              have hfailed := htaken (.failed (.undefined u)) fun _ => nofun
              rwa [decoded_of_error hdecode, Option.toList_none, List.append_nil] at hfailed
      | ok msg =>
          rw [decoded_of_ok hdecode] at hsame
          simp only
          cases hl : l s.calls msg with
          | ok done => exact hsame
          | error e =>
              have hthrown := htaken (thrown e) fun hnot => hnot e
              rwa [decoded_of_ok hdecode] at hthrown
  · rename_i hstatus
    exact .ended hstatus

/-! Runs. -/

theorem arrivals_concat_pass (events : List AbortEvent) (recvError : Option Nat) :
    arrivals (events ++ [.pass recvError]) = arrivals events := by
  simp [arrivals]

theorem run_once (events : List AbortEvent) :
    Relays (decoded decode) (shell ++ arrivals events)
      (abortQueue thrown decode l shell events).shell
      (abortQueue thrown decode l shell events).calls := by
  apply run_induction (P := fun (events : List AbortEvent) (s : Aborting) =>
    Relays (decoded decode) (shell ++ arrivals events) s.shell s.calls)
  · exact ⟨[], by simp [arrivals, Aborting.start], rfl⟩
  · intro events event ih
    cases event with
    | arrive wireMsg =>
        have harrive := ih.arrive wireMsg
        rw [List.append_assoc] at harrive
        simpa [arrivals, Aborting.step] using harrive
    | pass recvError =>
        rw [arrivals_concat_pass, Aborting.step]
        generalize run (Aborting.step thrown decode l) (.start shell) events = s at ih
        have hpassed := @pass_passed thrown decode l recvError s
        generalize s.pass thrown decode l recvError = s' at hpassed
        cases hpassed with
        | ended | recvFailed | returned => exact ih
        | taken wireMsg rest status hstatus hshell =>
            rw [hshell] at ih
            exact ih.take

/-- As long as the loop goes on, each iteration has taken a request. -/
theorem run_passes (events : List AbortEvent) :
    (abortQueue thrown decode l shell events).status = .aborting →
      passes events + (abortQueue thrown decode l shell events).shell.length =
        shell.length + (arrivals events).length := by
  apply run_induction (P := fun (events : List AbortEvent) (s : Aborting) =>
    s.status = .aborting → passes events + s.shell.length = shell.length + (arrivals events).length)
  · intro _
    simp [passes, arrivals, Aborting.start]
  · intro events event ih hstatus
    cases event with
    | arrive wireMsg =>
        have hcount := ih hstatus
        simp [passes, arrivals, Aborting.step] at hcount ⊢
        omega
    | pass recvError =>
        rw [arrivals_concat_pass]
        rw [Aborting.step] at hstatus ⊢
        generalize run (Aborting.step thrown decode l) (.start shell) events = s at ih hstatus
        have hpassed := @pass_passed thrown decode l recvError s
        generalize s.pass thrown decode l recvError = s' at hpassed hstatus
        cases hpassed with
        | ended hended => exact absurd hstatus hended
        | recvFailed => exact absurd hstatus nofun
        | returned => exact absurd hstatus nofun
        | taken wireMsg rest status haborting hshell =>
            have hcount := ih haborting
            rw [hshell] at hcount
            simp [passes] at hcount ⊢
            omega

theorem run_returned (hthrown : ∀ e, thrown e ≠ .returned) (events : List AbortEvent) :
    (abortQueue thrown decode l shell events).status = .returned →
      ∃ before after, events = before ++ .pass none :: after ∧
        (abortQueue thrown decode l shell events).calls =
          (shell ++ arrivals before).filterMap (decoded decode) := by
  apply run_induction (P := fun (events : List AbortEvent) (s : Aborting) =>
    s.status = .returned → ∃ before after, events = before ++ AbortEvent.pass none :: after ∧
      s.calls = (shell ++ arrivals before).filterMap (decoded decode))
  · exact nofun
  · intro events event ih hstatus
    have hlater {calls : List XMessage}
        (h : ∃ before after, events = before ++ AbortEvent.pass none :: after ∧
          calls = (shell ++ arrivals before).filterMap (decoded decode)) :
        ∃ before after, events ++ [event] = before ++ AbortEvent.pass none :: after ∧
          calls = (shell ++ arrivals before).filterMap (decoded decode) := by
      obtain ⟨before, after, rfl, hcalls⟩ := h
      exact ⟨before, after ++ [event], by simp, hcalls⟩
    cases event with
    | arrive wireMsg => exact hlater (ih hstatus)
    | pass recvError =>
        have honce := @run_once thrown decode l shell events
        rw [abortQueue] at honce
        rw [Aborting.step] at hstatus ⊢
        generalize run (Aborting.step thrown decode l) (.start shell) events = s
          at ih hstatus honce
        have hpassed := @pass_passed thrown decode l recvError s
        generalize s.pass thrown decode l recvError = s' at hpassed hstatus
        cases hpassed with
        | ended hended => exact hlater (ih hstatus)
        | recvFailed => exact absurd hstatus nofun
        | returned haborting hrecv hshell =>
            subst hrecv
            simp only [hshell] at honce
            exact ⟨events, [], rfl, honce.output_eq⟩
        | taken wireMsg rest status haborting hshell hreturned =>
            exact absurd hstatus (hreturned hthrown)

/-! The two loops side by side. -/

theorem neverThrows_concat {calls : List XMessage} {msg : XMessage} :
    NeverThrows l (calls ++ [msg]) ↔ NeverThrows l calls ∧ l calls msg = .ok () := by
  constructor
  · intro h
    refine ⟨fun front msg' rest hcalls => ?_, h calls msg [] rfl⟩
    exact h front msg' (rest ++ [msg]) (by simp [hcalls])
  · rintro ⟨hcalls, hmsg⟩ front msg' rest hsplit
    rcases concat_eq_append_cons_iff.mp hsplit with ⟨rfl, rfl, -⟩ | ⟨rest', -, hcalls'⟩
    · exact hmsg
    · exact hcalls front msg' rest' hcalls'

theorem NeverThrows.front {front calls : List XMessage} (hfront : front <+: calls)
    (h : NeverThrows l calls) : NeverThrows l front := by
  obtain ⟨rest, rfl⟩ := hfront
  rintro before msg after rfl
  exact h before msg (after ++ rest) (by simp)

theorem calls_step (s : Aborting) (event : AbortEvent) :
    s.calls <+: (s.step thrown decode l event).calls := by
  cases event with
  | arrive wireMsg => exact List.prefix_rfl
  | pass recvError =>
      have hpassed := @pass_passed thrown decode l recvError s
      rw [Aborting.step]
      generalize s.pass thrown decode l recvError = s' at hpassed
      cases hpassed with
      | ended | recvFailed | returned => exact List.prefix_rfl
      | taken => exact List.prefix_append _ _

/-- The loops part in the iteration in which the listener throws. -/
theorem pass_agree (recvError : Option Nat) {s : Aborting} (h : NeverThrows l s.calls) :
    s.pass (fun e => .failed (.exception e)) decode l recvError =
        s.pass (fun _ => .aborting) decode l recvError ↔
      NeverThrows l (s.pass (fun _ => .aborting) decode l recvError).calls := by
  unfold Aborting.pass
  cases hstatus : s.status with
  | returned => simpa using h
  | failed f => simpa using h
  | aborting =>
      cases recvError with
      | some num => simpa using h
      | none =>
          cases hshell : s.shell with
          | nil => simpa using h
          | cons wireMsg rest =>
              simp only [Aborting.abort]
              cases decode wireMsg with
              | error f => cases f <;> simpa using h
              | ok msg =>
                  simp only
                  cases hl : l s.calls msg with
                  | ok done => simpa [neverThrows_concat, hl] using h
                  | error e => simp [neverThrows_concat, hl]

theorem agree_iff (events : List AbortEvent) :
    (∀ past, past <+: events → Xshell.abortQueue decode l shell past =
        XserverZmqImpl.abortQueue decode l shell past) ↔
      NeverThrows l (XserverZmqImpl.abortQueue decode l shell events).calls := by
  induction events using List.reverseRecOn with
  | nil =>
      constructor
      · intro _ front msg rest hcalls
        exact absurd hcalls (by simp [XserverZmqImpl.abortQueue, abortQueue, Aborting.start])
      · intro _ past hpast
        rw [List.prefix_nil.mp hpast]
        rfl
  | append_singleton events event ih =>
      have hsplit : Xshell.abortQueue decode l shell (events ++ [event]) =
          (Xshell.abortQueue decode l shell events).step (fun e => .failed (.exception e)) decode l
            event := run_concat _ _ _ _
      have hdefault : XserverZmqImpl.abortQueue decode l shell (events ++ [event]) =
          (XserverZmqImpl.abortQueue decode l shell events).step (fun _ => .aborting) decode l
            event := run_concat _ _ _ _
      have hlast (h : NeverThrows l (XserverZmqImpl.abortQueue decode l shell events).calls) :
          Xshell.abortQueue decode l shell (events ++ [event]) =
              XserverZmqImpl.abortQueue decode l shell (events ++ [event]) ↔
            NeverThrows l
              (XserverZmqImpl.abortQueue decode l shell (events ++ [event])).calls := by
        rw [hsplit, hdefault, ih.mpr h events List.prefix_rfl]
        cases event with
        | arrive wireMsg => exact iff_of_true rfl h
        | pass recvError => exact pass_agree recvError h
      constructor
      · intro hall
        have hfront := ih.mp fun past hpast =>
          hall past (hpast.trans (List.prefix_append events [event]))
        exact (hlast hfront).mp (hall _ List.prefix_rfl)
      · intro hnever past hpast
        have hfront : NeverThrows l (XserverZmqImpl.abortQueue decode l shell events).calls :=
          hnever.front (hdefault ▸ calls_step _ event)
        rcases List.prefix_concat_iff.mp hpast with rfl | hpast
        · exact (hlast hfront).mpr hnever
        · exact ih.mpr hfront past hpast

theorem aborts (hthrown : ∀ e, thrown e ≠ .returned) (events : List AbortEvent) :
    Aborts decode shell (abortQueue thrown decode l shell) events where
  once := run_once events
  ends hpasses hstatus := by
    have hcount := run_passes events hstatus
    omega
  returned := run_returned hthrown events

end AbortQueue

/-- Whatever the listener does and whenever requests arrive: each shell request is either
dispatched or aborted, once and in order; `abort_queue` ends, and when it returns nothing
that had arrived is left. The two families do the same exactly as long as the listener
throws on none of the requests. -/
theorem aborts_once (session : Session) (internalListener : Bytes → Bytes)
    (l : AbortListener) :
    (∀ before events,
      let s := DefaultDispatch.run session.decode before
      let abort := XserverZmqImpl.abortQueue session.decode l s.shell
      Aborts session.decode s.shell abort events ∧
        Relays (decoded session.decode)
          (on .shell (DefaultDispatch.arrivals before) ++ arrivals events) (abort events).shell
          (on .shell s.calls ++ (abort events).calls)) ∧
    (∀ before events,
      let s := SplitDispatch.run session.decode internalListener before
      let abort := Xshell.abortQueue session.decode l s.shell
      Aborts session.decode s.shell abort events ∧
        Relays (decoded session.decode)
          (on .shell (SplitDispatch.arrivals before) ++ arrivals events) (abort events).shell
          (on .shell s.calls ++ (abort events).calls)) ∧
    ∀ shell events,
      (∀ past, past <+: events → Xshell.abortQueue session.decode l shell past =
          XserverZmqImpl.abortQueue session.decode l shell past) ↔
        NeverThrows l (XserverZmqImpl.abortQueue session.decode l shell events).calls := by
  refine ⟨fun before events => ?_, fun before events => ?_, fun shell events => agree_iff events⟩
  · have hdispatched := DefaultDispatch.run_relay session.noZmqError before .shell
    exact ⟨@aborts (fun _ => .aborting) _ l _ (fun _ => nofun) events,
      hdispatched.continue (run_once events)⟩
  · have hdispatched := SplitDispatch.run_relay session.decode internalListener before .shell
    exact ⟨@aborts (fun e => .failed (.exception e)) _ l _ (fun _ => nofun) events,
      hdispatched.continue (run_once events)⟩

end XeusZmq.AbortQueue
