import XeusZmq.DapClientActions
import XeusZmq.DapClientFrames

/-!
The thread together with the frontend at the other end of `m_controller`, and what a
command of the thread may do to its state, however it ends.
-/

namespace XeusZmq.DapClientRuns

open XeusZmq.Values
open XeusZmq.DapFraming
open XeusZmq.Commands
open XeusZmq.DapClient
open XeusZmq.DapClientWaiting
open XeusZmq.DapClientActions
open XeusZmq.DapClientFrames

/-- `waiting` is the request that the frontend has sent and the thread not received. -/
structure System where
  thread : Thread
  waiting : Option Bytes

/-- A request of the frontend, or a call of `zmq::poll` that returns or throws. The
poll may be over before the request that waits arrives. -/
inductive Input
  | request (message : Bytes)
  | pass (header : Option Bytes) (control stream : Bool)
  | interrupted (num : Nat)

def System.poll (self : System) (header : Option Bytes) (control stream : Bool) : Poll where
  header := header
  control := if control then self.waiting else none
  stream := stream

/-- The frontend has a `REQ` socket, on which it cannot send before it has received the
reply to its last request. -/
def System.step (config : Config) (self : System) : Input → System
  | .request message =>
      if self.waiting = none ∧ self.thread.client.replyOwed = false then
        { self with waiting := some message }
      else self
  | .pass header control stream =>
      match self.thread.status with
      | .running =>
          { thread := self.thread.step config (.ok (self.poll header control stream))
            waiting := if control then none else self.waiting }
      | _ => self
  | .interrupted num => { self with thread := self.thread.step config (.error num) }

def System.init (thread : Thread) : System where
  thread := thread
  waiting := none

def owe (owed : Bool) : Action → Bool
  | .accepted _ => true
  | .replied _ _ => false
  | _ => owed

/-- Actions of some kind have been taken, whole calls of `handle_tcp_socket` made, and
replies owed and given as the actions say. -/
def Continues (P : Action → Prop) (s s' : XDapTcpClient) : Prop :=
  ∃ new, s'.actions = s.actions ++ new ∧ (∀ action ∈ new, P action) ∧
    s'.replyOwed = new.foldl owe s.replyOwed ∧ ∃ batches, Batches s.stream batches s'.stream

section Continues

variable {P : Action → Prop}

theorem continues_refl (s : XDapTcpClient) : Continues P s s :=
  ⟨[], by simp, by simp, rfl, [], .nil _⟩

theorem continues_trans {s₁ s₂ s₃ : XDapTcpClient} (h : Continues P s₁ s₂)
    (h' : Continues P s₂ s₃) : Continues P s₁ s₃ := by
  obtain ⟨new, hactions, hnew, howed, batches, hbatches⟩ := h
  obtain ⟨new', hactions', hnew', howed', batches', hbatches'⟩ := h'
  refine ⟨new ++ new', by rw [hactions', hactions, List.append_assoc], ?_, ?_, batches ++ batches',
    hbatches.append hbatches'⟩
  · intro action haction
    rcases List.mem_append.mp haction with haction | haction
    · exact hnew action haction
    · exact hnew' action haction
  · rw [howed', howed, List.foldl_append]

theorem Continues.of_same {s s' : XDapTcpClient} (hactions : s'.actions = s.actions)
    (howed : s'.replyOwed = s.replyOwed) (hstream : s'.stream = s.stream) : Continues P s s' :=
  ⟨[], by simp [hactions], by simp, howed, [], hstream ▸ .nil _⟩

theorem continues_append {action : Action} (hP : P action) (howe : ∀ owed, owe owed action = owed)
    (s : XDapTcpClient) : Continues P s { s with actions := s.actions ++ [action] } :=
  ⟨[action], rfl, by simpa using hP, (howe s.replyOwed).symm, [], .nil _⟩

theorem continues_record {action : Action} (hP : P action)
    (howe : ∀ owed, owe owed action = owed) : Keeps (Continues P) (record action) :=
  continues_append hP howe

section Reading

variable (hP : ∀ messages, P (.received messages))

include hP

theorem continues_receiveMessages : Keeps (Continues P) receiveMessages := by
  intro s
  rcases hcall : handleTcpSocket s.stream [] with ⟨batch, result⟩
  cases result with
  | ok pending =>
      rw [exec_receiveMessages hcall]
      exact ⟨[.received batch], rfl, by simpa using hP batch, rfl, [batch], .cons hcall (.nil _)⟩
  | error stop =>
      rw [exec_receiveMessages_stop hcall]
      exact ⟨[.received batch], rfl, by simpa using hP batch, rfl, [], .nil _⟩

theorem continues_receiveStopped : Keeps (Continues P) receiveStopped := by
  intro s
  rcases hcall : handleTcpSocket s.stream [] with ⟨batch, result⟩
  cases result with
  | ok pending =>
      rw [exec_receiveStopped hcall]
      exact ⟨[.received batch], rfl, by simpa using hP batch, rfl, [batch], .cons hcall (.nil _)⟩
  | error stop =>
      rw [exec_receiveStopped_stop hcall]
      exact ⟨[.received batch], rfl, by simpa using hP batch, rfl, [], .nil _⟩

theorem reads_continues : Reads (Continues P) where
  refl := continues_refl
  trans := continues_trans
  queues _ _ _ := .of_same rfl rfl rfl
  receives := continues_receiveStopped hP

end Reading

theorem continues_waitForMessage {json : JsonLibrary} {condition : MessageCondition}
    (hP : ∀ messages, P (.received messages)) :
    Keeps (Continues P) (waitForMessage json condition) :=
  (reads_continues hP).keeps_waitForMessage

/-- The action leaves open what it has found open. -/
def Silent (action : Action) : Prop :=
  ∀ owed, owe owed action = owed

theorem silent_of_isOwn {action : Action} (h : isOwn action = true) : Silent action := by
  cases action with
  | received | accepted | forwarded | replied | published => exact absurd h (by simp [isOwn])
  | issued | answered | handled | callback => exact fun _ => rfl

variable {config : Config}

theorem frame_continues (hP : ∀ action, Silent action → P action) :
    Frame config (Continues P) where
  toReads := reads_continues fun _ => hP _ fun _ => rfl
  records s action hown :=
    continues_append (hP action (silent_of_isOwn hown)) (silent_of_isOwn hown) s
  publishes message := by
    have hreads : Reads (Continues P) := reads_continues fun _ => hP _ fun _ => rfl
    exact hreads.keeps_bind hreads.keeps_get fun _ => hreads.keeps_bind (hreads.keeps_throwing _)
      fun _ => continues_record (hP _ fun _ => rfl) fun _ => rfl

theorem continues_sendDapRequest (hP : ∀ action, Silent action → P action) (message : Json) :
    Keeps (Continues P) (DapClient.sendDapRequest config message) :=
  (frame_continues hP).keeps_sendDapRequest message

theorem continues_forwardEvent (hP : ∀ action, Silent action → P action) (message : Json) :
    Keeps (Continues P) (forwardEvent config message) :=
  (frame_continues hP).keeps_forwardEvent message

/-- The action opens nothing. -/
def Closing (action : Action) : Prop :=
  owe false action = false

theorem Silent.closing {action : Action} (h : Silent action) : Closing action :=
  h false

theorem continues_sendReply (hP : ∀ action, Closing action → P action) (message : Json)
    (text : Bytes) : Keeps (Continues P) (sendReply message text) := by
  intro s
  cases hs : s.replyOwed with
  | true =>
      simp only [sendReply, exec_bind, exec_get, hs, if_true, exec_modify]
      exact ⟨[.replied message text], rfl, by simpa using hP (.replied message text) rfl, rfl, [],
        .nil _⟩
  | false =>
      simp only [sendReply, exec_bind, exec_get, hs, Bool.false_eq_true, if_false, exec_throw]
      exact continues_refl s

theorem loop_continues (hP : ∀ action, Closing action → P action) : Loop config (Continues P) where
  toFrame := frame_continues fun action h => hP action h.closing
  stops _ := .of_same rfl rfl rfl
  replies := continues_sendReply hP
  reads := continues_receiveMessages fun _ => hP _ rfl

theorem continues_pass (hP : ∀ action, Closing action → P action) {poll : Poll}
    (hcontrol : poll.control = none) : Keeps (Continues P) (pass config poll) := by
  have hloop : Loop config (Continues P) := loop_continues hP
  rcases poll with ⟨header, control, stream⟩
  obtain rfl : control = none := hcontrol
  have hsockets : Keeps (Continues P) (handleSockets config ⟨header, none, stream⟩) := by
    cases header with
    | none => exact hloop.keeps_pure _
    | some parent =>
        have hheader : Keeps (Continues P) (handleHeaderSocket parent) := fun s =>
          .of_same rfl rfl rfl
        exact hloop.keeps_bind hheader fun _ => hloop.keeps_pure _
  refine hloop.keeps_bind hsockets fun _ => ?_
  cases stream with
  | true => exact hloop.keeps_bind hloop.reads fun _ => hloop.keeps_processMessageQueue
  | false => exact hloop.keeps_processMessageQueue

theorem replyOwed_of_silent {s s' : XDapTcpClient} (h : Continues Silent s s') :
    s'.replyOwed = s.replyOwed := by
  obtain ⟨new, -, hnew, howed, -⟩ := h
  rw [howed]
  clear howed
  induction new with
  | nil => rfl
  | cons action new ih =>
      rw [List.foldl_cons, hnew action List.mem_cons_self]
      exact ih fun other hother => hnew other (List.mem_cons_of_mem _ hother)

theorem replyOwed_of_closing {s s' : XDapTcpClient} (h : Continues Closing s s')
    (hs : s.replyOwed = false) : s'.replyOwed = false := by
  obtain ⟨new, -, hnew, howed, -⟩ := h
  rw [howed, hs]
  clear howed
  induction new with
  | nil => rfl
  | cons action new ih =>
      rw [List.foldl_cons, hnew action List.mem_cons_self]
      exact ih fun other hother => hnew other (List.mem_cons_of_mem _ hother)

end Continues

/-- The frontend sends nothing while it waits for a reply. -/
def LockStep (self : System) : Prop :=
  self.waiting.isSome = true → self.thread.client.replyOwed = false

theorem client_of_pass (config : Config) {t : Thread} (hrunning : t.status = .running)
    (poll : Poll) : (t.step config (.ok poll)).client = (exec (pass config poll) t.client).2 := by
  simp only [Thread.step, hrunning]
  rcases exec (pass config poll) t.client with ⟨result, client⟩
  cases result <;> rfl

theorem client_of_interrupted (config : Config) (t : Thread) (num : Nat) :
    (t.step config (.error num)).client = t.client := by
  rcases t with ⟨client, status⟩
  cases status with
  | running =>
      simp only [Thread.step]
      split_ifs <;> rfl
  | left => rfl
  | halted halt => rfl

theorem lockStep_step (config : Config) {self : System} (h : LockStep self) (input : Input) :
    LockStep (self.step config input) := by
  cases input with
  | request message =>
      rw [System.step]
      split
      · next hsends => exact fun _ => hsends.2
      · exact h
  | interrupted num =>
      intro hwaiting
      rw [System.step, client_of_interrupted]
      exact h hwaiting
  | pass header control stream =>
      rw [System.step]
      split
      · next hrunning =>
          intro hwaiting
          rw [client_of_pass config hrunning]
          cases control with
          | true => cases hwaiting
          | false =>
              exact replyOwed_of_closing (continues_pass (fun _ => id) rfl self.thread.client)
                (h hwaiting)
      · exact h

end XeusZmq.DapClientRuns
