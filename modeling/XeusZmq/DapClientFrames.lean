import XeusZmq.DapClient

/-!
Relations between states of the thread that its commands keep: what is asked of the
steps they are made of, and what follows for every command.
-/

namespace XeusZmq.DapClientFrames

open XeusZmq.Values
open XeusZmq.JsonAccess
open XeusZmq.Commands
open XeusZmq.DapClient

/-- The relation holds for what is done while the thread waits for a message. -/
structure Reads (R : XDapTcpClient → XDapTcpClient → Prop) : Prop where
  refl : ∀ s, R s s
  trans : ∀ {s₁ s₂ s₃}, R s₁ s₂ → R s₂ s₃ → R s₁ s₃
  queues : ∀ s messageQueue stoppedQueue, R s { s with messageQueue, stoppedQueue }
  receives : Keeps R receiveStopped

section Reads

variable {R : XDapTcpClient → XDapTcpClient → Prop} (h : Reads R)

include h

theorem Reads.keeps_pure {α : Type} (a : α) : Keeps R (pure a : Client α) :=
  h.refl

theorem Reads.keeps_get : Keeps R (get : Client XDapTcpClient) :=
  h.refl

theorem Reads.keeps_throw {α : Type} (halt : Halt) : Keeps R (throw halt : Client α) :=
  h.refl

theorem Reads.keeps_throwing {α : Type} (x : Result α) : Keeps R (throwing x) := by
  cases x with
  | ok a => exact h.keeps_pure a
  | error f => exact h.keeps_throw _

theorem Reads.keeps_bind {α β : Type} {c : Client α} {f : α → Client β} (hc : Keeps R c)
    (hf : ∀ a, Keeps R (f a)) : Keeps R (c >>= f) :=
  Commands.keeps_bind (R := R) h.trans hc hf

theorem Reads.keeps_queues (messageQueue stoppedQueue : XDapTcpClient → List Bytes) :
    Keeps R (modify fun s =>
      { s with messageQueue := messageQueue s, stoppedQueue := stoppedQueue s } : Client PUnit) :=
  fun s => h.queues s (messageQueue s) (stoppedQueue s)

variable {json : JsonLibrary} {condition : MessageCondition}

theorem Reads.keeps_sortStopped (queue : List Bytes) (found : Option Json) :
    Keeps R (sortStopped json condition queue found) := by
  induction queue generalizing found with
  | nil => exact h.keeps_pure found
  | cons rawMessage queue ih =>
      refine h.keeps_bind (h.keeps_throwing _) fun message => ?_
      refine h.keeps_bind (h.keeps_throwing _) fun meets => ?_
      have hrest : ∀ found, Keeps R (do
          modify fun s => { s with stoppedQueue := queue }
          sortStopped json condition queue found) := fun found =>
        h.keeps_bind (h.keeps_queues (·.messageQueue) fun _ => queue) fun _ => ih found
      cases meets with
      | true => exact h.keeps_bind (h.keeps_pure _) hrest
      | false =>
          exact h.keeps_bind
            (h.keeps_queues (fun s => s.messageQueue ++ [rawMessage]) (·.stoppedQueue))
            fun _ => h.keeps_bind (h.keeps_pure _) hrest

theorem Reads.keeps_awaitMessage (fuel : Nat) : Keeps R (awaitMessage json condition fuel) := by
  induction fuel with
  | zero => exact h.keeps_throw _
  | succ fuel ih =>
      refine h.keeps_bind h.receives fun _ => ?_
      refine h.keeps_bind h.keeps_get fun _ => ?_
      refine h.keeps_bind (h.keeps_sortStopped _ _) fun found => ?_
      cases found with
      | some message => exact h.keeps_pure message
      | none => exact ih

theorem Reads.keeps_waitForMessage : Keeps R (waitForMessage json condition) := by
  refine h.keeps_bind h.keeps_get fun _ => ?_
  refine h.keeps_bind (h.keeps_throwing _) fun found => ?_
  cases found with
  | some found =>
      exact h.keeps_bind (h.keeps_queues (fun _ => found.2) (·.stoppedQueue))
        fun _ => h.keeps_pure _
  | none => exact h.keeps_awaitMessage _

end Reads

/-- The thread does it of its own accord, and sends nothing on `m_controller` or
`m_publisher`. -/
def isOwn : Action → Bool
  | .issued _ _ => true
  | .answered _ => true
  | .handled _ => true
  | .callback _ => true
  | _ => false

/-- The relation holds for what is done with a message of the debugger, too. -/
structure Frame (config : Config) (R : XDapTcpClient → XDapTcpClient → Prop) : Prop
    extends Reads R where
  records : ∀ s action, isOwn action = true → R s { s with actions := s.actions ++ [action] }
  publishes : ∀ message, Keeps R (publish config message)

section Frame

variable {config : Config} {R : XDapTcpClient → XDapTcpClient → Prop} (h : Frame config R)

include h

theorem Frame.keeps_record {action : Action} (haction : isOwn action = true) :
    Keeps R (record action) :=
  fun s => h.records s action haction

theorem Frame.keeps_sendDapRequest (message : Json) :
    Keeps R (DapClient.sendDapRequest config message) :=
  h.keeps_bind h.keeps_get fun _ => h.keeps_bind (h.keeps_throwing _) fun _ => h.keeps_record rfl

theorem Frame.keeps_eventCallback (message : Json) : Keeps R (eventCallback config message) :=
  h.keeps_bind (h.keeps_record rfl) fun _ => h.keeps_throwing _

theorem Frame.keeps_announceStop (message : Json) : Keeps R (announceStop config message) :=
  h.keeps_bind (h.keeps_throwing _) fun _ =>
    h.keeps_bind (h.keeps_sendDapRequest _) fun _ =>
      h.keeps_bind h.keeps_waitForMessage fun _ =>
        h.keeps_bind (h.keeps_record rfl) fun _ =>
          h.keeps_bind (h.keeps_throwing _) fun _ => h.keeps_eventCallback _

theorem Frame.keeps_forwardEvent (message : Json) : Keeps R (forwardEvent config message) := by
  refine h.keeps_bind (h.keeps_throwing _) fun tested => ?_
  rcases tested with ⟨stopped, message⟩
  cases stopped with
  | true => exact h.keeps_bind (h.keeps_announceStop _) fun _ => h.publishes _
  | false => exact h.keeps_bind (h.keeps_eventCallback _) fun _ => h.publishes _

theorem Frame.keeps_popFront : Keeps R popFront := by
  refine h.keeps_bind h.keeps_get fun s => ?_
  cases s.messageQueue with
  | nil => exact h.keeps_throw _
  | cons rawMessage queue => exact h.keeps_queues (fun _ => queue) (·.stoppedQueue)

end Frame

/-- The relation holds for all that follows when `zmq::poll` reports no request. -/
structure Loop (config : Config) (R : XDapTcpClient → XDapTcpClient → Prop) : Prop
    extends Frame config R where
  stops : ∀ s, R s { s with requestStop := true }
  replies : ∀ message text, Keeps R (sendReply message text)
  reads : Keeps R receiveMessages

section Loop

variable {config : Config} {R : XDapTcpClient → XDapTcpClient → Prop} (h : Loop config R)

include h

theorem Loop.keeps_processMessage (rawMessage : Bytes) :
    Keeps R (processMessage config rawMessage) := by
  refine h.keeps_bind (h.keeps_throwing _) fun message => ?_
  refine h.keeps_bind (h.keeps_throwing _) fun typed => ?_
  rcases typed with ⟨type, event⟩
  dsimp only
  split
  · exact h.keeps_bind (h.keeps_record rfl) fun _ =>
      h.keeps_bind (h.keeps_forwardEvent _) fun _ => h.keeps_popFront
  · refine h.keeps_bind (h.keeps_throwing _) fun read => ?_
    rcases read with ⟨command, _⟩
    dsimp only
    split
    · exact h.keeps_bind h.stops fun _ => h.keeps_bind (h.replies _ _) fun _ => h.keeps_popFront
    · exact h.keeps_bind (h.replies _ _) fun _ => h.keeps_popFront

theorem Loop.keeps_processMessages (fuel : Nat) : Keeps R (processMessages config fuel) := by
  induction fuel with
  | zero => exact h.keeps_throw _
  | succ fuel ih =>
      refine h.keeps_bind h.keeps_get fun s => ?_
      cases s.messageQueue with
      | nil => exact h.keeps_pure _
      | cons rawMessage queue => exact h.keeps_bind (h.keeps_processMessage rawMessage) fun _ => ih

theorem Loop.keeps_processMessageQueue : Keeps R (processMessageQueue config) :=
  h.keeps_bind h.keeps_get fun _ => h.keeps_processMessages _

theorem Loop.keeps_handleInitSequence : Keeps R (handleInitSequence config) :=
  h.keeps_bind h.keeps_waitForMessage fun _ =>
    h.keeps_bind (h.keeps_throwing _) fun _ =>
      h.keeps_bind (h.keeps_sendDapRequest _) fun _ =>
        h.keeps_bind h.keeps_waitForMessage fun _ =>
          h.keeps_bind (h.keeps_record rfl) fun _ =>
            h.keeps_bind h.keeps_waitForMessage fun _ =>
              h.keeps_bind (h.keeps_forwardEvent _) fun _ =>
                h.keeps_bind (h.keeps_throwing _) fun _ => h.replies _ _

end Loop

end XeusZmq.DapClientFrames
