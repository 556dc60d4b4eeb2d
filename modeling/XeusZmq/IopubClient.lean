import XeusZmq.WireRoundTrip
import XeusZmq.FifoPort
import XeusZmq.Runs

/-!
The queue of messages between the iopub thread of a client and the threads that
pop them. Every access is made under the mutex, so that a push or a pop is one step.
-/

namespace XeusZmq.IopubClient

open XeusZmq.Values
open XeusZmq.Authentication
open XeusZmq.Serializer
open XeusZmq.WireRoundTrip
open XeusZmq.FifoPort
open XeusZmq.Runs

inductive Slot
  | message (msg : XPubMessage)
  | movedFrom

inductive ThreadStatus
  | running
  | left
  | failed (f : Failure)

/-- The client with the messages that wait on its two sockets, all that has
been pushed, and all that calls of `pop_iopub_message` have returned. -/
structure XiopubClient where
  iopub : List Multipart
  controller : List Multipart
  messageQueue : List Slot
  pushed : List XPubMessage
  returned : List Slot
  replies : List Multipart
  status : ThreadStatus

/-- The step `pass` is one iteration of the iopub thread; the flags tell which
of its sockets `zmq::poll` reports as readable. -/
inductive Event
  | arrive (wireMsg : Multipart)
  | requestStop (stopMsg : Multipart)
  | pass (pollError : Option Nat) (iopub controller : Bool)
  | pop

namespace XiopubClient

def initial : XiopubClient :=
  ⟨[], [], [], [], [], [], .running⟩

def iopubQueueSize (self : XiopubClient) : Nat :=
  self.messageQueue.length

/-- The message is moved out of the back of the queue, and the front is popped. -/
def popIopubMessage (self : XiopubClient) : Option Slot × XiopubClient :=
  match self.messageQueue.getLast? with
  | none => (none, self)
  | some msg =>
      let moved := self.messageQueue.dropLast ++ [.movedFrom]
      (some msg, { self with messageQueue := moved.tail })

def push (msg : XPubMessage) (self : XiopubClient) : XiopubClient :=
  { self with
    messageQueue := self.messageQueue ++ [.message msg]
    pushed := self.pushed ++ [msg] }

def answer (self : XiopubClient) : XiopubClient :=
  match self.controller with
  | [] => self
  | stopMsg :: controller =>
      { self with controller, replies := self.replies ++ [stopMsg], status := .left }

/-- One iteration of the loop of `run`. An exception of the decoder is caught
behind the test of the controller. -/
def pass (decode : Multipart → Result XPubMessage) (pollError : Option Nat)
    (iopub controller : Bool) (self : XiopubClient) : XiopubClient :=
  match self.status, pollError with
  | .running, some num => { self with status := .failed (.exception (.zmqError num)) }
  | .running, none =>
      match iopub, self.iopub with
      | true, wireMsg :: rest =>
          let self := { self with iopub := rest }
          match decode wireMsg with
          | .error (.exception _) => self
          | .error (.undefined u) => { self with status := .failed (.undefined u) }
          | .ok msg => if controller then (self.push msg).answer else self.push msg
      | _, _ => if controller then self.answer else self
  | _, _ => self

def step (decode : Multipart → Result XPubMessage) (self : XiopubClient) :
    Event → XiopubClient
  | .arrive wireMsg => { self with iopub := self.iopub ++ [wireMsg] }
  | .requestStop stopMsg => { self with controller := self.controller ++ [stopMsg] }
  | .pass pollError iopub controller => self.pass decode pollError iopub controller
  | .pop =>
      let (msg, self) := self.popIopubMessage
      { self with returned := self.returned ++ msg.toList }

end XiopubClient

variable {decode : Multipart → Result XPubMessage}

def run (decode : Multipart → Result XPubMessage) : List Event → XiopubClient :=
  Runs.run (XiopubClient.step decode) .initial

/-- What has been returned is the beginning of what was pushed, a call returns
nothing exactly when all of it has been, and the size is that of the rest. -/
structure Lossless (s : XiopubClient) : Prop where
  order : s.returned <+: s.pushed.map .message
  nullopt : s.popIopubMessage.1 = none ↔ s.returned = s.pushed.map .message
  size : s.iopubQueueSize + s.returned.length = s.pushed.length

def PopsAtMostOne (s : XiopubClient) (event : Event) : Prop :=
  event = .pop → s.messageQueue.length ≤ 1

/-- The queue holds what was pushed and has not been returned. -/
def Queued (s : XiopubClient) : Prop :=
  Relays some (s.pushed.map .message) s.messageQueue s.returned

theorem Queued.lossless {s : XiopubClient} (h : Queued s) : Lossless s := by
  have hpushed : s.pushed.map Slot.message = s.returned ++ s.messageQueue := h.arrived_eq
  refine ⟨⟨s.messageQueue, hpushed.symm⟩, ?_, ?_⟩
  · have hpop : s.popIopubMessage.1 = s.messageQueue.getLast? := by
      unfold XiopubClient.popIopubMessage
      split <;> simp_all
    rw [hpop, List.getLast?_eq_none_iff, hpushed]
    exact List.self_eq_append_right.symm
  · have hlength := congrArg List.length hpushed
    rw [List.length_map, List.length_append] at hlength
    rw [XiopubClient.iopubQueueSize]
    omega

theorem queued_push {s : XiopubClient} (h : Queued s) (msg : XPubMessage) :
    Queued (s.push msg) := by
  have harrive := Relays.arrive h (Slot.message msg)
  unfold Queued XiopubClient.push
  rwa [List.map_append]

theorem queued_answer {s : XiopubClient} (h : Queued s) : Queued s.answer := by
  unfold XiopubClient.answer
  split <;> exact h

theorem queued_pass {s : XiopubClient} (h : Queued s) (pollError : Option Nat)
    (iopub controller : Bool) : Queued (s.pass decode pollError iopub controller) := by
  have hanswer {t : XiopubClient} (ht : Queued t) :
      Queued (if controller then t.answer else t) := by
    split_ifs
    · exact queued_answer ht
    · exact ht
  unfold XiopubClient.pass
  split
  · exact h
  · split
    · simp only
      split
      · exact h
      · exact h
      · exact hanswer (queued_push h _)
    · exact hanswer h
  · exact h

/-- With one message the back is the front. -/
theorem queued_pop {s : XiopubClient} (h : Queued s) (hone : s.messageQueue.length ≤ 1) :
    Queued (s.step decode .pop) := by
  rcases hqueue : s.messageQueue with _ | ⟨slot, _ | ⟨second, rest⟩⟩
  · simpa [Queued, XiopubClient.step, XiopubClient.popIopubMessage, hqueue] using h
  · unfold Queued at h ⊢
    rw [hqueue] at h
    simpa [XiopubClient.step, XiopubClient.popIopubMessage, hqueue] using h.take
  · rw [hqueue] at hone
    simp at hone

/-- As long as no call of `pop_iopub_message` finds two messages or more, the
queue is a lossless FIFO in every state. -/
theorem lossless_of_popsAtMostOne (decode : Multipart → Result XPubMessage)
    (events : List Event)
    (h : Guarded (XiopubClient.step decode) PopsAtMostOne .initial events) :
    Lossless (run decode events) := by
  apply Queued.lossless
  apply run_induction_guarded (P := fun _ s => Queued s) ?_ ?_ events h
  · exact .initial
  · intro events event hqueued hpops
    cases event with
    | arrive wireMsg => exact hqueued
    | requestStop stopMsg => exact hqueued
    | pass pollError iopub controller => exact queued_pass hqueued pollError iopub controller
    | pop => exact queued_pop hqueued (hpops rfl)

/-- The first call that finds several messages breaks the order, unless the
last of them is the same as the first. -/
theorem not_lossless_pop {s : XiopubClient} (h : Queued s) {front back : Slot}
    {middle : List Slot} (hqueue : s.messageQueue = front :: (middle ++ [back]))
    (hne : back ≠ front) : ¬ Lossless (s.step decode .pop) := by
  intro hlossless
  obtain ⟨rest, hrest⟩ := hlossless.order
  have hpushed : s.pushed.map Slot.message = s.returned ++ s.messageQueue := h.arrived_eq
  have hpop : (s.step decode .pop).pushed = s.pushed ∧
      (s.step decode .pop).returned = s.returned ++ [back] := by
    have hlast : s.messageQueue.getLast? = some back := by
      rw [hqueue, ← List.cons_append, List.getLast?_concat]
    simp [XiopubClient.step, XiopubClient.popIopubMessage, hlast]
  rw [hpop.1, hpop.2, hpushed, hqueue, List.append_assoc] at hrest
  exact hne (List.cons.inj (List.append_cancel_left hrest)).1

def frames (topic : Bytes) : Multipart :=
  [topic, delimiter, [], literal "{}", literal "{}", literal "{}", literal "{}"]

/-- Two messages, each popped before the next one is pushed. -/
theorem lossless_alternating :
    Lossless (run (deserializeIopub emptyObjectLibrary noXAuthentication)
      [.arrive (frames (literal "a")), .pass none true false, .pop,
        .arrive (frames (literal "b")), .pass none true false, .pop, .pop]) := by
  apply lossless_of_popsAtMostOne
  simp only [guarded_cons, guarded_nil, PopsAtMostOne, reduceCtorEq, false_implies,
    true_implies, true_and, and_true]
  refine ⟨?_, ?_, ?_⟩ <;> decide

theorem not_lossless :
    ¬ Lossless (run (deserializeIopub emptyObjectLibrary noXAuthentication)
      [.arrive (frames (literal "a")), .arrive (frames (literal "b")),
        .pass none true false, .pass none true false, .pop]) := by
  intro h
  obtain ⟨rest, hrest⟩ := h.order
  have hfirst := Slot.message.inj (List.cons.inj hrest).1
  exact absurd (congrArg XPubMessage.topic hfirst) (by decide)

end XeusZmq.IopubClient
