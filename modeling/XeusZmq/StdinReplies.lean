import XeusZmq.ServerLoops
import XeusZmq.WireRoundTrip
import XeusZmq.FifoPort
import XeusZmq.Runs

/-!
Input requests of a server and what it takes for the replies to them. The stdin socket
is a `ROUTER`: every client has a pipe to it, a request is routed by its first frame, and
a received message begins with the identity of its sender.
-/

namespace XeusZmq.StdinReplies

open XeusZmq.Values
open XeusZmq.Authentication
open XeusZmq.Serializer
open XeusZmq.WireRoundTrip
open XeusZmq.ServerLoops
open XeusZmq.FifoPort
open XeusZmq.Runs

inductive ServerFamily
  | default
  | split
  deriving DecidableEq, Repr

/-- A message of a client, with the number of requests the client had received. -/
structure Sent where
  frames : Multipart
  seen : Nat
  deriving DecidableEq, Repr

/-- A call of the stdin listener: the request, which number it has among those for its
client, and the message that is taken for the reply, with its sender. -/
structure Handed where
  request : XMessage
  number : Nat
  source : Bytes
  seen : Nat
  reply : XMessage

inductive SenderStatus
  | idle
  | waiting (request : XMessage) (number : Nat)
  | failed (f : Failure)

/-- The requests on their way to clients, the messages that wait on the stdin socket,
and for each client how many requests it was sent and has received, and how many
messages it has sent. -/
structure StdinSystem where
  requests : List (Bytes × Multipart)
  pending : List (Bytes × Sent)
  asked : Bytes → Nat
  received : Bytes → Nat
  sent : Bytes → Nat
  handed : List Handed
  status : SenderStatus

/-- The first two steps are those of a client. In `recv` the wait of `send_stdin` ends,
with an error or with the first message of one of the pipes. -/
inductive StdinEvent
  | send (client : Bytes) (frames : Multipart)
  | receive (client : Bytes)
  | sendStdin (request : XMessage)
  | recv (recvError : Option Nat) (source : Bytes)

/-- The default server catches the exceptions of the decoder in `send_stdin`, the split
server in its own `deserialize`. -/
def deserializeReply (family : ServerFamily) (json : JsonLibrary) (auth : XAuthentication)
    (wireReply : Multipart) : Result (Option XMessage) :=
  match family with
  | .default => catchStdException (deserialize json auth wireReply)
  | .split => SplitServer.deserialize (deserialize json auth) wireReply

namespace StdinSystem

def initial : StdinSystem :=
  ⟨[], [], fun _ => 0, fun _ => 0, fun _ => 0, [], .idle⟩

def send (client : Bytes) (frames : Multipart) (self : StdinSystem) : StdinSystem :=
  { self with
    pending := self.pending ++ [(client, ⟨frames, self.received client⟩)]
    sent := Function.update self.sent client (self.sent client + 1) }

def receive (client : Bytes) (self : StdinSystem) : StdinSystem :=
  match takeFrom client self.requests with
  | none => self
  | some (_, requests) =>
      { self with
        requests
        received := Function.update self.received client (self.received client + 1) }

/-- The part of `send_stdin` before `recv`. When `serialize` throws, nothing is sent. -/
def sendStdin (json : JsonLibrary) (auth : XAuthentication) (errorHandler : ErrorHandler)
    (request : XMessage) (self : StdinSystem) : StdinSystem :=
  match self.status, serialize json auth errorHandler request with
  | .idle, .ok (client :: frames) =>
      { self with
        requests := self.requests ++ [(client, frames)]
        asked := Function.update self.asked client (self.asked client + 1)
        status := .waiting request (self.asked client + 1) }
  | _, _ => self

/-- The part of `send_stdin` behind `recv`, and of `send_stdin_impl`. -/
def handReply (family : ServerFamily) (json : JsonLibrary) (auth : XAuthentication)
    (request : XMessage) (number : Nat) (source : Bytes) (sent : Sent) (self : StdinSystem) :
    StdinSystem :=
  match deserializeReply family json auth (source :: sent.frames) with
  | .error f => { self with status := .failed f }
  | .ok none => { self with status := .idle }
  | .ok (some reply) =>
      { self with
        handed := self.handed ++ [⟨request, number, source, sent.seen, reply⟩]
        status := .idle }

def recv (family : ServerFamily) (json : JsonLibrary) (auth : XAuthentication)
    (recvError : Option Nat) (source : Bytes) (self : StdinSystem) : StdinSystem :=
  match self.status, recvError, takeFrom source self.pending with
  | .waiting _ _, some _, _ => { self with status := .idle }
  | .waiting request number, none, some (sent, pending) =>
      { self with pending }.handReply family json auth request number source sent
  | _, _, _ => self

def step (family : ServerFamily) (json : JsonLibrary) (auth : XAuthentication)
    (errorHandler : ErrorHandler) (self : StdinSystem) : StdinEvent → StdinSystem
  | .send client frames => self.send client frames
  | .receive client => self.receive client
  | .sendStdin request => self.sendStdin json auth errorHandler request
  | .recv recvError source => self.recv family json auth recvError source

end StdinSystem

section Replies

variable {family : ServerFamily} {json : JsonLibrary} {auth : XAuthentication}
  {errorHandler : ErrorHandler}

def run (family : ServerFamily) (json : JsonLibrary) (auth : XAuthentication)
    (errorHandler : ErrorHandler) : List StdinEvent → StdinSystem :=
  Runs.run (StdinSystem.step family json auth errorHandler) .initial

/-- The frame by which a request is routed. -/
def addressee (request : XMessage) : Bytes :=
  request.identities.headD delimiter

/-- The reply comes from the client that was asked, carries its identity, and was sent
when the client had received the request. -/
structure Answers (handed : Handed) : Prop where
  source : handed.source = addressee handed.request
  identity : handed.source ≠ delimiter → handed.reply.identities.head? = some handed.source
  solicited : handed.number ≤ handed.seen

def RepliesAnswer (family : ServerFamily) (json : JsonLibrary) (auth : XAuthentication)
    (errorHandler : ErrorHandler) (events : List StdinEvent) : Prop :=
  ∀ past, past <+: events →
    ∀ handed ∈ (run family json auth errorHandler past).handed, Answers handed

/-- Clients send one message for each request that they have received, and `recv` does
not fail. -/
def AnswersOnce (s : StdinSystem) (event : StdinEvent) : Prop :=
  (∀ client frames, event = .send client frames → s.sent client < s.received client) ∧
    ∀ num source, event ≠ .recv (some num) source

/-! What is on its way in a run of such clients. -/

structure Settled (s : StdinSystem) (client : Bytes) : Prop where
  sent : s.sent client = s.received client
  received : s.received client = s.asked client

structure Quiet (s : StdinSystem) : Prop where
  requests : s.requests = []
  pending : s.pending = []
  settled : ∀ client, Settled s client

/-- The request is on its way, or with the client, or the reply waits. -/
inductive Progress (s : StdinSystem) (client : Bytes) (number : Nat) : Prop
  | requested (frames : Multipart) (hrequests : s.requests = [(client, frames)])
      (hpending : s.pending = []) (hreceived : s.received client + 1 = number)
      (hsent : s.sent client = s.received client)
  | held (hrequests : s.requests = []) (hpending : s.pending = [])
      (hreceived : s.received client = number) (hsent : s.sent client + 1 = number)
  | replied (frames : Multipart) (hrequests : s.requests = [])
      (hpending : s.pending = [(client, ⟨frames, number⟩)])
      (hreceived : s.received client = number) (hsent : s.sent client = number)

structure Asking (s : StdinSystem) (client : Bytes) (number : Nat) : Prop where
  asked : s.asked client = number
  progress : Progress s client number
  others : ∀ other, other ≠ client → Settled s other

structure Orderly (s : StdinSystem) : Prop where
  idle : s.status = .idle → Quiet s
  waiting : ∀ request number, s.status = .waiting request number →
    Asking s (addressee request) number
  handed : ∀ handed ∈ s.handed, Answers handed

theorem takeFrom_single {α : Type} (client : Bytes) (a : α) :
    takeFrom client [(client, a)] = some (a, []) := by
  simp [takeFrom]

theorem takeFrom_single_of_ne {α : Type} {client other : Bytes} (h : client ≠ other) (a : α) :
    takeFrom other [(client, a)] = none := by
  simp [takeFrom, h]

theorem asking_send {s : StdinSystem} {client : Bytes} {number : Nat}
    (h : Asking s client number) {sender : Bytes} (hsolicited : s.sent sender < s.received sender)
    (frames : Multipart) : Asking (s.send sender frames) client number := by
  have hsender : sender = client := by
    by_contra hother
    exact absurd (h.others sender hother).sent (Nat.ne_of_lt hsolicited)
  subst hsender
  refine ⟨h.asked, ?_, ?_⟩
  · cases h.progress with
    | requested request hrequests hpending hreceived hsent =>
        exact absurd hsent (Nat.ne_of_lt hsolicited)
    | held hrequests hpending hreceived hsent =>
        refine .replied frames hrequests ?_ hreceived ?_
        · simp [StdinSystem.send, hpending, hreceived]
        · simpa [StdinSystem.send] using hsent
    | replied reply hrequests hpending hreceived hsent =>
        exact absurd (hsent.trans hreceived.symm) (Nat.ne_of_lt hsolicited)
  · intro other hother
    obtain ⟨hsent, hreceived⟩ := h.others other hother
    exact ⟨by simpa [StdinSystem.send, Function.update_of_ne hother] using hsent, hreceived⟩

theorem asking_receive {s : StdinSystem} {client : Bytes} {number : Nat}
    (h : Asking s client number) (receiver : Bytes) :
    Asking (s.receive receiver) client number := by
  unfold StdinSystem.receive
  cases h.progress with
  | requested frames hrequests hpending hreceived hsent =>
      by_cases hreceiver : client = receiver
      · subst hreceiver
        rw [hrequests, takeFrom_single]
        refine ⟨h.asked, .held rfl hpending ?_ ?_, ?_⟩
        · simpa using hreceived
        · simpa [hsent] using hreceived
        · intro other hother
          obtain ⟨hsent, hreceived⟩ := h.others other hother
          exact ⟨by simpa [Function.update_of_ne hother] using hsent,
            by simpa [Function.update_of_ne hother] using hreceived⟩
      · rw [hrequests, takeFrom_single_of_ne hreceiver]
        exact h
  | held hrequests =>
      rw [hrequests]
      exact h
  | replied _ hrequests =>
      rw [hrequests]
      exact h

theorem asking_sendStdin {s : StdinSystem} (h : Quiet s) (client : Bytes) (frames : Multipart)
    (status : SenderStatus) :
    Asking
      { s with
        requests := s.requests ++ [(client, frames)]
        asked := Function.update s.asked client (s.asked client + 1)
        status } client (s.asked client + 1) := by
  obtain ⟨hsent, hreceived⟩ := h.settled client
  refine ⟨Function.update_self _ _ _, .requested frames ?_ h.pending ?_ hsent, ?_⟩
  · simp [h.requests]
  · simpa using hreceived
  · intro other hother
    obtain ⟨hsent, hreceived⟩ := h.settled other
    exact ⟨hsent, by simpa [Function.update_of_ne hother] using hreceived⟩

/-- Only the reply to the request can be received. -/
theorem Asking.received {s : StdinSystem} {client : Bytes} {number : Nat}
    (h : Asking s client number) {source : Bytes} {sent : Sent} {pending : List (Bytes × Sent)}
    (htake : takeFrom source s.pending = some (sent, pending)) :
    source = client ∧ sent.seen = number ∧ Quiet { s with pending } := by
  cases h.progress with
  | requested frames hrequests hpending hreceived hsent =>
      rw [hpending] at htake
      exact absurd htake nofun
  | held hrequests hpending hreceived hsent =>
      rw [hpending] at htake
      exact absurd htake nofun
  | replied frames hrequests hpending hreceived hsent =>
      rw [hpending] at htake
      by_cases hsource : client = source
      · subst hsource
        rw [takeFrom_single] at htake
        obtain ⟨rfl, rfl⟩ := Prod.mk.inj (Option.some.inj htake)
        refine ⟨rfl, rfl, hrequests, rfl, ?_⟩
        intro other
        by_cases hother : other = client
        · subst hother
          exact ⟨hsent.trans hreceived.symm, hreceived.trans h.asked.symm⟩
        · obtain ⟨hsent, hreceived⟩ := h.others other hother
          exact ⟨hsent, hreceived⟩
      · rw [takeFrom_single_of_ne hsource] at htake
        exact absurd htake nofun

theorem deserializeReply_eq (family : ServerFamily) (json : JsonLibrary) (auth : XAuthentication)
    (wireReply : Multipart) : deserializeReply family json auth wireReply =
      catchStdException (deserialize json auth wireReply) := by
  cases family <;> rfl

/-- The identity of the sender is the first one of the reply. -/
theorem identity_of_deserializeReply {source : Bytes} {frames : Multipart} {reply : XMessage}
    (h : deserializeReply family json auth (source :: frames) = .ok (some reply))
    (hsource : source ≠ delimiter) : reply.identities.head? = some source := by
  rw [deserializeReply_eq] at h
  have hdecode : deserialize json auth (source :: frames) = .ok reply := by
    unfold catchStdException at h
    split at h
    · rename_i msg hdecode
      rw [hdecode, Option.some.inj (Except.ok.inj h)]
    · exact absurd (Except.ok.inj h) nofun
    · exact absurd h nofun
  obtain ⟨baseFrames, -, hwire, -⟩ := deserialize_eq_ok hdecode
  cases hids : reply.identities with
  | nil =>
      rw [hids] at hwire
      exact absurd (List.cons.inj hwire).1 hsource
  | cons id ids =>
      rw [hids] at hwire
      rw [(List.cons.inj hwire).1]
      rfl

theorem orderly_handReply {s : StdinSystem} (hquiet : Quiet s)
    (hhanded : ∀ handed ∈ s.handed, Answers handed) {request : XMessage} {number : Nat}
    {source : Bytes} {sent : Sent} (hsource : source = addressee request)
    (hseen : sent.seen = number) :
    Orderly (s.handReply family json auth request number source sent) := by
  have hstill (handed : List Handed) (status : SenderStatus) : Quiet { s with handed, status } :=
    ⟨hquiet.requests, hquiet.pending, fun client =>
      ⟨(hquiet.settled client).sent, (hquiet.settled client).received⟩⟩
  unfold StdinSystem.handReply
  split
  · exact ⟨nofun, nofun, hhanded⟩
  · exact ⟨fun _ => hstill _ _, nofun, hhanded⟩
  · rename_i reply hreply
    refine ⟨fun _ => hstill _ _, nofun, ?_⟩
    intro handed hmem
    rcases List.mem_append.mp hmem with hmem | hmem
    · exact hhanded handed hmem
    · obtain rfl := List.mem_singleton.mp hmem
      exact ⟨hsource, identity_of_deserializeReply hreply, Nat.le_of_eq hseen.symm⟩

theorem addressee_of_serialize {request : XMessage} {client : Bytes} {frames : Multipart}
    (h : serialize json auth errorHandler request = .ok (client :: frames)) :
    client = addressee request := by
  obtain ⟨baseFrames, -, hwire⟩ := serialize_eq_ok.mp h
  unfold addressee
  cases hids : request.identities with
  | nil | cons =>
      rw [hids] at hwire
      exact (List.cons.inj hwire).1

theorem orderly_receive {s : StdinSystem} (h : Orderly s) (client : Bytes) :
    Orderly (s.receive client) := by
  have hstatus : (s.receive client).status = s.status ∧
      (s.receive client).handed = s.handed := by
    unfold StdinSystem.receive
    split <;> exact ⟨rfl, rfl⟩
  refine ⟨fun hidle => ?_, fun request number hwaiting => ?_, fun handed hmem => ?_⟩
  · have hquiet := h.idle (hstatus.1.symm.trans hidle)
    have hnone : s.receive client = s := by
      simp [StdinSystem.receive, hquiet.requests, takeFrom]
    rwa [hnone]
  · exact asking_receive (h.waiting request number (hstatus.1.symm.trans hwaiting)) client
  · exact h.handed handed (hstatus.2 ▸ hmem)

theorem orderly_sendStdin {s : StdinSystem} (h : Orderly s) (request : XMessage) :
    Orderly (s.sendStdin json auth errorHandler request) := by
  unfold StdinSystem.sendStdin
  split
  · rename_i client frames hidle hserialize
    refine ⟨by rintro ⟨⟩, ?_, h.handed⟩
    rintro _ _ ⟨⟩
    rw [← addressee_of_serialize hserialize]
    exact asking_sendStdin (h.idle hidle) client frames _
  · exact h

theorem orderly_step {s : StdinSystem} (h : Orderly s) {event : StdinEvent}
    (honce : AnswersOnce s event) : Orderly (s.step family json auth errorHandler event) := by
  obtain ⟨hsolicited, hrecv⟩ := honce
  cases event with
  | send client frames =>
      have hless := hsolicited client frames rfl
      refine ⟨fun hidle => ?_, fun request number hwaiting => ?_, h.handed⟩
      · exact absurd ((h.idle hidle).settled client).sent (Nat.ne_of_lt hless)
      · exact asking_send (h.waiting request number hwaiting) hless frames
  | receive client => exact orderly_receive h client
  | sendStdin request => exact orderly_sendStdin h request
  | recv recvError source =>
      simp only [StdinSystem.step, StdinSystem.recv]
      split
      · exact absurd rfl (hrecv _ source)
      · rename_i request number sent pending hwaiting htake
        obtain ⟨hsource, hseen, hquiet⟩ := (h.waiting request number hwaiting).received htake
        exact orderly_handReply hquiet h.handed hsource hseen
      · exact h

/-- As long as clients send nothing on the stdin socket but one message for each request
they have received, and `recv` does not fail, every reply answers its request. -/
theorem repliesAnswer_of_answersOnce (family : ServerFamily) (json : JsonLibrary)
    (auth : XAuthentication) (errorHandler : ErrorHandler) (events : List StdinEvent)
    (h : Guarded (StdinSystem.step family json auth errorHandler) AnswersOnce .initial events) :
    RepliesAnswer family json auth errorHandler events := by
  rintro past ⟨rest, rfl⟩
  have horderly : Orderly (run family json auth errorHandler past) := by
    apply run_induction_guarded (P := fun _ s => Orderly s) ?_ ?_ past h.front
    · exact ⟨fun _ => ⟨rfl, rfl, fun _ => ⟨rfl, rfl⟩⟩, nofun, by simp [StdinSystem.initial]⟩
    · intro past event horderly honce
      exact orderly_step horderly honce
  exact horderly.handed

end Replies

def inputRequest (client : Bytes) : XMessage :=
  { identities := [client]
    data := ⟨.object [], .object [], .object [], .object [], []⟩ }

def inputReply : Multipart :=
  [delimiter, [], literal "{}", literal "{}", literal "{}", literal "{}"]

theorem repliesAnswer_twoClients :
    RepliesAnswer .default emptyObjectLibrary noXAuthentication .strict
      [.sendStdin (inputRequest [1]), .receive [1], .send [1] inputReply, .recv none [1],
        .sendStdin (inputRequest [2]), .receive [2], .send [2] inputReply, .recv none [2]] := by
  apply repliesAnswer_of_answersOnce
  simp only [guarded_cons, guarded_nil, AnswersOnce, and_true]
  refine ⟨by simp, by simp, ⟨?_, by simp⟩, by simp, by simp, by simp, ⟨?_, by simp⟩, by simp⟩
  · rintro _ _ ⟨⟩
    decide
  · rintro _ _ ⟨⟩
    decide

/-- The message of another client waits on the socket when the request is sent, or the
client itself has sent one before it has received the request. -/
theorem not_repliesAnswer :
    ¬ (∀ events, RepliesAnswer .default emptyObjectLibrary noXAuthentication .strict events) ∧
      ¬ ∀ events, RepliesAnswer .split emptyObjectLibrary noXAuthentication .strict events := by
  constructor
  · intro h
    have hanswers := h [.send [2] inputReply, .sendStdin (inputRequest [1]), .recv none [2]] _
      (List.prefix_refl _) _ List.mem_cons_self
    exact absurd hanswers.source (by decide)
  · intro h
    have hanswers := h [.send [1] inputReply, .sendStdin (inputRequest [1]), .recv none [1]] _
      (List.prefix_refl _) _ List.mem_cons_self
    exact absurd hanswers.solicited (by decide)

end XeusZmq.StdinReplies
