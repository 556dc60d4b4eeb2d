import XeusZmq.SplitDispatch
import XeusZmq.MissingFrames

/-!
The calls that the control thread of the split server makes of its shell thread. A
call is a request and a reply on a pair of sockets, served by the loop of the shell
runner between the messages of its shell socket.
-/

namespace XeusZmq.ShellMessenger

open XeusZmq.Values
open XeusZmq.Authentication
open XeusZmq.Serializer
open XeusZmq.WireRoundTrip
open XeusZmq.ServerLoops
open XeusZmq.SplitDispatch
open XeusZmq.MissingFrames
open XeusZmq.Runs

/-- What the internal listener returns when it is called, given how many calls there
have been before. -/
abbrev InternalListener := Nat → Json → Json

/-- `xtrivial_messenger::send_to_shell_impl`: the listener is called directly. -/
def trivialSendToShell (listener : InternalListener) (calls : Nat) (message : Json) : Json :=
  listener calls message

def trivialReturns (listener : InternalListener) (messages : List Json) : List Json :=
  messages.mapIdx (trivialSendToShell listener)

/-- Where the control thread stands: outside the messenger, in `send_to_shell`, in
`stop_channels`, or behind the reply of the shell thread to it. -/
inductive CallerStatus
  | idle
  | awaits
  | stopping
  | stopped
  deriving DecidableEq, Repr

/-- The split server with what its internal listener has been called with, the messages
that `send_to_shell` has been called with, what has been sent on the controller socket,
and what the calls have returned. The replies that the caller has received are counted. -/
structure XzmqMessenger where
  server : SplitServer
  listened : List Json
  caller : CallerStatus
  asked : List Json
  requests : List Bytes
  received : Nat
  returned : List (Except JsonException Json)

inductive MessengerEvent
  | arrive (wireMsg : Multipart)
  | shellPass (pollError : Option Nat)
  | sendToShell (message : Json)
  | stopChannels
  | receiveReply

namespace XzmqMessenger

def initial : XzmqMessenger :=
  ⟨.initial, [], .idle, [], [], 0, []⟩

def request (text : Bytes) (caller : CallerStatus) (self : XzmqMessenger) : XzmqMessenger :=
  { self with
    server := { self.server with shellController := self.server.shellController ++ [text] }
    requests := self.requests ++ [text]
    caller }

def sendToShell (json : JsonLibrary) (message : Json) (self : XzmqMessenger) : XzmqMessenger :=
  match self.caller with
  | .idle =>
      let self := { self with asked := self.asked ++ [message] }
      match json.dump .strict message with
      | .error e => { self with returned := self.returned ++ [.error e] }
      | .ok text => self.request text .awaits
  | _ => self

def stopChannels (self : XzmqMessenger) : XzmqMessenger :=
  match self.caller with
  | .idle => self.request (literal "stop") .stopping
  | _ => self

/-- The wait of the caller ends with the reply. -/
def receiveReply (json : JsonLibrary) (self : XzmqMessenger) : XzmqMessenger :=
  match self.caller, self.server.replies[self.received]? with
  | .awaits, some reply =>
      { self with
        received := self.received + 1
        returned := self.returned ++ [json.parse reply]
        caller := .idle }
  | .stopping, some _ => { self with received := self.received + 1, caller := .stopped }
  | _, _ => self

def shellFailed (e : JsonException) (self : XzmqMessenger) : XzmqMessenger :=
  { self with server := { self.server with shellStatus := .failed (.exception (.json e)) } }

def sendController (reply : Bytes) (status : LoopStatus) (self : XzmqMessenger) : XzmqMessenger :=
  { self with
    server := { self.server with
      replies := self.server.replies ++ [reply]
      shellStatus := status } }

/-- `xserver_zmq_split::notify_internal_listener`, with the reply sent. -/
def notifyInternalListener (json : JsonLibrary) (errorHandler : ErrorHandler)
    (listener : InternalListener) (message : Bytes) (self : XzmqMessenger) : XzmqMessenger :=
  match json.parse message with
  | .error e => self.shellFailed e
  | .ok msg =>
      let reply := listener self.listened.length msg
      let self := { self with listened := self.listened ++ [msg] }
      match json.dump errorHandler reply with
      | .error e => self.shellFailed e
      | .ok rep => self.sendController rep .polling

def readController (json : JsonLibrary) (errorHandler : ErrorHandler)
    (listener : InternalListener) (self : XzmqMessenger) : XzmqMessenger :=
  match self.server.shellController with
  | [] => self
  | val :: shellController =>
      let self := { self with server := { self.server with shellController } }
      if val = literal "stop" then self.sendController val .left
      else self.notifyInternalListener json errorHandler listener val

/-- The loop of `xshell_default_runner::run_impl`. -/
def shellPass (json : JsonLibrary) (auth : XAuthentication) (errorHandler : ErrorHandler)
    (listener : InternalListener) (pollError : Option Nat) (self : XzmqMessenger) :
    XzmqMessenger :=
  match self.server.shellStatus with
  | .polling =>
      match self.server.pollShellChannels pollError with
      | .error f => { self with server := { self.server with shellStatus := .failed f } }
      | .ok none => self
      | .ok (some .shell) =>
          { self with server := self.server.readShell (deserialize json auth) }
      | .ok (some .control) => self.readController json errorHandler listener
  | _ => self

def step (json : JsonLibrary) (auth : XAuthentication) (errorHandler : ErrorHandler)
    (listener : InternalListener) (self : XzmqMessenger) : MessengerEvent → XzmqMessenger
  | .arrive wireMsg => { self with server := self.server.arrive .shell wireMsg }
  | .shellPass pollError => self.shellPass json auth errorHandler listener pollError
  | .sendToShell message => self.sendToShell json message
  | .stopChannels => self.stopChannels
  | .receiveReply => self.receiveReply json

end XzmqMessenger

section Messenger

variable {json : JsonLibrary} {auth : XAuthentication} {errorHandler : ErrorHandler}
  {listener : InternalListener}

def run (json : JsonLibrary) (auth : XAuthentication) (errorHandler : ErrorHandler)
    (listener : InternalListener) : List MessengerEvent → XzmqMessenger :=
  Runs.run (XzmqMessenger.step json auth errorHandler listener) .initial

/-- The messages for which `send_to_shell` has returned. -/
def finished (s : XzmqMessenger) : List Json :=
  if s.caller = .awaits then s.asked.dropLast else s.asked

/-- What the server has dispatched and replied. -/
structure SameDispatches (s s' : XzmqMessenger) : Prop where
  calls : s'.server.calls = s.server.calls
  listened : s'.listened = s.listened
  replies : s'.server.replies = s.server.replies

/-- The calls return what they would return if the listener was called directly; each
request is replied to at most once, and once the shell thread has gone on for long
enough; nothing but the request of `stop_channels` ends the loop, and nothing is
dispatched behind it. -/
structure CallsListener (json : JsonLibrary) (auth : XAuthentication)
    (errorHandler : ErrorHandler) (listener : InternalListener) (events : List MessengerEvent) :
    Prop where
  returns : (run json auth errorHandler listener events).returned =
    (trivialReturns listener (finished (run json auth errorHandler listener events))).map .ok
  listens : (run json auth errorHandler listener events).listened <+:
    (run json auth errorHandler listener events).asked
  repliesOnce : (run json auth errorHandler listener events).server.replies.length +
      (run json auth errorHandler listener events).server.shellController.length =
    (run json auth errorHandler listener events).requests.length
  replies : ∃ n, (run json auth errorHandler listener
    (events ++ List.replicate n (.shellPass none))).server.replies.length =
      (run json auth errorHandler listener events).requests.length
  stops : (run json auth errorHandler listener events).server.shellStatus = .left →
    (run json auth errorHandler listener events).caller = .stopping ∨
      (run json auth errorHandler listener events).caller = .stopped
  silent : ∀ past, past <+: events →
    (run json auth errorHandler listener past).server.shellStatus = .left →
    SameDispatches (run json auth errorHandler listener past)
      (run json auth errorHandler listener events)

/-- The value survives being sent as text. -/
def RoundTrips (json : JsonLibrary) (errorHandler : ErrorHandler) (value : Json) : Prop :=
  ∃ text, json.dump errorHandler value = .ok text ∧ json.parse text = .ok value

/-- No frame that decoding reads is missing, and the signature frame is not shorter
than the code. -/
def Decodable (json : JsonLibrary) (auth : XAuthentication) (wireMsg : Multipart) : Prop :=
  HasBehindDelimiter 5 wireMsg ∧
    ∀ ids rest, deserializeZmqId wireMsg = .ok (ids, rest) → SignatureReadable json auth rest

/-! One call at a time is on its way. -/

inductive Phase (json : JsonLibrary) (errorHandler : ErrorHandler) (listener : InternalListener)
    (s : XzmqMessenger) : Prop
  | idle (hcaller : s.caller = .idle) (hstatus : s.server.shellStatus = .polling)
      (hcontroller : s.server.shellController = [])
      (hreplies : s.server.replies.length = s.received) (hlistened : s.listened = s.asked)
      (hreturned : s.returned = (trivialReturns listener s.asked).map .ok)
  | requested (messages : List Json) (message : Json) (text : Bytes)
      (hcaller : s.caller = .awaits) (hstatus : s.server.shellStatus = .polling)
      (hcontroller : s.server.shellController = [text]) (hstop : text ≠ literal "stop")
      (hparse : json.parse text = .ok message)
      (hlistener : ∀ calls, RoundTrips json errorHandler (listener calls message))
      (hreplies : s.server.replies.length = s.received) (hasked : s.asked = messages ++ [message])
      (hlistened : s.listened = messages)
      (hreturned : s.returned = (trivialReturns listener messages).map .ok)
  | replied (messages : List Json) (message : Json) (front : List Bytes) (reply : Bytes)
      (hcaller : s.caller = .awaits) (hstatus : s.server.shellStatus = .polling)
      (hcontroller : s.server.shellController = [])
      (hparse : json.parse reply = .ok (listener messages.length message))
      (hreplies : s.server.replies = front ++ [reply]) (hreceived : front.length = s.received)
      (hasked : s.asked = messages ++ [message]) (hlistened : s.listened = messages ++ [message])
      (hreturned : s.returned = (trivialReturns listener messages).map .ok)
  | stopping (hcaller : s.caller = .stopping) (hstatus : s.server.shellStatus = .polling)
      (hcontroller : s.server.shellController = [literal "stop"])
      (hreplies : s.server.replies.length = s.received) (hlistened : s.listened = s.asked)
      (hreturned : s.returned = (trivialReturns listener s.asked).map .ok)
  | left (hcaller : s.caller = .stopping ∨ s.caller = .stopped)
      (hstatus : s.server.shellStatus = .left) (hcontroller : s.server.shellController = [])
      (hlistened : s.listened = s.asked)
      (hreturned : s.returned = (trivialReturns listener s.asked).map .ok)

structure Lockstep (json : JsonLibrary) (auth : XAuthentication) (errorHandler : ErrorHandler)
    (listener : InternalListener) (s : XzmqMessenger) : Prop where
  phase : Phase json errorHandler listener s
  harmless : ∀ wireMsg ∈ s.server.shell, ¬ Harmful (deserialize json auth) wireMsg
  counted : s.server.replies.length + s.server.shellController.length = s.requests.length

theorem Phase.shell {s : XzmqMessenger} (h : Phase json errorHandler listener s)
    (shell : List Multipart) (calls : List (Channel × XMessage)) :
    Phase json errorHandler listener { s with server := { s.server with shell, calls } } := by
  cases h with
  | idle hcaller hstatus hcontroller hreplies hlistened hreturned =>
      exact .idle hcaller hstatus hcontroller hreplies hlistened hreturned
  | requested messages message text hcaller hstatus hcontroller hstop hparse hlistener hreplies
      hasked hlistened hreturned =>
      exact .requested messages message text hcaller hstatus hcontroller hstop hparse hlistener
        hreplies hasked hlistened hreturned
  | replied messages message front reply hcaller hstatus hcontroller hparse hreplies hreceived
      hasked hlistened hreturned =>
      exact .replied messages message front reply hcaller hstatus hcontroller hparse hreplies
        hreceived hasked hlistened hreturned
  | stopping hcaller hstatus hcontroller hreplies hlistened hreturned =>
      exact .stopping hcaller hstatus hcontroller hreplies hlistened hreturned
  | left hcaller hstatus hcontroller hlistened hreturned =>
      exact .left hcaller hstatus hcontroller hlistened hreturned

theorem trivialReturns_concat (listener : InternalListener) (messages : List Json)
    (message : Json) : trivialReturns listener (messages ++ [message]) =
      trivialReturns listener messages ++ [listener messages.length message] := by
  rw [trivialReturns, List.mapIdx_concat]
  rfl

theorem lockstep_sendToShell {s : XzmqMessenger}
    (h : Lockstep json auth errorHandler listener s) {message : Json}
    (hstop : ∀ value, json.parse (literal "stop") ≠ .ok value)
    (hmessage : RoundTrips json .strict message)
    (hlistener : ∀ calls, RoundTrips json errorHandler (listener calls message)) :
    Lockstep json auth errorHandler listener (s.sendToShell json message) := by
  obtain ⟨text, hdump, hparse⟩ := hmessage
  have hcounted := h.counted
  cases h.phase with
  | idle hcaller hstatus hcontroller hreplies hlistened hreturned =>
      have htext : text ≠ literal "stop" := by
        rintro rfl
        exact hstop message hparse
      simp only [XzmqMessenger.sendToShell, hcaller, hdump]
      refine ⟨.requested s.asked message text rfl hstatus ?_ htext hparse hlistener hreplies rfl
        hlistened hreturned, h.harmless, ?_⟩
      · simp [XzmqMessenger.request, hcontroller]
      · simp only [XzmqMessenger.request, List.length_append]
        omega
  | requested messages message' text' hcaller | replied messages message' front reply hcaller =>
      simpa only [XzmqMessenger.sendToShell, hcaller] using h
  | stopping hcaller => simpa only [XzmqMessenger.sendToShell, hcaller] using h
  | left hcaller =>
      rcases hcaller with hcaller | hcaller <;>
        simpa only [XzmqMessenger.sendToShell, hcaller] using h

theorem lockstep_stopChannels {s : XzmqMessenger}
    (h : Lockstep json auth errorHandler listener s) :
    Lockstep json auth errorHandler listener s.stopChannels := by
  have hcounted := h.counted
  cases h.phase with
  | idle hcaller hstatus hcontroller hreplies hlistened hreturned =>
      simp only [XzmqMessenger.stopChannels, hcaller]
      refine ⟨.stopping rfl hstatus ?_ hreplies hlistened hreturned, h.harmless, ?_⟩
      · simp [XzmqMessenger.request, hcontroller]
      · simp only [XzmqMessenger.request, List.length_append]
        omega
  | requested messages message text hcaller | replied messages message front reply hcaller =>
      simpa only [XzmqMessenger.stopChannels, hcaller] using h
  | stopping hcaller => simpa only [XzmqMessenger.stopChannels, hcaller] using h
  | left hcaller =>
      rcases hcaller with hcaller | hcaller <;>
        simpa only [XzmqMessenger.stopChannels, hcaller] using h

theorem lockstep_receiveReply {s : XzmqMessenger}
    (h : Lockstep json auth errorHandler listener s) :
    Lockstep json auth errorHandler listener (s.receiveReply json) := by
  unfold XzmqMessenger.receiveReply
  cases h.phase with
  | idle hcaller => simpa only [hcaller] using h
  | requested messages message text hcaller hstatus hcontroller hstop hparse hlistener hreplies =>
      have hnone : s.server.replies[s.received]? = none :=
        List.getElem?_eq_none (Nat.le_of_eq hreplies)
      simpa only [hcaller, hnone] using h
  | replied messages message front reply hcaller hstatus hcontroller hparse hreplies hreceived
      hasked hlistened hreturned =>
      have hsome : s.server.replies[s.received]? = some reply := by
        rw [hreplies, ← hreceived, List.getElem?_concat_length]
      simp only [hcaller, hsome]
      refine ⟨.idle rfl hstatus hcontroller ?_ (hlistened.trans hasked.symm) ?_, h.harmless,
        h.counted⟩
      · rw [hreplies, List.length_append, hreceived]
        rfl
      · simp only [hasked, trivialReturns_concat, hreturned, hparse, List.map_append,
          List.map_singleton]
  | stopping hcaller hstatus hcontroller hreplies =>
      have hnone : s.server.replies[s.received]? = none :=
        List.getElem?_eq_none (Nat.le_of_eq hreplies)
      simpa only [hcaller, hnone] using h
  | left hcaller hstatus hcontroller hlistened hreturned =>
      have hphase (received : Nat) (caller : CallerStatus)
          (hcaller : caller = .stopping ∨ caller = .stopped) :
          Lockstep json auth errorHandler listener { s with received, caller } :=
        ⟨.left hcaller hstatus hcontroller hlistened hreturned, h.harmless, h.counted⟩
      split
      · rename_i hawaits _
        rcases hcaller with hcaller | hcaller <;> exact absurd (hcaller.symm.trans hawaits) nofun
      · exact hphase _ _ (.inr rfl)
      · exact h

/-- The request in the controller socket is answered. -/
theorem lockstep_readController {s : XzmqMessenger}
    (h : Lockstep json auth errorHandler listener s) :
    Lockstep json auth errorHandler listener (s.readController json errorHandler listener) ∧
      (s.readController json errorHandler listener).requests = s.requests ∧
      (s.readController json errorHandler listener).server.shell = s.server.shell ∧
      (s.readController json errorHandler listener).server.shellController = [] := by
  have hcounted := h.counted
  unfold XzmqMessenger.readController
  cases h.phase with
  | idle hcaller hstatus hcontroller
  | replied _ _ _ _ hcaller hstatus hcontroller
  | left hcaller hstatus hcontroller =>
      rw [hcontroller]
      exact ⟨h, rfl, rfl, hcontroller⟩
  | requested messages message text hcaller hstatus hcontroller hstop hparse hlistener hreplies
      hasked hlistened hreturned =>
      obtain ⟨reply, hdump, hreparse⟩ := hlistener messages.length
      simp only [hcontroller, if_neg hstop, XzmqMessenger.notifyInternalListener, hparse,
        hlistened, hdump]
      refine ⟨⟨.replied messages message s.server.replies reply hcaller rfl rfl hreparse rfl
        hreplies hasked rfl hreturned, h.harmless, ?_⟩, rfl, rfl, rfl⟩
      rw [hcontroller] at hcounted
      simpa [XzmqMessenger.sendController] using hcounted
  | stopping hcaller hstatus hcontroller hreplies hlistened hreturned =>
      simp only [hcontroller, if_true]
      refine ⟨⟨.left (.inl hcaller) rfl rfl hlistened hreturned, h.harmless, ?_⟩, rfl, rfl, rfl⟩
      rw [hcontroller] at hcounted
      simpa [XzmqMessenger.sendController] using hcounted

theorem readShell_eq {decode : Multipart → Result XMessage} {s : SplitServer}
    {wireMsg : Multipart} {rest : List Multipart} (hshell : s.shell = wireMsg :: rest)
    (hharmless : ¬ Harmful decode wireMsg) :
    s.readShell decode =
      { s with shell := rest, calls := s.calls ++ callsFor decode .shell wireMsg } := by
  unfold SplitServer.readShell
  rw [hshell]
  simp only
  cases hdeserialize : SplitServer.deserialize decode wireMsg with
  | error f => exact absurd (deserialize_eq_error hdeserialize) hharmless
  | ok msg =>
      rw [callsFor, deserialize_eq_ok hdeserialize]
      cases msg with
      | none => simp
      | some msg => rfl

theorem lockstep_shellPass {s : XzmqMessenger}
    (h : Lockstep json auth errorHandler listener s) {pollError : Option Nat}
    (hpoll : ¬ Fatal pollError) :
    Lockstep json auth errorHandler listener
        (s.shellPass json auth errorHandler listener pollError) ∧
      (s.shellPass json auth errorHandler listener pollError).requests = s.requests := by
  unfold XzmqMessenger.shellPass SplitServer.pollShellChannels
  split
  · rcases pollError with _ | num
    · cases hshell : s.server.shell with
      | cons wireMsg rest =>
          simp only
          rw [readShell_eq hshell (h.harmless wireMsg (hshell ▸ List.mem_cons_self))]
          refine ⟨⟨h.phase.shell _ _, ?_, h.counted⟩, trivial⟩
          intro other hmem
          exact h.harmless other (hshell ▸ List.mem_cons_of_mem wireMsg hmem)
      | nil =>
          cases hcontroller : s.server.shellController with
          | nil => exact ⟨h, rfl⟩
          | cons val rest =>
              obtain ⟨hlockstep, hrequests, -⟩ := lockstep_readController h
              exact ⟨hlockstep, hrequests⟩
    · have hnum : ¬ (num ≠ eintr ∧ num ≠ eterm) := fun hnum => hpoll ⟨num, rfl, hnum⟩
      simp only [catchZmqError, if_neg hnum]
      exact ⟨h, trivial⟩
  · exact ⟨h, rfl⟩

/-- Each pass of the shell thread reads a message, as long as a request waits. -/
theorem shellPass_progress {s : XzmqMessenger}
    (h : Lockstep json auth errorHandler listener s) (hwaits : s.server.shellController ≠ []) :
    (s.shellPass json auth errorHandler listener none).server.shell.length +
        (s.shellPass json auth errorHandler listener none).server.shellController.length <
      s.server.shell.length + s.server.shellController.length := by
  have hstatus : s.server.shellStatus = .polling := by
    cases h.phase with
    | idle hcaller hstatus
    | requested _ _ _ hcaller hstatus
    | replied _ _ _ _ hcaller hstatus
    | stopping hcaller hstatus => exact hstatus
    | left hcaller hstatus hcontroller => exact absurd hcontroller hwaits
  simp only [XzmqMessenger.shellPass, hstatus, SplitServer.pollShellChannels]
  cases hshell : s.server.shell with
  | cons wireMsg rest =>
      simp only
      rw [readShell_eq hshell (h.harmless wireMsg (hshell ▸ List.mem_cons_self))]
      simp
  | nil =>
      obtain ⟨val, rest, hcontroller⟩ := List.exists_cons_of_ne_nil hwaits
      obtain ⟨-, -, hshell', hcontroller'⟩ := lockstep_readController h
      simp only [hcontroller, hshell', hcontroller', hshell]
      simp

/-- What is promised of the surroundings: `zmq::poll` fails by interruption only, and
the values that are sent survive it. -/
def Promised (json : JsonLibrary) (errorHandler : ErrorHandler) (listener : InternalListener) :
    MessengerEvent → Prop
  | .shellPass pollError => ¬ Fatal pollError
  | .sendToShell message =>
      RoundTrips json .strict message ∧
        ∀ calls, RoundTrips json errorHandler (listener calls message)
  | _ => True

theorem lockstep_step {s : XzmqMessenger} (h : Lockstep json auth errorHandler listener s)
    (hstop : ∀ value, json.parse (literal "stop") ≠ .ok value) {event : MessengerEvent}
    (hpromised : Promised json errorHandler listener event)
    (hharmless : ∀ wireMsg, event = .arrive wireMsg → ¬ Harmful (deserialize json auth) wireMsg) :
    Lockstep json auth errorHandler listener (s.step json auth errorHandler listener event) := by
  cases event with
  | arrive wireMsg =>
      refine ⟨h.phase.shell _ _, ?_, h.counted⟩
      intro other hmem
      rcases List.mem_append.mp hmem with hmem | hmem
      · exact h.harmless other hmem
      · rw [List.mem_singleton.mp hmem]
        exact hharmless wireMsg rfl
  | shellPass pollError => exact (lockstep_shellPass h hpromised).1
  | sendToShell message => exact lockstep_sendToShell h hstop hpromised.1 hpromised.2
  | stopChannels => exact lockstep_stopChannels h
  | receiveReply => exact lockstep_receiveReply h

theorem run_lockstep (hstop : ∀ value, json.parse (literal "stop") ≠ .ok value)
    {events : List MessengerEvent}
    (hpromised : ∀ event ∈ events, Promised json errorHandler listener event)
    (hharmless : ∀ wireMsg, .arrive wireMsg ∈ events →
      ¬ Harmful (deserialize json auth) wireMsg) :
    Lockstep json auth errorHandler listener (run json auth errorHandler listener events) := by
  induction events using List.reverseRecOn with
  | nil =>
      refine ⟨.idle rfl rfl rfl rfl rfl rfl, ?_, rfl⟩
      exact fun wireMsg hmem => absurd hmem List.not_mem_nil
  | append_singleton events event ih =>
      rw [run, run_concat]
      apply lockstep_step (ih ?_ ?_) hstop (hpromised event List.mem_concat_self)
      · rintro wireMsg rfl
        exact hharmless wireMsg List.mem_concat_self
      · exact fun other hmem => hpromised other (List.mem_append_left _ hmem)
      · exact fun wireMsg hmem => hharmless wireMsg (List.mem_append_left _ hmem)

theorem Lockstep.exists_replies {s : XzmqMessenger}
    (h : Lockstep json auth errorHandler listener s) :
    ∃ n, (Runs.run (XzmqMessenger.step json auth errorHandler listener) s
      (List.replicate n (.shellPass none))).server.replies.length = s.requests.length := by
  have hpoll : ¬ Fatal none := by simp [Fatal]
  obtain ⟨n, ⟨hlockstep, hrequests⟩, hnone⟩ := run_replicate_reaches
    (XzmqMessenger.step json auth errorHandler listener) (.shellPass none)
    (fun t => Lockstep json auth errorHandler listener t ∧ t.requests = s.requests)
    (fun t => t.server.shellController = [])
    (fun t => t.server.shell.length + t.server.shellController.length)
    (fun t ht hwaits => by
      obtain ⟨hlockstep, hrequests⟩ := lockstep_shellPass ht.1 hpoll
      exact ⟨⟨hlockstep, hrequests.trans ht.2⟩, shellPass_progress ht.1 hwaits⟩)
    ⟨h, rfl⟩
  refine ⟨n, ?_⟩
  have hcounted := hlockstep.counted
  rwa [hnone, hrequests] at hcounted

/-! Behind the loop. -/

theorem left_step {s : XzmqMessenger} (h : s.server.shellStatus = .left) (event : MessengerEvent) :
    (s.step json auth errorHandler listener event).server.shellStatus = .left ∧
      SameDispatches s (s.step json auth errorHandler listener event) := by
  cases event with
  | arrive wireMsg => exact ⟨h, rfl, rfl, rfl⟩
  | shellPass pollError =>
      simp only [XzmqMessenger.step, XzmqMessenger.shellPass, h]
      exact ⟨trivial, rfl, rfl, rfl⟩
  | sendToShell message =>
      simp only [XzmqMessenger.step, XzmqMessenger.sendToShell]
      split
      · split <;> exact ⟨h, rfl, rfl, rfl⟩
      · exact ⟨h, rfl, rfl, rfl⟩
  | stopChannels =>
      simp only [XzmqMessenger.step, XzmqMessenger.stopChannels]
      split <;> exact ⟨h, rfl, rfl, rfl⟩
  | receiveReply =>
      simp only [XzmqMessenger.step, XzmqMessenger.receiveReply]
      split <;> exact ⟨h, rfl, rfl, rfl⟩

theorem left_run {s : XzmqMessenger} (h : s.server.shellStatus = .left)
    (events : List MessengerEvent) :
    SameDispatches s (Runs.run (XzmqMessenger.step json auth errorHandler listener) s events) := by
  induction events generalizing s with
  | nil => exact ⟨rfl, rfl, rfl⟩
  | cons event events ih =>
      obtain ⟨hleft, hsame⟩ := @left_step json auth errorHandler listener s h event
      have hrest := ih hleft
      exact ⟨hrest.calls.trans hsame.calls, hrest.listened.trans hsame.listened,
        hrest.replies.trans hsame.replies⟩

theorem Phase.returns {s : XzmqMessenger} (h : Phase json errorHandler listener s) :
    s.returned = (trivialReturns listener (finished s)).map .ok ∧ s.listened <+: s.asked ∧
      (s.server.shellStatus = .left → s.caller = .stopping ∨ s.caller = .stopped) := by
  unfold finished
  cases h with
  | idle hcaller hstatus hcontroller hreplies hlistened hreturned =>
      rw [if_neg (by simp [hcaller]), hlistened]
      exact ⟨hreturned, List.prefix_refl _, fun hleft => absurd (hstatus.symm.trans hleft) nofun⟩
  | requested messages message text hcaller hstatus hcontroller hstop hparse hlistener hreplies
      hasked hlistened hreturned =>
      rw [if_pos hcaller, hasked, List.dropLast_concat, hlistened]
      exact ⟨hreturned, List.prefix_append _ _,
        fun hleft => absurd (hstatus.symm.trans hleft) nofun⟩
  | replied messages message front reply hcaller hstatus hcontroller hparse hreplies hreceived
      hasked hlistened hreturned =>
      rw [if_pos hcaller, hasked, List.dropLast_concat, hlistened]
      exact ⟨hreturned, List.prefix_refl _, fun hleft => absurd (hstatus.symm.trans hleft) nofun⟩
  | stopping hcaller hstatus hcontroller hreplies hlistened hreturned =>
      rw [if_neg (by simp [hcaller]), hlistened]
      exact ⟨hreturned, List.prefix_refl _, fun _ => .inl hcaller⟩
  | left hcaller hstatus hcontroller hlistened hreturned =>
      have hne : s.caller ≠ .awaits := by
        rcases hcaller with hcaller | hcaller <;> simp [hcaller]
      rw [if_neg hne, hlistened]
      exact ⟨hreturned, List.prefix_refl _, fun _ => hcaller⟩

theorem not_harmful_of_decodable {ssl : OpenSsl} {hexString : Bytes → Bytes}
    {scheme key : Bytes} (hauth : makeXAuthentication ssl hexString scheme key = .ok auth)
    {wireMsg : Multipart} (h : Decodable json auth wireMsg) :
    ¬ Harmful (deserialize json auth) wireMsg := by
  have havoids : Avoids (fun _ => True) (deserialize json auth wireMsg) :=
    (avoids_deserialize hauth json wireMsg).mpr ⟨fun _ => h.1, fun _ => h.2⟩
  rintro ⟨u, hu⟩
  exact havoids u trivial hu

/-- With shell messages that lack no frame, calls through the sockets are calls of the
internal listener. -/
theorem callsListener_of_decodable (ssl : OpenSsl) (hexString : Bytes → Bytes)
    (scheme key : Bytes) (auth : XAuthentication)
    (hauth : makeXAuthentication ssl hexString scheme key = .ok auth) (json : JsonLibrary)
    (hstop : ∀ value, json.parse (literal "stop") ≠ .ok value) (errorHandler : ErrorHandler)
    (listener : InternalListener) (events : List MessengerEvent)
    (hpromised : ∀ event ∈ events, Promised json errorHandler listener event)
    (hshell : ∀ wireMsg, .arrive wireMsg ∈ events → Decodable json auth wireMsg) :
    CallsListener json auth errorHandler listener events := by
  have hlockstep : Lockstep json auth errorHandler listener
      (run json auth errorHandler listener events) :=
    run_lockstep hstop hpromised fun wireMsg hmem =>
      not_harmful_of_decodable hauth (hshell wireMsg hmem)
  obtain ⟨hreturns, hlistens, hstops⟩ := hlockstep.phase.returns
  refine ⟨hreturns, hlistens, hlockstep.counted, ?_, hstops, ?_⟩
  · obtain ⟨n, hn⟩ := hlockstep.exists_replies
    refine ⟨n, ?_⟩
    rw [run, run_append]
    exact hn
  · rintro past ⟨rest, rfl⟩ hleft
    simp only [run, run_append]
    exact left_run hleft rest

end Messenger

def emptyObjectListener : InternalListener :=
  fun _ _ => .object []

/-- A malformed shell message comes before the call. -/
theorem callsListener_callAndStop :
    CallsListener emptyObjectLibrary noXAuthentication .strict emptyObjectListener
      [.arrive [literal "id"], .sendToShell (.object []), .shellPass none, .shellPass none,
        .receiveReply, .stopChannels, .shellPass none, .receiveReply] := by
  have hauth : makeXAuthentication sha256OpenSsl lowerHex (literal "none") [] =
      .ok noXAuthentication := rfl
  have htrips : RoundTrips emptyObjectLibrary .strict (.object []) := ⟨literal "{}", rfl, rfl⟩
  have hpoll : ¬ Fatal none := by simp [Fatal]
  have hids : ∀ ids rest, deserializeZmqId [literal "id"] ≠ .ok (ids, rest) := by
    intro ids rest
    rw [show deserializeZmqId [literal "id"] = .error (.exception (.runtimeError
      "ERROR: Delimiter not present in message")) from rfl]
    simp
  apply callsListener_of_decodable sha256OpenSsl lowerHex (literal "none") [] _ hauth
  · intro value
    rw [show emptyObjectLibrary.parse (literal "stop") = .error .parseError from rfl]
    simp
  · simp [Promised, hpoll, htrips, emptyObjectListener]
  · intro wireMsg hmem
    obtain rfl : wireMsg = [literal "id"] := by simpa using hmem
    refine ⟨?_, fun ids rest h => absurd h (hids ids rest)⟩
    rw [hasBehindDelimiter_iff]
    exact ⟨by simp, fun ids rest h => absurd h (hids ids rest)⟩

/-- A shell message that ends one frame behind its delimiter. -/
theorem not_callsListener_cutMessage :
    ¬ CallsListener emptyObjectLibrary noXAuthentication .strict emptyObjectListener
      [.arrive [delimiter, []], .sendToShell (.object []), .shellPass none] := by
  intro h
  obtain ⟨n, hn⟩ := h.replies
  have hstuck : ∀ n, (run emptyObjectLibrary noXAuthentication .strict emptyObjectListener
      ([.arrive [delimiter, []], .sendToShell (.object []), .shellPass none] ++
        List.replicate n (.shellPass none))).server.replies = [] := by
    intro n
    simp only [run, run_append]
    induction n with
    | zero => rfl
    | succ n ih => exact ih
  rw [hstuck n] at hn
  exact absurd hn nofun

end XeusZmq.ShellMessenger
