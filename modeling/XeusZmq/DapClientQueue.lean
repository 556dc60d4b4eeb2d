import XeusZmq.DapClientActions
import XeusZmq.TabledJson

/-!
`process_message_queue`: every message is dispatched once, in the order of arrival,
although the queue is changed while it is drained.
-/

namespace XeusZmq.DapClientQueue

open XeusZmq.Values
open XeusZmq.JsonAccess
open XeusZmq.DapFraming
open XeusZmq.DapFramingCorrectness
open XeusZmq.Commands
open XeusZmq.DapClient
open XeusZmq.DapClientWaiting
open XeusZmq.DapClientActions
open XeusZmq.TabledJson

def events (json : JsonLibrary) (messages : List Bytes) : List Json :=
  (messages.map (messageOf json)).filter isEvent

/-- The messages that are neither events nor responses to a threads request. -/
def others (json : JsonLibrary) (messages : List Bytes) : List Bytes :=
  messages.filter fun rawMessage =>
    !isEvent (messageOf json rawMessage) && !namesThreads (messageOf json rawMessage)

@[simp] theorem events_append (json : JsonLibrary) (front rest : List Bytes) :
    events json (front ++ rest) = events json front ++ events json rest := by
  simp [events]

@[simp] theorem others_append (json : JsonLibrary) (front rest : List Bytes) :
    others json (front ++ rest) = others json front ++ others json rest := by
  simp [others]

/-- A message of the debugger protocol is an object. -/
def Parses (json : JsonLibrary) (rawMessage : Bytes) : Prop :=
  ∃ members, json.parse rawMessage = .ok (.object members)

theorem Parses.parse {json : JsonLibrary} {rawMessage : Bytes} (h : Parses json rawMessage) :
    json.parse rawMessage = .ok (messageOf json rawMessage) := by
  obtain ⟨members, hparse⟩ := h
  rw [messageOf, hparse]

theorem Parses.testable {json : JsonLibrary} {rawMessage : Bytes} (h : Parses json rawMessage) :
    Testable json isThreads namesThreads rawMessage :=
  ⟨h.parse, rfl⟩

/-- The message after its type has been read. -/
def typed (message : Json) : Json :=
  match readAt [.key (literal "type")] message with
  | .ok (_, message) => message
  | .error _ => message

theorem Parses.readType {json : JsonLibrary} {rawMessage : Bytes} (h : Parses json rawMessage) :
    ∃ type, readAt [.key (literal "type")] (messageOf json rawMessage) =
        .ok (type, typed (messageOf json rawMessage)) ∧
      isText type (literal "event") = isEvent (messageOf json rawMessage) := by
  obtain ⟨members, hparse⟩ := h
  have hmessage : messageOf json rawMessage = .object members := by rw [messageOf, hparse]
  rw [hmessage]
  exact ⟨_, rfl, isText_of_readAt rfl⟩

theorem Parses.readCommand {json : JsonLibrary} {rawMessage : Bytes}
    (h : Parses json rawMessage) :
    ∃ command message, readAt [.key (literal "command")] (typed (messageOf json rawMessage)) =
      .ok (command, message) := by
  obtain ⟨members, hparse⟩ := h
  have hmessage : messageOf json rawMessage = .object members := by rw [messageOf, hparse]
  rw [hmessage]
  exact ⟨_, _, rfl⟩

/-- The calls of `handle_tcp_socket` up to the one that brings a response to a threads
request bring one such response and no more. -/
def AnsweredBy (json : JsonLibrary) (s : XDapTcpClient) (answer : Bytes) : Prop :=
  ∃ batches before after pending,
    Batches s.stream (batches ++ [before ++ answer :: after]) pending ∧
    (∀ rawMessage ∈ batches.flatten ++ (before ++ after),
      namesThreads (messageOf json rawMessage) = false) ∧
    namesThreads (messageOf json answer) = true

def CallbackReturns (config : Config) (message : Json) : Prop :=
  config.eventCallback message = .ok ⟨⟩

/-- The threads request can be made. -/
def Requests (config : Config) (s : XDapTcpClient) (message : Json) : Prop :=
  ∃ seq frames, nextSeq message = .ok seq ∧
    DapFraming.sendDapRequest config.json s.socketId (dapRequest "threads" seq) = .ok frames

/-- `forward_event` returns for the event. -/
def Forwards (config : Config) (s : XDapTcpClient) (event : Json) : Prop :=
  ∃ stopped message, stopsAllThreads event = .ok (stopped, message) ∧
    (if stopped then
      Requests config s message ∧ ∃ answer, AnsweredBy config.json s answer ∧
        ∃ newMessage, addThreadList message (messageOf config.json answer) = .ok newMessage ∧
          CallbackReturns config newMessage
    else CallbackReturns config message) ∧
    ∃ wireMsg, publication config s.parentHeader message = .ok wireMsg

/-- An event can be forwarded, and another message finds a reply owed. -/
def Dispatchable (config : Config) (s : XDapTcpClient) (rawMessage : Bytes) : Prop :=
  if isEvent (messageOf config.json rawMessage) then
    Forwards config s (typed (messageOf config.json rawMessage))
  else s.replyOwed = true

/-- `forward_event` makes a threads request for the message. -/
def AsksThreads (json : JsonLibrary) (rawMessage : Bytes) : Prop :=
  isEvent (messageOf json rawMessage) = true ∧
    ∃ message, stopsAllThreads (typed (messageOf json rawMessage)) = .ok (true, message)

section Exec

variable {config : Config} {s s' : XDapTcpClient}

theorem exec_eventCallback (message : Json) :
    exec (eventCallback config message) s = (.ok ⟨⟩, s') ↔
      CallbackReturns config message ∧
        s' = { s with actions := s.actions ++ [.callback message] } := by
  rw [eventCallback, exec_bind_of_ok (exec_record _ s), exec_throwing_eq_ok, CallbackReturns]

theorem exec_publish (message : Json) :
    exec (publish config message) s = (.ok ⟨⟩, s') ↔
      ∃ wireMsg, publication config s.parentHeader message = .ok wireMsg ∧
        s' = { s with actions := s.actions ++ [.published wireMsg] } := by
  rw [publish, exec_bind_of_ok (exec_get s), exec_bind_eq_ok]
  constructor
  · rintro ⟨wireMsg, s₁, hpublication, hrecord⟩
    obtain ⟨hpublication, rfl⟩ := exec_throwing_eq_ok.mp hpublication
    rw [exec_record] at hrecord
    exact ⟨wireMsg, hpublication, (Prod.mk.inj hrecord).2.symm⟩
  · rintro ⟨wireMsg, hpublication, rfl⟩
    exact ⟨wireMsg, s, exec_throwing_eq_ok.mpr ⟨hpublication, rfl⟩, exec_record _ s⟩

/-- An event carries no command. -/
def Plain (json : JsonLibrary) (rawMessage : Bytes) : Prop :=
  isEvent (messageOf json rawMessage) = true →
    findMember (messageOf json rawMessage) (literal "command") = none

/-- No response to a threads request is waiting, and whole messages are to come. -/
structure Ready (json : JsonLibrary) (s : XDapTcpClient) (messages : List Bytes) : Prop where
  stopped : s.stoppedQueue = []
  delivers : Delivers s.stream messages
  parses : ∀ rawMessage ∈ s.messageQueue ++ messages, Parses json rawMessage
  plain : ∀ rawMessage ∈ s.messageQueue ++ messages, Plain json rawMessage
  quiet : ∀ rawMessage ∈ s.messageQueue, namesThreads (messageOf json rawMessage) = false

theorem Ready.record {json : JsonLibrary} {messages : List Bytes} (h : Ready json s messages)
    (action : Action) : Ready json { s with actions := s.actions ++ [action] } messages :=
  ⟨h.stopped, h.delivers, h.parses, h.plain, h.quiet⟩

/-- The wait for a threads response that has not come yet. -/
theorem exec_waitForMessage {json : JsonLibrary} {messages : List Bytes}
    {batches : List (List Bytes)} {before after : List Bytes} {answer : Bytes}
    {pending : List StreamChunk} (hready : Ready json s messages)
    (hbatches : Batches s.stream (batches ++ [before ++ answer :: after]) pending)
    (hnone : ∀ rawMessage ∈ batches.flatten ++ (before ++ after),
      namesThreads (messageOf json rawMessage) = false)
    (hanswer : namesThreads (messageOf json answer) = true) :
    exec (waitForMessage json isThreads) s =
      (.ok (messageOf json answer), { s with
        messageQueue := s.messageQueue ++ (batches.flatten ++ (before ++ after))
        stoppedQueue := []
        stream := pending
        actions := s.actions ++ (batches ++ [before ++ answer :: after]).map .received }) := by
  obtain ⟨rest, hsplit, -, hlength⟩ := hbatches.delivers hready.delivers
  have hmessages : ∀ rawMessage ∈ batches.flatten ++ (before ++ answer :: after),
      Testable json isThreads namesThreads rawMessage := by
    intro rawMessage hmem
    apply (hready.parses rawMessage _).testable
    rw [hsplit, List.flatten_append, List.flatten_singleton]
    exact List.mem_append_right _ (List.mem_append_left _ hmem)
  have hfind : findMessage json isThreads s.messageQueue = .ok none :=
    findMessage_eq_none
      (fun rawMessage hmem => (hready.parses rawMessage (List.mem_append_left _ hmem)).testable)
      hready.quiet
  have hlast : rejected json namesThreads (before ++ answer :: after) = before ++ after :=
    rejected_of_single (fun rawMessage hmem => hnone rawMessage (List.mem_append_right _ hmem))
      hanswer
  rw [waitForMessage, exec_bind_of_ok (exec_get s), hfind, exec_bind_of_ok (exec_throwing_ok _ s)]
  simp only
  rw [exec_awaitMessage hbatches hready.stopped hmessages
    (fun rawMessage hmem => hnone rawMessage (List.mem_append_left _ hmem))
    (lastMatch_of_single hanswer (fun rawMessage hmem => hnone rawMessage (by simp [hmem])) none)]
  · rw [hlast]
  · rw [List.length_append] at hlength
    simp only [List.length_singleton] at hlength
    omega

/-- What a dispatched message has read, and what it has left in the queue. -/
def Effects (json : JsonLibrary) (s s' : XDapTcpClient) (handled : List Json)
    (replied : List Bytes) : Prop :=
  ∃ new batches, s'.actions = s.actions ++ new ∧ Batches s.stream batches s'.stream ∧
    s'.messageQueue = s.messageQueue ++ rejected json namesThreads batches.flatten ∧
    s'.stoppedQueue = [] ∧ receivedMessages new = batches.flatten ∧
    handledEvents new = handled ∧ repliedTexts new = replied

theorem effects_callback {messages : List Bytes} (hready : Ready config.json s messages)
    {message : Json} (hcallback : CallbackReturns config message) :
    ∃ s', exec (eventCallback config message) s = (.ok ⟨⟩, s') ∧
      Effects config.json s s' [] [] ∧ s'.parentHeader = s.parentHeader :=
  ⟨_, (exec_eventCallback message).mpr ⟨hcallback, rfl⟩,
    ⟨[.callback message], [], rfl, .nil _, by simp [rejected], hready.stopped, rfl, rfl, rfl⟩, rfl⟩

/-- The threads request, the wait, and the event with the threads. -/
theorem exec_announceStop {messages : List Bytes} (hready : Ready config.json s messages)
    {message newMessage : Json} {seq : Int} {frames : List Bytes}
    {batches : List (List Bytes)} {before after : List Bytes} {answer : Bytes}
    {pending : List StreamChunk} (hseq : nextSeq message = .ok seq)
    (hframes : DapFraming.sendDapRequest config.json s.socketId (dapRequest "threads" seq) =
      .ok frames)
    (hbatches : Batches s.stream (batches ++ [before ++ answer :: after]) pending)
    (hnone : ∀ rawMessage ∈ batches.flatten ++ (before ++ after),
      namesThreads (messageOf config.json rawMessage) = false)
    (hthreads : namesThreads (messageOf config.json answer) = true)
    (hnew : addThreadList message (messageOf config.json answer) = .ok newMessage)
    (hcallback : CallbackReturns config newMessage) :
    exec (announceStop config message) s = (.ok ⟨⟩, { s with
      messageQueue := s.messageQueue ++ (batches.flatten ++ (before ++ after))
      stoppedQueue := []
      stream := pending
      actions := s.actions ++ (.issued (dapRequest "threads" seq) frames ::
        (batches ++ [before ++ answer :: after]).map .received ++
          [.answered (messageOf config.json answer), .callback newMessage]) }) := by
  have hsend := (exec_sendDapRequest (dapRequest "threads" seq)).mpr ⟨frames, hframes, rfl⟩
  have hissued := hready.record (.issued (dapRequest "threads" seq) frames)
  have hwait := exec_waitForMessage hissued hbatches hnone hthreads
  rw [announceStop, hseq, exec_bind_of_ok (exec_throwing_ok _ s), exec_bind_of_ok hsend,
    exec_bind_of_ok hwait, exec_bind_of_ok (exec_record _ _), hnew, liftJson_ok,
    exec_bind_of_ok (exec_throwing_ok _ _)]
  refine (exec_eventCallback newMessage).mpr ⟨hcallback, ?_⟩
  simp

theorem effects_announceStop {messages : List Bytes} (hready : Ready config.json s messages)
    {message newMessage : Json} {answer : Bytes} (hrequests : Requests config s message)
    (hanswer : AnsweredBy config.json s answer)
    (hnew : addThreadList message (messageOf config.json answer) = .ok newMessage)
    (hcallback : CallbackReturns config newMessage) :
    ∃ s', exec (announceStop config message) s = (.ok ⟨⟩, s') ∧
      Effects config.json s s' [] [] ∧ s'.parentHeader = s.parentHeader := by
  obtain ⟨seq, frames, hseq, hframes⟩ := hrequests
  obtain ⟨batches, before, after, pending, hbatches, hnone, hthreads⟩ := hanswer
  have hrejected : rejected config.json namesThreads
      (batches ++ [before ++ answer :: after]).flatten = batches.flatten ++ (before ++ after) := by
    rw [← List.append_assoc] at hnone ⊢
    rw [List.flatten_append, List.flatten_singleton, ← List.append_assoc]
    exact rejected_of_single hnone hthreads
  refine ⟨_, exec_announceStop hready hseq hframes hbatches hnone hthreads hnew hcallback, ?_,
    rfl⟩
  refine ⟨_, batches ++ [before ++ answer :: after], rfl, hbatches, ?_, rfl, ?_, ?_, ?_⟩
  · exact congrArg (s.messageQueue ++ ·) hrejected.symm
  · have hreceived := receivedMessages_received (batches ++ [before ++ answer :: after])
    simpa [receivedMessages] using hreceived
  · simp [handledEvents]
  · simp [repliedTexts]

/-- An action that neither reads, nor handles, nor replies adds to no account. -/
theorem Effects.append {json : JsonLibrary} {handled : List Json} {replied : List Bytes}
    (h : Effects json s s' handled replied) (action : Action) {handled' : List Json}
    {replied' : List Bytes} (hreceived : receivedMessages [action] = [])
    (hhandled : handledEvents [action] = handled')
    (hreplied : repliedTexts [action] = replied') :
    Effects json s { s' with actions := s'.actions ++ [action] } (handled ++ handled')
      (replied ++ replied') := by
  obtain ⟨new, batches, hactions, hbatches, hqueue, hstopped, hnew, rfl, rfl⟩ := h
  refine ⟨new ++ [action], batches, by simp [hactions], hbatches, hqueue, hstopped, ?_, ?_, ?_⟩
  · rw [receivedMessages_append, hreceived, List.append_nil, hnew]
  · rw [handledEvents_append, hhandled]
  · rw [repliedTexts_append, hreplied]

theorem effects_forwardEvent {messages : List Bytes} (hready : Ready config.json s messages)
    {event : Json} (hforwards : Forwards config s event) :
    ∃ s', exec (forwardEvent config event) s = (.ok ⟨⟩, s') ∧
      Effects config.json s s' [] [] := by
  obtain ⟨stopped, message, hstops, hannounced, wireMsg, hwire⟩ := hforwards
  have htold : ∃ s', exec (if stopped then announceStop config message
      else eventCallback config message) s = (.ok ⟨⟩, s') ∧
      Effects config.json s s' [] [] ∧ s'.parentHeader = s.parentHeader := by
    cases stopped with
    | true =>
        obtain ⟨hrequests, answer, hanswer, newMessage, hnew, hcallback⟩ := hannounced
        exact effects_announceStop hready hrequests hanswer hnew hcallback
    | false => exact effects_callback hready hannounced
  obtain ⟨told, hexec, heffects, hheader⟩ := htold
  have hpublish := (exec_publish (s := told) message).mpr ⟨wireMsg, hheader ▸ hwire, rfl⟩
  refine ⟨_, ?_, heffects.append (.published wireMsg) rfl rfl rfl⟩
  rw [forwardEvent, hstops, liftJson_ok, exec_bind_of_ok (exec_throwing_ok _ s)]
  simp only
  cases stopped with
  | true => exact (exec_bind_of_ok hexec _).trans hpublish
  | false => exact (exec_bind_of_ok hexec _).trans hpublish

theorem forwards_of_exec {messages : List Bytes} (hready : Ready config.json s messages)
    {event : Json}
    (hanswered : ∀ message, stopsAllThreads event = .ok (true, message) →
      ∃ answer, AnsweredBy config.json s answer)
    (h : exec (forwardEvent config event) s = (.ok ⟨⟩, s')) : Forwards config s event := by
  obtain ⟨⟨stopped, message⟩, s₁, htest, h⟩ := exec_bind_eq_ok.mp h
  obtain ⟨hlifted, rfl⟩ := exec_throwing_eq_ok.mp htest
  have hstops := liftJson_eq_ok.mp hlifted
  refine ⟨stopped, message, hstops, ?_⟩
  cases stopped with
  | false =>
      obtain ⟨⟨⟩, told, hcallback, hpublish⟩ := exec_bind_eq_ok.mp h
      obtain ⟨hreturns, rfl⟩ := (exec_eventCallback message).mp hcallback
      obtain ⟨wireMsg, hwire, -⟩ := (exec_publish message).mp hpublish
      exact ⟨hreturns, wireMsg, hwire⟩
  | true =>
      obtain ⟨answer, hanswer⟩ := hanswered message hstops
      obtain ⟨⟨⟩, told, hannounce, hpublish⟩ := exec_bind_eq_ok.mp h
      obtain ⟨seq, s₂, hnext, hasked⟩ := exec_bind_eq_ok.mp hannounce
      obtain ⟨hseq, rfl⟩ := exec_throwing_eq_ok.mp hnext
      obtain ⟨⟨⟩, asked, hsend, hwaited⟩ := exec_bind_eq_ok.mp hasked
      obtain ⟨frames, hframes, rfl⟩ := (exec_sendDapRequest _).mp hsend
      have hrequests : Requests config s₂ message := ⟨seq, frames, hseq, hframes⟩
      obtain ⟨batches, before, after, pending, hbatches, hnone, hthreads⟩ := id hanswer
      have hissued := hready.record (.issued (dapRequest "threads" seq) frames)
      rw [exec_bind_of_ok (exec_waitForMessage hissued hbatches hnone hthreads),
        exec_bind_of_ok (exec_record _ _)] at hwaited
      obtain ⟨newMessage, s₃, hlist, hcallback⟩ := exec_bind_eq_ok.mp hwaited
      obtain ⟨hnew, rfl⟩ := exec_throwing_eq_ok.mp hlist
      obtain ⟨hreturns, rfl⟩ := (exec_eventCallback newMessage).mp hcallback
      obtain ⟨wireMsg, hwire, -⟩ := (exec_publish message).mp hpublish
      exact ⟨⟨hrequests, answer, hanswer, newMessage, liftJson_eq_ok.mp hnew, hreturns⟩, wireMsg,
        hwire⟩

theorem exec_popFront {rawMessage : Bytes} {queue : List Bytes}
    (hqueue : s.messageQueue = rawMessage :: queue) :
    exec popFront s = (.ok ⟨⟩, { s with messageQueue := queue }) := by
  simp [popFront, exec_bind, hqueue]

theorem exec_sendReply (message : Json) (text : Bytes) :
    exec (sendReply message text) s = (.ok ⟨⟩, s') ↔ s.replyOwed = true ∧
      s' = { s with replyOwed := false, actions := s.actions ++ [.replied message text] } := by
  cases hs : s.replyOwed with
  | false => simp [sendReply, exec_bind, hs]
  | true =>
      simp only [sendReply, exec_bind, exec_get, hs, if_true, exec_modify, Prod.mk.injEq, true_and]
      exact eq_comm

/-- One pass of the loop: the front message is dispatched and taken from the queue,
and what was read meanwhile is put behind it, but for the response to the request
made. -/
def Passed (json : JsonLibrary) (s : XDapTcpClient) (rawMessage : Bytes)
    (queue read : List Bytes) (s' : XDapTcpClient) : Prop :=
  ∃ new, s'.actions = s.actions ++ new ∧
    (∃ batches, batches.flatten = read ∧ Batches s.stream batches s'.stream) ∧
    s'.messageQueue = queue ++ rejected json namesThreads read ∧ s'.stoppedQueue = [] ∧
    receivedMessages new = read ∧ handledEvents new = events json [rawMessage] ∧
    repliedTexts new = others json [rawMessage]

section Pass

variable {messages : List Bytes} {rawMessage : Bytes} {queue : List Bytes}

theorem exec_processMessage_event (hparses : Parses config.json rawMessage)
    (hevent : isEvent (messageOf config.json rawMessage) = true) :
    exec (processMessage config rawMessage) s =
      exec (forwardEvent config (typed (messageOf config.json rawMessage)) >>= fun _ => popFront)
        { s with actions := s.actions ++ [.handled (messageOf config.json rawMessage)] } := by
  obtain ⟨type, hread, htype⟩ := hparses.readType
  rw [hevent] at htype
  rw [processMessage, hparses.parse, liftJson_ok, exec_bind_of_ok (exec_throwing_ok _ s), hread,
    liftJson_ok, exec_bind_of_ok (exec_throwing_ok _ s)]
  simp only [htype, if_true]
  exact exec_bind_of_ok (exec_record _ s) _

theorem exec_processMessage_other (hparses : Parses config.json rawMessage)
    (hevent : isEvent (messageOf config.json rawMessage) = false) :
    ∃ stop, exec (processMessage config rawMessage) s =
      exec (sendReply (messageOf config.json rawMessage) rawMessage >>= fun _ => popFront)
        { s with requestStop := stop } := by
  obtain ⟨type, hread, htype⟩ := hparses.readType
  obtain ⟨command, message, hcommand⟩ := hparses.readCommand
  rw [hevent] at htype
  rw [processMessage, hparses.parse, liftJson_ok, exec_bind_of_ok (exec_throwing_ok _ s), hread,
    liftJson_ok, exec_bind_of_ok (exec_throwing_ok _ s)]
  simp only [htype, Bool.false_eq_true, if_false]
  rw [hcommand, liftJson_ok, exec_bind_of_ok (exec_throwing_ok _ s)]
  simp only
  split
  · exact ⟨true, exec_bind_of_ok (exec_modify _ s) _⟩
  · exact ⟨s.requestStop, rfl⟩

theorem passed_event (hready : Ready config.json s messages)
    (hqueue : s.messageQueue = rawMessage :: queue)
    (hevent : isEvent (messageOf config.json rawMessage) = true)
    (hforwards : Forwards config s (typed (messageOf config.json rawMessage))) :
    ∃ read s', exec (processMessage config rawMessage) s = (.ok ⟨⟩, s') ∧
      Passed config.json s rawMessage queue read s' := by
  have hparses : Parses config.json rawMessage := hready.parses rawMessage (by simp [hqueue])
  have hhandled := hready.record (.handled (messageOf config.json rawMessage))
  obtain ⟨forwarded, hexec, new, batches, hactions, hbatches, hleft, hstopped, hreceived,
    hevents, hreplied⟩ := effects_forwardEvent hhandled hforwards
  simp only [hqueue, List.cons_append] at hleft
  refine ⟨batches.flatten, _, ((exec_processMessage_event hparses hevent).trans
    (exec_bind_of_ok hexec _)).trans (exec_popFront hleft),
    .handled (messageOf config.json rawMessage) :: new, ?_, ⟨batches, rfl, hbatches⟩, rfl, hstopped,
    ?_, ?_, ?_⟩
  · simp [hactions]
  · simpa [receivedMessages] using hreceived
  · simpa [handledEvents, events, hevent] using hevents
  · simpa [repliedTexts, others, hevent] using hreplied

theorem passed_other (hready : Ready config.json s messages)
    (hqueue : s.messageQueue = rawMessage :: queue)
    (hevent : isEvent (messageOf config.json rawMessage) = false) (howed : s.replyOwed = true) :
    ∃ read s', exec (processMessage config rawMessage) s = (.ok ⟨⟩, s') ∧
      Passed config.json s rawMessage queue read s' := by
  have hparses : Parses config.json rawMessage := hready.parses rawMessage (by simp [hqueue])
  have hquiet := hready.quiet rawMessage (by simp [hqueue])
  obtain ⟨stop, hexec⟩ := exec_processMessage_other (s := s) hparses hevent
  have hreply := (exec_sendReply (s := { s with requestStop := stop })
    (messageOf config.json rawMessage) rawMessage).mpr ⟨howed, rfl⟩
  refine ⟨[], _, (hexec.trans (exec_bind_of_ok hreply _)).trans (exec_popFront hqueue),
    [.replied (messageOf config.json rawMessage) rawMessage], rfl, ⟨[], rfl, .nil _⟩, ?_,
    hready.stopped, rfl, ?_, ?_⟩
  · simp [rejected]
  · simp [handledEvents, events, hevent]
  · simp [repliedTexts, others, hevent, hquiet]

/-- A dispatchable message is dispatched. -/
theorem passed_of_dispatchable (hready : Ready config.json s messages)
    (hqueue : s.messageQueue = rawMessage :: queue)
    (hdispatchable : Dispatchable config s rawMessage) :
    ∃ read s', exec (processMessage config rawMessage) s = (.ok ⟨⟩, s') ∧
      Passed config.json s rawMessage queue read s' := by
  unfold Dispatchable at hdispatchable
  split at hdispatchable
  · next hevent => exact passed_event hready hqueue hevent hdispatchable
  · next hevent => exact passed_other hready hqueue (Bool.eq_false_iff.mpr hevent) hdispatchable

/-- No other message is. -/
theorem dispatchable_of_exec (hready : Ready config.json s messages)
    (hqueue : s.messageQueue = rawMessage :: queue)
    (hanswered : AsksThreads config.json rawMessage → ∃ answer, AnsweredBy config.json s answer)
    (h : exec (processMessage config rawMessage) s = (.ok ⟨⟩, s')) :
    Dispatchable config s rawMessage := by
  have hparses : Parses config.json rawMessage := hready.parses rawMessage (by simp [hqueue])
  unfold Dispatchable
  split
  · next hevent =>
      rw [exec_processMessage_event hparses hevent] at h
      obtain ⟨⟨⟩, forwarded, hforward, -⟩ := exec_bind_eq_ok.mp h
      have hhandled := hready.record (.handled (messageOf config.json rawMessage))
      exact forwards_of_exec hhandled
        (fun message hstops => hanswered ⟨hevent, message, hstops⟩) hforward
  · next hevent =>
      obtain ⟨stop, hexec⟩ := exec_processMessage_other (s := s) hparses
        (Bool.eq_false_iff.mpr hevent)
      rw [hexec] at h
      obtain ⟨⟨⟩, replied, hreply, -⟩ := exec_bind_eq_ok.mp h
      exact ((exec_sendReply _ _).mp hreply).1

theorem ready_of_passed {read : List Bytes} (hready : Ready config.json s messages)
    (hqueue : s.messageQueue = rawMessage :: queue)
    (hpassed : Passed config.json s rawMessage queue read s') :
    ∃ rest, messages = read ++ rest ∧ Ready config.json s' rest := by
  obtain ⟨new, -, ⟨batches, rfl, hbatches⟩, hleft, hstopped, -, -, -⟩ := hpassed
  obtain ⟨rest, rfl, hdelivers, -⟩ := hbatches.delivers hready.delivers
  have hmem : ∀ other ∈ s'.messageQueue ++ rest,
      other ∈ s.messageQueue ++ (batches.flatten ++ rest) := by
    intro other hother
    rw [hleft] at hother
    rw [hqueue]
    rcases List.mem_append.mp hother with hother | hother
    · rcases List.mem_append.mp hother with hother | hother
      · simp [hother]
      · have hread := List.mem_of_mem_filter hother
        exact List.mem_append_right _ (List.mem_append_left _ hread)
    · exact List.mem_append_right _ (List.mem_append_right _ hother)
  refine ⟨rest, rfl, hstopped, hdelivers, ?_, ?_, ?_⟩
  · exact fun other hother => hready.parses other (hmem other hother)
  · exact fun other hother => hready.plain other (hmem other hother)
  · intro other hother
    rw [hleft] at hother
    rcases List.mem_append.mp hother with hother | hother
    · exact hready.quiet other (by simp [hqueue, hother])
    · simpa using (List.mem_filter.mp hother).2

end Pass

end Exec

/-- The states between the passes of the loop. -/
inductive Reaches (config : Config) : XDapTcpClient → XDapTcpClient → Prop
  | refl (s : XDapTcpClient) : Reaches config s s
  | pass {s s₁ s₂ : XDapTcpClient} {rawMessage : Bytes} {queue : List Bytes}
      (hqueue : s.messageQueue = rawMessage :: queue)
      (hexec : exec (processMessage config rawMessage) s = (.ok ⟨⟩, s₁))
      (hreaches : Reaches config s₁ s₂) : Reaches config s s₂

/-- What holds of the message at the front whenever a pass begins. -/
def AtEveryPass (config : Config) (s : XDapTcpClient) (P : XDapTcpClient → Bytes → Prop) : Prop :=
  ∀ s₁ rawMessage queue, Reaches config s s₁ → s₁.messageQueue = rawMessage :: queue →
    P s₁ rawMessage

theorem AtEveryPass.next {config : Config} {s s₁ : XDapTcpClient} {rawMessage : Bytes}
    {queue : List Bytes} {P : XDapTcpClient → Bytes → Prop} (h : AtEveryPass config s P)
    (hqueue : s.messageQueue = rawMessage :: queue)
    (hexec : exec (processMessage config rawMessage) s = (.ok ⟨⟩, s₁)) :
    AtEveryPass config s₁ P :=
  fun s₂ other queue' hreaches => h s₂ other queue' (.pass hqueue hexec hreaches)

/-- The debugger answers each threads request that `forward_event` makes, once. -/
def AnswersThreads (config : Config) (s : XDapTcpClient) : Prop :=
  AtEveryPass config s fun s₁ rawMessage =>
    AsksThreads config.json rawMessage → ∃ answer, AnsweredBy config.json s₁ answer

/-- The queue has been emptied: the events that were in it or were read meanwhile have
been handled in the order in which they arrived, and the other messages, but for the
responses to the threads requests, have been sent on `m_controller`. -/
def Drained (json : JsonLibrary) (s : XDapTcpClient) (messages : List Bytes)
    (s' : XDapTcpClient) : Prop :=
  s'.messageQueue = [] ∧ ∃ new rest, s'.actions = s.actions ++ new ∧
    messages = receivedMessages new ++ rest ∧ Delivers s'.stream rest ∧
    handledEvents new = events json (s.messageQueue ++ receivedMessages new) ∧
    repliedTexts new = others json (s.messageQueue ++ receivedMessages new)

theorem events_rejected {json : JsonLibrary} {messages : List Bytes}
    (hplain : ∀ rawMessage ∈ messages, Plain json rawMessage) :
    events json (rejected json namesThreads messages) = events json messages := by
  induction messages with
  | nil => rfl
  | cons rawMessage messages ih =>
      have hrest := ih fun other hother => hplain other (List.mem_cons_of_mem _ hother)
      have hfront := hplain rawMessage List.mem_cons_self
      simp only [events, rejected] at hrest ⊢
      cases hthreads : namesThreads (messageOf json rawMessage) with
      | false => simp [hthreads, List.filter_cons, hrest]
      | true =>
          have hevent : isEvent (messageOf json rawMessage) = false := by
            by_contra hevent
            have hnone := hfront (Bool.not_eq_false _ ▸ hevent)
            simp [namesThreads, hnone] at hthreads
          simp [hthreads, hevent, hrest]

theorem others_rejected (json : JsonLibrary) (messages : List Bytes) :
    others json (rejected json namesThreads messages) = others json messages := by
  rw [others, rejected, List.filter_filter]
  apply List.filter_congr
  intro rawMessage _
  cases namesThreads (messageOf json rawMessage) <;> simp

theorem drained_of_passed {json : JsonLibrary} {s s₁ s' : XDapTcpClient}
    {rawMessage : Bytes} {queue read rest : List Bytes}
    (hready : Ready json s (read ++ rest)) (hqueue : s.messageQueue = rawMessage :: queue)
    (hpassed : Passed json s rawMessage queue read s₁) (hdrained : Drained json s₁ rest s') :
    Drained json s (read ++ rest) s' := by
  obtain ⟨new, hactions, -, hleft, -, hreceived, hhandled, hreplied⟩ := hpassed
  obtain ⟨hempty, new', rest', hactions', rfl, hdelivers, hhandled', hreplied'⟩ := hdrained
  have hplain : ∀ other ∈ read, Plain json other := fun other hother =>
    hready.plain other (List.mem_append_right _ (List.mem_append_left _ hother))
  have hfront : s.messageQueue = [rawMessage] ++ queue := hqueue
  refine ⟨hempty, new ++ new', rest', ?_, ?_, hdelivers, ?_, ?_⟩
  · rw [hactions', hactions, List.append_assoc]
  · rw [receivedMessages_append, hreceived, List.append_assoc]
  · rw [handledEvents_append, hhandled, hhandled', hleft, receivedMessages_append, hreceived,
      hfront]
    simp only [events_append, events_rejected hplain, List.append_assoc]
  · rw [repliedTexts_append, hreplied, hreplied', hleft, receivedMessages_append, hreceived, hfront]
    simp only [others_append, others_rejected, List.append_assoc]

theorem exec_processMessages {config : Config} {fuel : Nat} {s : XDapTcpClient}
    {messages : List Bytes} (hready : Ready config.json s messages)
    (hdispatchable : AtEveryPass config s (Dispatchable config))
    (hfuel : s.messageQueue.length + messages.length < fuel) :
    ∃ s', exec (processMessages config fuel) s = (.ok ⟨⟩, s') ∧
      Drained config.json s messages s' := by
  induction fuel generalizing s messages with
  | zero => exact absurd hfuel (Nat.not_lt_zero _)
  | succ fuel ih =>
      rw [processMessages, exec_bind_of_ok (exec_get s)]
      cases hqueue : s.messageQueue with
      | nil =>
          refine ⟨s, rfl, hqueue, [], messages, by simp, rfl, hready.delivers, ?_, ?_⟩
          · simp [hqueue, handledEvents, receivedMessages, events]
          · simp [hqueue, repliedTexts, receivedMessages, others]
      | cons rawMessage queue =>
          obtain ⟨read, s₁, hexec, hpassed⟩ := passed_of_dispatchable hready hqueue
            (hdispatchable s rawMessage queue (.refl s) hqueue)
          obtain ⟨rest, rfl, hready₁⟩ := ready_of_passed hready hqueue hpassed
          have hless : s₁.messageQueue.length + rest.length < fuel := by
            have hfilter := List.length_filter_le
              (fun rawMessage => !namesThreads (messageOf config.json rawMessage)) read
            rw [hqueue, List.length_cons, List.length_append] at hfuel
            obtain ⟨-, -, -, hleft, -⟩ := hpassed
            rw [hleft, List.length_append, rejected]
            omega
          obtain ⟨s', hrest, hdrained⟩ := ih hready₁ (hdispatchable.next hqueue hexec) hless
          exact ⟨s', (exec_bind_of_ok hexec _).trans hrest,
            drained_of_passed hready hqueue hpassed hdrained⟩

theorem dispatchable_of_processMessages {config : Config} {s s₁ : XDapTcpClient}
    (hreaches : Reaches config s s₁) {messages : List Bytes}
    (hready : Ready config.json s messages) (hanswers : AnswersThreads config s) {fuel : Nat}
    {s' : XDapTcpClient} (h : exec (processMessages config fuel) s = (.ok ⟨⟩, s'))
    {rawMessage : Bytes} {queue : List Bytes} (hqueue : s₁.messageQueue = rawMessage :: queue) :
    Dispatchable config s₁ rawMessage := by
  induction hreaches generalizing messages fuel with
  | refl s =>
      cases fuel with
      | zero => cases h
      | succ fuel =>
          rw [processMessages, exec_bind_of_ok (exec_get s), hqueue] at h
          obtain ⟨⟨⟩, s₁, hexec, -⟩ := exec_bind_eq_ok.mp h
          exact dispatchable_of_exec hready hqueue
            (hanswers s rawMessage queue (.refl s) hqueue) hexec
  | @pass s s₁ s₂ front rest hfront hexec hreaches ih =>
      cases fuel with
      | zero => cases h
      | succ fuel =>
          rw [processMessages, exec_bind_of_ok (exec_get s), hfront] at h
          rw [exec_bind_of_ok hexec] at h
          obtain ⟨read, s₁', hexec', hpassed⟩ := passed_of_dispatchable hready hfront
            (dispatchable_of_exec hready hfront (hanswers s front rest (.refl s) hfront) hexec)
          rw [hexec] at hexec'
          cases hexec'
          obtain ⟨left, rfl, hready₁⟩ := ready_of_passed hready hfront hpassed
          exact ih hready₁ (hanswers.next hfront hexec) h hqueue

/-- `process_message_queue` returns with the queue empty and everything dispatched. -/
def Dispatches (config : Config) (s : XDapTcpClient) (messages : List Bytes) : Prop :=
  ∃ s', exec (processMessageQueue config) s = (.ok ⟨⟩, s') ∧ Drained config.json s messages s'

theorem dispatches_iff {config : Config} {s : XDapTcpClient} {messages : List Bytes}
    (hready : Ready config.json s messages) (hanswers : AnswersThreads config s) :
    Dispatches config s messages ↔ AtEveryPass config s (Dispatchable config) := by
  have hstart : exec (processMessageQueue config) s =
      exec (processMessages config
        (s.messageQueue.length + (contents s.stream).length + 1)) s := rfl
  constructor
  · rintro ⟨s', hexec, -⟩ s₁ rawMessage queue hreaches hqueue
    exact dispatchable_of_processMessages hreaches hready hanswers (hstart ▸ hexec) hqueue
  · intro hdispatchable
    have hbound : messages.length ≤ (contents s.stream).length := by
      obtain ⟨bodies, rfl, hstream⟩ := hready.delivers
      rw [hstream, List.length_map]
      exact length_le_length_frames bodies
    obtain ⟨s', hexec, hdrained⟩ :=
      exec_processMessages hready hdispatchable (Nat.lt_succ_of_le (Nat.add_le_add_left hbound _))
    exact ⟨s', hstart.trans hexec, hdrained⟩

/-- One event in the queue, and one answer still to come: there is but one pass. -/
theorem atEveryPass_of_single {config : Config} {s : XDapTcpClient} {event answer : Bytes}
    {P : XDapTcpClient → Bytes → Prop} (hready : Ready config.json s [answer])
    (hqueue : s.messageQueue = [event]) (hanswer : AnsweredBy config.json s answer)
    (hthreads : namesThreads (messageOf config.json answer) = true) (hP : P s event) :
    AtEveryPass config s P := by
  intro s₁ rawMessage queue hreaches hfront
  cases hreaches with
  | refl =>
      obtain ⟨rfl, rfl⟩ := List.cons.inj (hqueue.symm.trans hfront)
      exact hP
  | @pass _ s₂ _ front rest hqueue₁ hexec hreaches =>
      obtain ⟨rfl, rfl⟩ := List.cons.inj (hqueue.symm.trans hqueue₁)
      obtain ⟨read, s₂', hexec', hpassed⟩ := passed_of_dispatchable hready hqueue
        (dispatchable_of_exec hready hqueue (fun _ => ⟨answer, hanswer⟩) hexec)
      rw [hexec] at hexec'
      cases hexec'
      obtain ⟨left, hread, -⟩ := ready_of_passed hready hqueue hpassed
      have hempty : s₂.messageQueue = [] := by
        obtain ⟨-, -, -, hleft, -⟩ := hpassed
        rw [hleft, List.nil_append]
        apply List.filter_eq_nil_iff.mpr
        intro other hother
        have hmem : other ∈ [answer] := hread ▸ List.mem_append_left left hother
        rw [List.mem_singleton.mp hmem, hthreads]
        decide
      cases hreaches with
      | refl => cases hempty.symm.trans hfront
      | pass hqueue₂ _ _ => cases hempty.symm.trans hqueue₂

/-- A `stopped` event with the members of its body that the debugger has sent. -/
def stoppedEvent (body : List (Bytes × Json)) : Json :=
  .object [(literal "body", .object body), (literal "event", .string (literal "stopped")),
    (literal "seq", .integer 7), (literal "type", .string (literal "event"))]

def stoppedAll : Json :=
  stoppedEvent [(literal "allThreadsStopped", .boolean true),
    (literal "reason", .string (literal "breakpoint"))]

def threadsResponse : Json :=
  .object [(literal "body", .object [(literal "threads",
      .array [.object [(literal "id", .integer 1), (literal "name", .string (literal "main"))]])]),
    (literal "command", .string (literal "threads")), (literal "request_seq", .integer 8),
    (literal "seq", .integer 8), (literal "success", .boolean true),
    (literal "type", .string (literal "response"))]

def waiting (queue : List Bytes) (stream : List StreamChunk) : XDapTcpClient where
  socketId := [0, 1, 2, 3, 4]
  parentHeader := []
  requestStop := false
  waitAttach := false
  messageQueue := queue
  stoppedQueue := []
  stream := stream
  replyOwed := false
  actions := []

/-- A stop of all threads in the queue, and the threads in two chunks. -/
def stoppedAndAnswer : XDapTcpClient :=
  let frame := dapFrame (textOf threadsResponse)
  waiting [textOf stoppedAll] [⟨[0, 1, 2, 3, 4], frame.take 20⟩, ⟨[0, 1, 2, 3, 4], frame.drop 20⟩]

def stoppedConfig : Config :=
  tabledConfig [stoppedAll, threadsResponse]

theorem stoppedAndAnswer_ready :
    Ready stoppedConfig.json stoppedAndAnswer [textOf threadsResponse] where
  stopped := rfl
  delivers := by
    refine ⟨[⟨textOf threadsResponse, by decide +kernel⟩], rfl, ?_⟩
    simp [stoppedAndAnswer, waiting]
  parses := by
    intro rawMessage hmem
    rcases List.mem_pair.mp hmem with rfl | rfl
    · exact ⟨_, rfl⟩
    · exact ⟨_, rfl⟩
  plain := by
    intro rawMessage hmem hevent
    rcases List.mem_pair.mp hmem with rfl | rfl
    · rfl
    · exact absurd hevent (by decide)
  quiet := by
    intro rawMessage hmem
    rw [List.mem_singleton.mp hmem]
    rfl

/-- The response is read by one call, though it is cut in two. -/
theorem stoppedAndAnswer_answered :
    AnsweredBy stoppedConfig.json stoppedAndAnswer (textOf threadsResponse) := by
  rcases handleTcpSocket_delivers stoppedAndAnswer_ready.delivers [] with
    ⟨hnone, -⟩ | ⟨batch, rest, pending, hbatch, hsplit, hcall, -, -⟩
  · cases hnone
  · obtain ⟨rfl, rfl⟩ : batch = [textOf threadsResponse] ∧ rest = [] := by
      rcases List.singleton_eq_append_iff.mp hsplit with ⟨hnil, -⟩ | ⟨hfront, hrest⟩
      · exact absurd hnil hbatch
      · exact ⟨hfront, hrest⟩
    exact ⟨[], [], [], pending, .cons hcall (.nil pending), by simp, rfl⟩

theorem stopped_forwards : Forwards stoppedConfig stoppedAndAnswer (typed stoppedAll) :=
  ⟨true, _, rfl, ⟨⟨8, _, rfl, rfl⟩, _, stoppedAndAnswer_answered, _, rfl, rfl⟩, _, rfl⟩

theorem dispatches_stoppedAndAnswer :
    Dispatches stoppedConfig stoppedAndAnswer [textOf threadsResponse] :=
  (dispatches_iff stoppedAndAnswer_ready
    (atEveryPass_of_single stoppedAndAnswer_ready rfl stoppedAndAnswer_answered rfl
      fun _ => ⟨_, stoppedAndAnswer_answered⟩)).mpr
    (atEveryPass_of_single stoppedAndAnswer_ready rfl stoppedAndAnswer_answered rfl
      stopped_forwards)

/-- A stop of one thread, sent without the optional `allThreadsStopped`. -/
def stoppedOne : Json :=
  stoppedEvent [(literal "reason", .string (literal "step")), (literal "threadId", .integer 1)]

theorem not_dispatches_stoppedOne :
    Ready (tabledJsonLibrary [stoppedOne]) (waiting [textOf stoppedOne] []) [] ∧
      AnswersThreads (tabledConfig [stoppedOne]) (waiting [textOf stoppedOne] []) ∧
      ¬ Dispatches (tabledConfig [stoppedOne]) (waiting [textOf stoppedOne] []) [] := by
  have hmem : ∀ rawMessage ∈ [textOf stoppedOne] ++ [], rawMessage = textOf stoppedOne :=
    fun rawMessage hmem => List.mem_singleton.mp hmem
  obtain ⟨failed, hfails⟩ : ∃ s, exec (processMessage (tabledConfig [stoppedOne])
      (textOf stoppedOne)) (waiting [textOf stoppedOne] []) =
        (.error (.failed (.exception (.json .typeError))), s) := ⟨_, rfl⟩
  have hasks : ¬ AsksThreads (tabledJsonLibrary [stoppedOne]) (textOf stoppedOne) := by
    rintro ⟨-, message, hstops⟩
    have herror : stopsAllThreads (typed (messageOf (tabledJsonLibrary [stoppedOne])
        (textOf stoppedOne))) = .error .typeError := rfl
    cases herror.symm.trans hstops
  constructor
  · exact ⟨rfl, ⟨[], rfl, rfl⟩, fun _ h => hmem _ h ▸ ⟨_, rfl⟩, fun _ h => hmem _ h ▸ fun _ => rfl,
      fun _ h => hmem _ h ▸ rfl⟩
  constructor
  · intro s₁ rawMessage queue hreaches hfront hasked
    cases hreaches with
    | refl => exact absurd ((List.cons.inj hfront).1 ▸ hasked) hasks
    | pass hqueue hexec _ =>
        rw [← (List.cons.inj hqueue).1, hfails] at hexec
        cases hexec
  · rintro ⟨s', hexec, -⟩
    have hstart : exec (processMessageQueue (tabledConfig [stoppedOne]))
        (waiting [textOf stoppedOne] []) =
          (.error (.failed (.exception (.json .typeError))), failed) :=
      exec_bind_of_error hfails fun _ => processMessages (tabledConfig [stoppedOne]) 1
    cases hstart.symm.trans hexec

end XeusZmq.DapClientQueue
