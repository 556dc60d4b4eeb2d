import XeusZmq.DapClientConservation
import XeusZmq.DapClientQueue

/-!
The initialization sequence of the parallel mode: three waits on one queue, for messages
that come in any order and in any batches.
-/

namespace XeusZmq.InitSequence

open XeusZmq.Values
open XeusZmq.JsonAccess
open XeusZmq.DapFraming
open XeusZmq.DapFramingCorrectness
open XeusZmq.Commands
open XeusZmq.DapClient
open XeusZmq.DapClientWaiting
open XeusZmq.DapClientActions
open XeusZmq.DapClientConservation (matching matching_eq_nil_iff eq_append_of_matching)
open XeusZmq.DapClientQueue (CallbackReturns exec_eventCallback exec_publish exec_sendReply waiting)
open XeusZmq.TabledJson

/-! A wait for a message of which there is one. -/

section Wait

variable {json : JsonLibrary} {condition : MessageCondition} {s : XDapTcpClient}

theorem findMessage_of_single {before after : List Bytes} {answer : Bytes}
    (htestable : ∀ rawMessage ∈ before ++ answer :: after,
      Testable json condition (holds condition) rawMessage)
    (hbefore : ∀ rawMessage ∈ before, holds condition (messageOf json rawMessage) = false)
    (hanswer : holds condition (messageOf json answer) = true) :
    findMessage json condition (before ++ answer :: after) =
      .ok (some (messageOf json answer, before ++ after)) := by
  induction before with
  | nil =>
      obtain ⟨hparse, hcondition⟩ := htestable answer List.mem_cons_self
      simp [findMessage, hparse, hcondition, hanswer, pure, Except.pure]
  | cons rawMessage before ih =>
      obtain ⟨hparse, hcondition⟩ := htestable rawMessage List.mem_cons_self
      have hrest := ih (fun other hother => htestable other (List.mem_cons_of_mem _ hother))
        fun other hother => hbefore other (List.mem_cons_of_mem _ hother)
      simp [findMessage, hparse, hcondition, hbefore rawMessage List.mem_cons_self, hrest]

/-- The batches up to the first with a message that meets the test. -/
theorem exists_batches (test : Bytes → Bool) {stream : List StreamChunk} {messages : List Bytes}
    (hstream : Delivers stream messages) (hmem : ∃ rawMessage ∈ messages, test rawMessage = true) :
    ∃ batches last pending, Batches stream (batches ++ [last]) pending ∧
      (∀ rawMessage ∈ batches.flatten, test rawMessage = false) ∧
      ∃ rawMessage ∈ last, test rawMessage = true := by
  induction hlength : stream.length using Nat.strongRecOn generalizing stream messages with
  | _ length ih =>
      rcases handleTcpSocket_delivers hstream [] with
        ⟨rfl, -⟩ | ⟨batch, rest, pending, -, rfl, hcall, hpending, hshort⟩
      · obtain ⟨rawMessage, hnone, -⟩ := hmem
        exact absurd hnone List.not_mem_nil
      · rw [List.nil_append] at hcall
        by_cases hfound : ∃ rawMessage ∈ batch, test rawMessage = true
        · exact ⟨[], batch, pending, .cons hcall (.nil pending), by simp, hfound⟩
        · have hbatch : ∀ rawMessage ∈ batch, test rawMessage = false := fun rawMessage hin =>
            Bool.eq_false_iff.mpr fun htest => hfound ⟨rawMessage, hin, htest⟩
          have hlater : ∃ rawMessage ∈ rest, test rawMessage = true := by
            obtain ⟨rawMessage, hin, htest⟩ := hmem
            rcases List.mem_append.mp hin with hin | hin
            · exact absurd ⟨rawMessage, hin, htest⟩ hfound
            · exact ⟨rawMessage, hin, htest⟩
          obtain ⟨batches, last, pending', hbatches, hnone, hlast⟩ :=
            ih pending.length (hlength ▸ hshort) hpending hlater rfl
          refine ⟨batch :: batches, last, pending', .cons hcall hbatches, ?_, hlast⟩
          intro rawMessage hin
          rcases List.mem_append.mp hin with hin | hin
          · exact hbatch rawMessage hin
          · exact hnone rawMessage hin

/-- What a wait leaves when it has taken the one match: what is queued and what is still
to come, in order and without the match. -/
structure Took (json : JsonLibrary) (condition : MessageCondition) (answer : Bytes)
    (s : XDapTcpClient) (messages : List Bytes) (batches : List (List Bytes))
    (s' : XDapTcpClient) (rest : List Bytes) : Prop where
  exec_eq : exec (waitForMessage json condition) s = (.ok (messageOf json answer), s')
  state : s' = { s with
    messageQueue := rejected json (holds condition) (s.messageQueue ++ batches.flatten)
    stoppedQueue := []
    stream := s'.stream
    actions := s.actions ++ batches.map .received }
  split : messages = batches.flatten ++ rest
  delivers : Delivers s'.stream rest
  here : answer ∈ s.messageQueue ++ batches.flatten
  none : ∀ rawMessage ∈ rest, holds condition (messageOf json rawMessage) = false

theorem took_of_queue {messages : List Bytes} {answer : Bytes} (hs : s.stoppedQueue = [])
    (hstream : Delivers s.stream messages)
    (htestable : ∀ rawMessage ∈ s.messageQueue,
      Testable json condition (holds condition) rawMessage)
    (hqueue : matching json condition s.messageQueue = [answer])
    (hnone : matching json condition messages = []) :
    ∃ s', Took json condition answer s messages [] s' messages := by
  obtain ⟨before, after, hsplit, hbefore, hanswer, hafter⟩ := List.filter_eq_cons_iff.mp hqueue
  have hothers : ∀ other ∈ before ++ after, holds condition (messageOf json other) = false := by
    intro other hother
    rcases List.mem_append.mp hother with hother | hother
    · exact Bool.eq_false_iff.mpr (hbefore other hother)
    · exact Bool.eq_false_iff.mpr (List.filter_eq_nil_iff.mp hafter other hother)
  have hfind : findMessage json condition s.messageQueue =
      .ok (some (messageOf json answer, before ++ after)) := by
    rw [hsplit]
    exact findMessage_of_single (hsplit ▸ htestable)
      (fun other hother => hothers other (List.mem_append_left _ hother)) hanswer
  refine ⟨{ s with messageQueue := before ++ after }, ?_, ?_, rfl, hstream, ?_,
    matching_eq_nil_iff.mp hnone⟩
  · rw [waitForMessage, exec_bind_of_ok (exec_get s), hfind,
      exec_bind_of_ok (exec_throwing_ok _ s)]
    rfl
  · rw [List.flatten_nil, List.append_nil, hsplit, rejected_of_single hothers hanswer]
    simp [hs]
  · rw [List.flatten_nil, List.append_nil, hsplit]
    simp

/-- The batch with the match is the last that is read; what it holds besides is no match,
and neither is what the stream delivers before and behind it. -/
theorem exists_matching_batch {stream : List StreamChunk} {messages : List Bytes} {answer : Bytes}
    (hstream : Delivers stream messages) (hmessages : matching json condition messages = [answer]) :
    ∃ batches before after rest pending,
      Batches stream (batches ++ [before ++ answer :: after]) pending ∧ Delivers pending rest ∧
      messages = batches.flatten ++ (before ++ answer :: after) ++ rest ∧
      (batches ++ [before ++ answer :: after]).length ≤ stream.length ∧
      holds condition (messageOf json answer) = true ∧
      matching json condition batches.flatten = [] ∧
      matching json condition (before ++ after) = [] ∧ matching json condition rest = [] := by
  have hmem : answer ∈ matching json condition messages := hmessages ▸ List.mem_cons_self
  obtain ⟨hin, hanswer⟩ := List.mem_filter.mp hmem
  obtain ⟨batches, last, pending, hbatches, hearlier, rawMessage, hlast, hraw⟩ :=
    exists_batches (fun rawMessage => holds condition (messageOf json rawMessage)) hstream
      ⟨answer, hin, hanswer⟩
  obtain ⟨rest, hsplit, hpending, hlength⟩ := hbatches.delivers hstream
  rw [List.flatten_append, List.flatten_singleton] at hsplit
  have hbefore : matching json condition batches.flatten = [] := matching_eq_nil_iff.mpr hearlier
  have hone : matching json condition last = [answer] ∧ matching json condition rest = [] := by
    have hfound : matching json condition last ≠ [] :=
      List.ne_nil_of_mem (List.mem_filter.mpr ⟨hlast, hraw⟩)
    have hall : matching json condition last ++ matching json condition rest = [answer] := by
      rw [← hmessages, hsplit]
      simp only [matching, List.filter_append] at hbefore ⊢
      rw [hbefore, List.nil_append]
    rcases List.append_eq_singleton_iff.mp hall with ⟨hnil, -⟩ | h
    · exact absurd hnil hfound
    · exact h
  obtain ⟨before, after, rfl, hfront, -, hback⟩ := List.filter_eq_cons_iff.mp hone.1
  have hothers : matching json condition (before ++ after) = [] := by
    rw [matching, List.filter_append, List.filter_eq_nil_iff.mpr hfront, hback]
    rfl
  exact ⟨batches, before, after, rest, pending, hbatches, hpending, hsplit, by omega, hanswer,
    hbefore, hothers, hone.2⟩

theorem took_of_stream {messages : List Bytes} {answer : Bytes} (hs : s.stoppedQueue = [])
    (hstream : Delivers s.stream messages)
    (htestable : ∀ rawMessage ∈ s.messageQueue ++ messages,
      Testable json condition (holds condition) rawMessage)
    (hqueue : matching json condition s.messageQueue = [])
    (hmessages : matching json condition messages = [answer]) :
    ∃ batches s' rest, Took json condition answer s messages batches s' rest := by
  obtain ⟨batches, before, after, rest, pending, hbatches, hpending, hsplit, hlength, hanswer,
    hearlier, hmatching, hrest⟩ := exists_matching_batch hstream hmessages
  have hothers := matching_eq_nil_iff.mp hmatching
  have hread : ∀ other ∈ batches.flatten ++ (before ++ answer :: after),
      Testable json condition (holds condition) other := fun other hother =>
    htestable other (List.mem_append_right _ (hsplit ▸ List.mem_append_left _ hother))
  have hfind : findMessage json condition s.messageQueue = .ok none :=
    findMessage_eq_none
      (fun other hother => htestable other (List.mem_append_left _ hother))
      (matching_eq_nil_iff.mp hqueue)
  refine ⟨batches ++ [before ++ answer :: after], { s with
      messageQueue := s.messageQueue ++ (batches.flatten ++ (before ++ after))
      stoppedQueue := []
      stream := pending
      actions := s.actions ++ (batches ++ [before ++ answer :: after]).map .received }, rest,
    ?_, ?_, ?_, hpending, ?_, matching_eq_nil_iff.mp hrest⟩
  · rw [waitForMessage, exec_bind_of_ok (exec_get s), hfind,
      exec_bind_of_ok (exec_throwing_ok _ s)]
    simp only
    rw [exec_awaitMessage hbatches hs hread (matching_eq_nil_iff.mp hearlier)
      (lastMatch_of_single hanswer
        (fun other hother => hothers other (List.mem_append_right _ hother)) none)]
    · rw [rejected_of_single hothers hanswer]
    · rw [List.length_append, List.length_singleton] at hlength
      omega
  · rw [List.flatten_append, List.flatten_singleton, rejected_append, rejected_append,
      rejected_of_none (matching_eq_nil_iff.mp hqueue),
      rejected_of_none (matching_eq_nil_iff.mp hearlier), rejected_of_single hothers hanswer]
  · rw [List.flatten_append, List.flatten_singleton, hsplit]
  · rw [List.flatten_append, List.flatten_singleton]
    simp

/-- The match may be queued already, or come with any of the batches. -/
theorem exists_took {messages : List Bytes} {answer : Bytes} (hs : s.stoppedQueue = [])
    (hstream : Delivers s.stream messages)
    (htestable : ∀ rawMessage ∈ s.messageQueue ++ messages,
      Testable json condition (holds condition) rawMessage)
    (hone : matching json condition (s.messageQueue ++ messages) = [answer]) :
    ∃ batches s' rest, Took json condition answer s messages batches s' rest := by
  rw [matching, List.filter_append] at hone
  rcases List.append_eq_singleton_iff.mp hone with ⟨hqueue, hmessages⟩ | ⟨hqueue, hmessages⟩
  · exact took_of_stream hs hstream htestable hqueue hmessages
  · obtain ⟨s', htook⟩ := took_of_queue hs hstream
      (fun other hother => htestable other (List.mem_append_left _ hother)) hqueue hmessages
    exact ⟨[], s', messages, htook⟩

end Wait

/-! The messages of the protocol, and the three conditions. -/

/-- An object that tells its type, and the name of the event or the command of the
response that it is. -/
def IsMessage (json : JsonLibrary) (rawMessage : Bytes) : Prop :=
  ∃ members type, json.parse rawMessage = .ok (.object members) ∧
    members.lookup (literal "type") = some type ∧
    (isText type (literal "event") = true → members.lookup (literal "event") ≠ none) ∧
    (isText type (literal "response") = true → members.lookup (literal "command") ≠ none)

theorem memberIs_of_lookup {members : List (Bytes × Json)} {key : String} {value : Json}
    (h : members.lookup (literal key) = some value) (text : String) :
    memberIs (.object members) key text = .ok (isText value (literal text)) := by
  simp [memberIs, constIndex, h, pure, Except.pure]

section Conditions

variable {json : JsonLibrary} {rawMessage : Bytes}

theorem IsMessage.isInitialized (h : IsMessage json rawMessage) :
    Testable json isInitialized (holds isInitialized) rawMessage := by
  obtain ⟨members, type, hparse, htype, hevent, -⟩ := h
  have hmeets : ∃ meets, DapClient.isInitialized (.object members) = .ok meets := by
    rw [DapClient.isInitialized, memberIs_of_lookup htype, ok_bind]
    split
    · next hkind =>
        obtain ⟨name, hname⟩ := Option.ne_none_iff_exists'.mp (hevent hkind)
        exact ⟨_, memberIs_of_lookup hname "initialized"⟩
    · exact ⟨false, rfl⟩
  obtain ⟨meets, hmeets⟩ := hmeets
  exact testable_holds hparse hmeets

theorem IsMessage.isResponseTo (h : IsMessage json rawMessage) (command : String) :
    Testable json (isResponseTo command) (holds (isResponseTo command)) rawMessage := by
  obtain ⟨members, type, hparse, htype, -, hresponse⟩ := h
  have hmeets : ∃ meets, DapClient.isResponseTo command (.object members) = .ok meets := by
    rw [DapClient.isResponseTo, memberIs_of_lookup htype, ok_bind]
    split
    · next hkind =>
        obtain ⟨name, hname⟩ := Option.ne_none_iff_exists'.mp (hresponse hkind)
        exact ⟨_, memberIs_of_lookup hname command⟩
    · exact ⟨false, rfl⟩
  obtain ⟨meets, hmeets⟩ := hmeets
  exact testable_holds hparse hmeets

theorem holds_isInitialized_of_isResponseTo {command : String} {message : Json}
    (h : holds (isResponseTo command) message = true) : holds isInitialized message = false := by
  rw [Bool.eq_false_iff]
  intro hinitialized
  have hresponse := (holds_isResponseTo_iff.mp h).1
  rw [isResponse_of_isEvent (holds_isInitialized_iff.mp hinitialized).1] at hresponse
  cases hresponse

theorem holds_isResponseTo_of_ne {command other : String} (hne : literal command ≠ literal other)
    {message : Json} (h : holds (isResponseTo command) message = true) :
    holds (isResponseTo other) message = false := by
  rw [Bool.eq_false_iff]
  intro hother
  exact hne (eq_of_holdsText (holds_isResponseTo_iff.mp h).2 (holds_isResponseTo_iff.mp hother).2)

end Conditions

/-! The three waits. -/

/-- Whole messages of the protocol are queued and to come. -/
structure Awaits (json : JsonLibrary) (s : XDapTcpClient) (messages : List Bytes) : Prop where
  stopped : s.stoppedQueue = []
  delivers : Delivers s.stream messages
  protocol : ∀ rawMessage ∈ s.messageQueue ++ messages, IsMessage json rawMessage

section Waits

variable {json : JsonLibrary} {condition : MessageCondition} {answer : Bytes}
  {s s' : XDapTcpClient} {messages rest : List Bytes} {batches : List (List Bytes)}

/-- What is left, queued or to come, is all but the match. -/
theorem Took.left (h : Took json condition answer s messages batches s' rest) :
    s'.messageQueue ++ rest = rejected json (holds condition) (s.messageQueue ++ messages) := by
  have hqueue : s'.messageQueue =
      rejected json (holds condition) (s.messageQueue ++ batches.flatten) := by rw [h.state]
  rw [hqueue, h.split, ← List.append_assoc, rejected_append _ rest, rejected_of_none h.none]

theorem Took.awaits (h : Took json condition answer s messages batches s' rest)
    (hs : Awaits json s messages) : Awaits json s' rest where
  stopped := by rw [h.state]
  delivers := h.delivers
  protocol rawMessage hmem := by
    rw [h.left] at hmem
    exact hs.protocol rawMessage (List.mem_filter.mp hmem).1

/-- A condition that the match does not meet has the matches that it had. -/
theorem Took.matching_left (h : Took json condition answer s messages batches s' rest)
    {other : MessageCondition}
    (hother : ∀ message, holds other message = true → holds condition message = false) :
    matching json other (s'.messageQueue ++ rest) =
      matching json other (s.messageQueue ++ messages) := by
  rw [h.left, rejected, matching, List.filter_filter]
  apply List.filter_congr
  intro rawMessage _
  cases hmeets : holds other (messageOf json rawMessage) with
  | false => rfl
  | true => rw [hother _ hmeets]; rfl

theorem Took.actions (h : Took json condition answer s messages batches s' rest) :
    s'.actions = s.actions ++ batches.map .received := by
  rw [h.state]

/-- The fields that a wait leaves alone and a later step reads. -/
theorem Took.kept (h : Took json condition answer s messages batches s' rest) :
    s'.socketId = s.socketId ∧ s'.parentHeader = s.parentHeader ∧ s'.replyOwed = s.replyOwed := by
  rw [h.state]
  exact ⟨rfl, rfl, rfl⟩

theorem Awaits.record (h : Awaits json s messages) (action : Action) :
    Awaits json { s with actions := s.actions ++ [action] } messages :=
  ⟨h.stopped, h.delivers, h.protocol⟩

end Waits

/-- One `initialized` event, one response to `configurationDone` and one to `attach` are
queued or to come. -/
structure Arrives (json : JsonLibrary) (s : XDapTcpClient) (messages : List Bytes)
    (initialized configured attached : Bytes) : Prop extends Awaits json s messages where
  initialized : matching json isInitialized (s.messageQueue ++ messages) = [initialized]
  configured : matching json (isResponseTo "configurationDone") (s.messageQueue ++ messages) =
    [configured]
  attached : matching json (isResponseTo "attach") (s.messageQueue ++ messages) = [attached]

/-- The messages that the sequence does not take. -/
def leftOver (json : JsonLibrary) (messages : List Bytes) : List Bytes :=
  messages.filter fun rawMessage =>
    !holds isInitialized (messageOf json rawMessage) &&
      !holds (isResponseTo "configurationDone") (messageOf json rawMessage) &&
      !holds (isResponseTo "attach") (messageOf json rawMessage)

theorem leftOver_append (json : JsonLibrary) (front rest : List Bytes) :
    leftOver json (front ++ rest) = leftOver json front ++ leftOver json rest :=
  List.filter_append _ _

theorem rejected_rejected (json : JsonLibrary) (messages : List Bytes) :
    rejected json (holds (isResponseTo "attach"))
      (rejected json (holds (isResponseTo "configurationDone"))
        (rejected json (holds isInitialized) messages)) = leftOver json messages := by
  simp only [rejected, leftOver, List.filter_filter]
  apply List.filter_congr
  intro rawMessage _
  generalize holds isInitialized _ = a, holds (isResponseTo "configurationDone") _ = b,
    holds (isResponseTo "attach") _ = c
  cases a <;> cases b <;> cases c <;> rfl

def isReceived : Action → Bool
  | .received _ => true
  | _ => false

/-- The actions but for what was read. -/
def outputs (actions : List Action) : List Action :=
  actions.filter fun action => !isReceived action

theorem outputs_received (batches : List (List Bytes)) :
    outputs (batches.map .received) = [] := by
  rw [outputs, List.filter_eq_nil_iff]
  intro action hmem
  obtain ⟨batch, -, rfl⟩ := List.mem_map.mp hmem
  exact Bool.false_ne_true

theorem outputs_append (front back : List Action) :
    outputs (front ++ back) = outputs front ++ outputs back :=
  List.filter_append _ _

/-- The waits, with what is sent and recorded between them. -/
structure Waits (json : JsonLibrary) (s : XDapTcpClient) (messages : List Bytes)
    (initialized configured attached : Bytes) (issued : Action) where
  first : List (List Bytes)
  second : List (List Bytes)
  third : List (List Bytes)
  s₁ : XDapTcpClient
  s₂ : XDapTcpClient
  s₃ : XDapTcpClient
  rest₁ : List Bytes
  rest₂ : List Bytes
  rest₃ : List Bytes
  took₁ : Took json isInitialized initialized s messages first s₁ rest₁
  took₂ : Took json (isResponseTo "configurationDone") configured
    { s₁ with actions := s₁.actions ++ [issued] } rest₁ second s₂ rest₂
  took₃ : Took json (isResponseTo "attach") attached
    { s₂ with actions := s₂.actions ++ [.answered (messageOf json configured)] } rest₂ third s₃
    rest₃

section Sequence

variable {json : JsonLibrary} {s : XDapTcpClient} {messages : List Bytes}
  {initialized configured attached : Bytes} {issued : Action}

/-- The response to `configurationDone` has not been taken by the first wait, nor that to
`attach` by the first two. -/
theorem nonempty_waits (h : Arrives json s messages initialized configured attached)
    (issued : Action) :
    Nonempty (Waits json s messages initialized configured attached issued) := by
  obtain ⟨first, s₁, rest₁, took₁⟩ := exists_took h.stopped h.delivers
    (fun rawMessage hmem => (h.protocol rawMessage hmem).isInitialized) h.initialized
  have hawaits₁ := (took₁.awaits h.toAwaits).record issued
  have hconfigured := (took₁.matching_left fun _ => holds_isInitialized_of_isResponseTo).trans
    h.configured
  have hattached := (took₁.matching_left fun _ => holds_isInitialized_of_isResponseTo).trans
    h.attached
  obtain ⟨second, s₂, rest₂, took₂⟩ := exists_took hawaits₁.stopped hawaits₁.delivers
    (fun rawMessage hmem => (hawaits₁.protocol rawMessage hmem).isResponseTo _) hconfigured
  have hawaits₂ := (took₂.awaits hawaits₁).record (.answered (messageOf json configured))
  have hattached₂ := (took₂.matching_left fun _ =>
    @holds_isResponseTo_of_ne "attach" _ (by decide) _).trans hattached
  obtain ⟨third, s₃, rest₃, took₃⟩ := exists_took hawaits₂.stopped hawaits₂.delivers
    (fun rawMessage hmem => (hawaits₂.protocol rawMessage hmem).isResponseTo _) hattached₂
  exact ⟨⟨first, second, third, s₁, s₂, s₃, rest₁, rest₂, rest₃, took₁, took₂, took₃⟩⟩

namespace Waits

variable (w : Waits json s messages initialized configured attached issued)

def received : List Bytes :=
  w.first.flatten ++ w.second.flatten ++ w.third.flatten

theorem split : messages = w.received ++ w.rest₃ := by
  have hrest₁ : w.rest₁ = w.second.flatten ++ (w.third.flatten ++ w.rest₃) :=
    w.took₂.split.trans (congrArg _ w.took₃.split)
  calc
    messages = w.first.flatten ++ w.rest₁ := w.took₁.split
    _ = w.received ++ w.rest₃ := by simp [hrest₁, received]

/-- What the last wait leaves to come, no wait would have taken. -/
theorem leftOver_rest : leftOver json w.rest₃ = w.rest₃ := by
  apply List.filter_eq_self.mpr
  intro rawMessage hmem
  have hmem₂ : rawMessage ∈ w.rest₂ := w.took₃.split ▸ List.mem_append_right _ hmem
  have hmem₁ : rawMessage ∈ w.rest₁ := w.took₂.split ▸ List.mem_append_right _ hmem₂
  simp [w.took₁.none rawMessage hmem₁, w.took₂.none rawMessage hmem₂, w.took₃.none rawMessage hmem]

theorem queue : w.s₃.messageQueue = leftOver json (s.messageQueue ++ w.received) := by
  have hleft : w.s₃.messageQueue ++ w.rest₃ = leftOver json (s.messageQueue ++ messages) := by
    rw [w.took₃.left, ← rejected_rejected]
    exact congrArg _ (w.took₂.left.trans (congrArg _ w.took₁.left))
  have hsplit : leftOver json (s.messageQueue ++ messages) =
      leftOver json (s.messageQueue ++ w.received) ++ w.rest₃ := by
    conv_lhs => rw [w.split, ← List.append_assoc, leftOver_append, w.leftOver_rest]
  exact List.append_cancel_right (hleft.trans hsplit)

def frontLog : List Action :=
  w.first.map .received

def backLog : List Action :=
  w.second.map .received ++ .answered (messageOf json configured) :: w.third.map .received

theorem actions : w.s₃.actions = s.actions ++ w.frontLog ++ issued :: w.backLog := by
  rw [w.took₃.actions, w.took₂.actions, w.took₁.actions, frontLog, backLog]
  simp

theorem mem_front : initialized ∈ s.messageQueue ++ receivedMessages w.frontLog := by
  rw [frontLog, receivedMessages_received]
  exact w.took₁.here

theorem outputs_frontLog : outputs w.frontLog = [] :=
  outputs_received w.first

theorem outputs_backLog : outputs w.backLog = [.answered (messageOf json configured)] := by
  have hcons : outputs (.answered (messageOf json configured) :: w.third.map .received) =
      .answered (messageOf json configured) :: outputs (w.third.map .received) := rfl
  rw [backLog, outputs_append, hcons, outputs_received, outputs_received, List.nil_append]

theorem received_log : receivedMessages (w.frontLog ++ w.backLog) = w.received := by
  have hcons : receivedMessages (.answered (messageOf json configured) :: w.third.map .received) =
      receivedMessages (w.third.map .received) := rfl
  rw [frontLog, backLog, receivedMessages_append, receivedMessages_append, hcons,
    receivedMessages_received, receivedMessages_received, receivedMessages_received, received,
    List.append_assoc]

theorem kept : w.s₁.socketId = s.socketId ∧ w.s₃.parentHeader = s.parentHeader ∧
    w.s₃.replyOwed = s.replyOwed := by
  obtain ⟨hsocket₁, hparent₁, howed₁⟩ := w.took₁.kept
  obtain ⟨-, hparent₂, howed₂⟩ := w.took₂.kept
  obtain ⟨-, hparent₃, howed₃⟩ := w.took₃.kept
  exact ⟨hsocket₁, hparent₃.trans (hparent₂.trans hparent₁), howed₃.trans (howed₂.trans howed₁)⟩

end Waits

end Sequence

/-! The sequence as a whole. -/

/-- What is sent between the waits and behind them can be made: the request with the seq,
the event for the callback and for the frontend, and the reply. -/
structure Sendable (config : Config) (s : XDapTcpClient) (initialized attached : Bytes)
    (seq : Int) : Prop where
  request : ∃ frames, DapFraming.sendDapRequest config.json s.socketId
    (dapRequest "configurationDone" seq) = .ok frames
  event : ∃ event wireMsg,
    stopsAllThreads (messageOf config.json initialized) = .ok (false, event) ∧
      CallbackReturns config event ∧ publication config s.parentHeader event = .ok wireMsg
  response : ∃ text, config.json.dump .strict (messageOf config.json attached) = .ok text

section Exec

variable {config : Config} {s s' : XDapTcpClient} {messages : List Bytes}
  {initialized configured attached : Bytes}

theorem exec_forwardEvent {message event : Json}
    (hstops : stopsAllThreads message = .ok (false, event)) :
    exec (forwardEvent config message) s = (.ok ⟨⟩, s') ↔
      CallbackReturns config event ∧ ∃ wireMsg,
        publication config s.parentHeader event = .ok wireMsg ∧
          s' = { s with actions := s.actions ++ [.callback event] ++ [.published wireMsg] } := by
  rw [forwardEvent, hstops, liftJson_ok, exec_bind_of_ok (exec_throwing_ok _ s)]
  simp only [Bool.false_eq_true, if_false]
  rw [exec_bind_eq_ok]
  constructor
  · rintro ⟨⟨⟩, told, hcallback, hpublish⟩
    obtain ⟨hreturns, rfl⟩ := (exec_eventCallback event).mp hcallback
    obtain ⟨wireMsg, hwire, rfl⟩ := (exec_publish event).mp hpublish
    exact ⟨hreturns, wireMsg, hwire, rfl⟩
  · rintro ⟨hreturns, wireMsg, hwire, rfl⟩
    exact ⟨⟨⟩, _, (exec_eventCallback event).mpr ⟨hreturns, rfl⟩,
      (exec_publish event).mpr ⟨wireMsg, hwire, rfl⟩⟩

theorem exec_handleInitSequence {seq : Int} {frames : List Bytes} {event : Json}
    {wireMsg : Multipart} {text : Bytes}
    (w : Waits config.json s messages initialized configured attached
      (.issued (dapRequest "configurationDone" seq) frames))
    (hseq : nextSeq (messageOf config.json initialized) = .ok seq)
    (hframes : DapFraming.sendDapRequest config.json s.socketId
      (dapRequest "configurationDone" seq) = .ok frames)
    (hstops : stopsAllThreads (messageOf config.json initialized) = .ok (false, event))
    (hcallback : CallbackReturns config event)
    (hwire : publication config s.parentHeader event = .ok wireMsg)
    (hdump : config.json.dump .strict (messageOf config.json attached) = .ok text)
    (howed : s.replyOwed = true) :
    exec (handleInitSequence config) s = (.ok ⟨⟩, { w.s₃ with
      replyOwed := false
      actions := w.s₃.actions ++ [.callback event] ++ [.published wireMsg] ++
        [.replied (messageOf config.json attached) text] }) := by
  obtain ⟨hsocket, hparent, hreply⟩ := w.kept
  have hsend : exec (DapClient.sendDapRequest config (dapRequest "configurationDone" seq)) w.s₁ =
      (.ok ⟨⟩, _) := (exec_sendDapRequest _).mpr ⟨frames, hsocket ▸ hframes, rfl⟩
  have hforward : exec (forwardEvent config (messageOf config.json initialized)) w.s₃ =
      (.ok ⟨⟩, _) := (exec_forwardEvent hstops).mpr ⟨hcallback, wireMsg, hparent ▸ hwire, rfl⟩
  rw [handleInitSequence, exec_bind_of_ok w.took₁.exec_eq, hseq,
    exec_bind_of_ok (exec_throwing_ok _ _), exec_bind_of_ok hsend,
    exec_bind_of_ok w.took₂.exec_eq, exec_bind_of_ok (exec_record _ _),
    exec_bind_of_ok w.took₃.exec_eq, exec_bind_of_ok hforward, hdump, liftJson_ok,
    exec_bind_of_ok (exec_throwing_ok _ _)]
  exact (exec_sendReply _ _).mpr ⟨hreply.trans howed, rfl⟩

theorem sendable_of_exec (h : Arrives config.json s messages initialized configured attached)
    (hexec : exec (handleInitSequence config) s = (.ok ⟨⟩, s')) :
    ∃ seq, nextSeq (messageOf config.json initialized) = .ok seq ∧
      Sendable config s initialized attached seq := by
  rw [handleInitSequence] at hexec
  obtain ⟨message, s₁, hwait, hstarted⟩ := exec_bind_eq_ok.mp hexec
  obtain ⟨seq, s₂, hnext, hnumbered⟩ := exec_bind_eq_ok.mp hstarted
  obtain ⟨hseq, rfl⟩ := exec_throwing_eq_ok.mp hnext
  obtain ⟨⟨⟩, issued, hsend, hsent⟩ := exec_bind_eq_ok.mp hnumbered
  obtain ⟨frames, hframes, rfl⟩ := (exec_sendDapRequest _).mp hsend
  obtain ⟨w⟩ := nonempty_waits h (.issued (dapRequest "configurationDone" seq) frames)
  obtain ⟨hmessage, rfl⟩ := Prod.mk.inj (hwait.symm.trans w.took₁.exec_eq)
  obtain rfl := Except.ok.inj hmessage
  obtain ⟨hsocket, hparent, -⟩ := w.kept
  rw [exec_bind_of_ok w.took₂.exec_eq, exec_bind_of_ok (exec_record _ _),
    exec_bind_of_ok w.took₃.exec_eq] at hsent
  obtain ⟨⟨⟩, told, hforward, htold⟩ := exec_bind_eq_ok.mp hsent
  have hholds : initialized ∈ matching config.json isInitialized (s.messageQueue ++ messages) :=
    h.initialized ▸ List.mem_cons_self
  obtain ⟨event, hstops⟩ :=
    stopsAllThreads_of_isInitialized (by simpa using (List.mem_filter.mp hholds).2)
  obtain ⟨hcallback, wireMsg, hwire, -⟩ := (exec_forwardEvent hstops).mp hforward
  obtain ⟨text, s₃, hdump, -⟩ := exec_bind_eq_ok.mp htold
  obtain ⟨hdump, -⟩ := exec_throwing_eq_ok.mp hdump
  exact ⟨seq, hseq, ⟨frames, hsocket ▸ hframes⟩, ⟨event, wireMsg, hstops, hcallback,
    hparent ▸ hwire⟩, text, liftJson_eq_ok.mp hdump⟩

end Exec

/-! The sequence behind the request that starts it. -/

def IsAttachRequest (json : JsonLibrary) (request : Bytes) : Prop :=
  ∃ body message, request = dapFrame body ∧ json.parse body = .ok message ∧
    isAttach message = .ok true

/-- The request `configurationDone` is sent once, behind the event; then the event is
passed on once, and the response to `attach` is the one reply. All else that was read is
in the queue. -/
structure Sequence (config : Config) (s : XDapTcpClient) (request : Bytes)
    (messages : List Bytes) (initialized configured attached : Bytes) (seq : Int)
    (s' : XDapTcpClient) (front back : List Action) : Prop where
  actions : ∃ frames,
    s'.actions = s.actions ++ front ++ .issued (dapRequest "configurationDone" seq) frames :: back
  front_outputs : outputs front = [.accepted request, .forwarded request [s.socketId, request]]
  front_received : initialized ∈ s.messageQueue ++ receivedMessages front
  back_outputs : ∃ event wireMsg text,
    stopsAllThreads (messageOf config.json initialized) = .ok (false, event) ∧
      outputs back = [.answered (messageOf config.json configured), .callback event,
        .published wireMsg, .replied (messageOf config.json attached) text]
  queue : s'.messageQueue =
    leftOver config.json (s.messageQueue ++ receivedMessages (front ++ back))
  rest : ∃ rest, messages = receivedMessages (front ++ back) ++ rest ∧ Delivers s'.stream rest
  waitAttach : s'.waitAttach = false

/-- The state when the request has been forwarded. -/
def withRequest (s : XDapTcpClient) (request : Bytes) : XDapTcpClient :=
  { s with
    replyOwed := true
    actions := s.actions ++ [.accepted request] ++ [.forwarded request [s.socketId, request]] }

section Attach

variable {config : Config} {s s' : XDapTcpClient} {request : Bytes} {messages : List Bytes}
  {initialized configured attached : Bytes}

theorem exec_handleControlSocket_attach (hs : s.waitAttach = true)
    (hrequest : IsAttachRequest config.json request) :
    exec (handleControlSocket config request) s =
      exec (handleInitSequence config >>= fun _ =>
        (modify fun s => { s with waitAttach := false } : Client PUnit))
          (withRequest s request) := by
  obtain ⟨body, message, rfl, hparse, hattach⟩ := hrequest
  have houtcome : DapFraming.handleControlSocket config.json s.socketId s.waitAttach
      (dapFrame body) = ⟨[s.socketId, dapFrame body], .ok true⟩ := by
    rw [hs, handleControlSocket_dapFrame, hparse]
    simp [hattach]
  have haccept : exec (acceptRequest (dapFrame body)) s = (.ok ⟨⟩, { s with
      replyOwed := true
      actions := s.actions ++ [.accepted (dapFrame body)] }) := rfl
  rw [DapClient.handleControlSocket, exec_bind_of_ok haccept, exec_bind_of_ok (exec_get _)]
  simp only [houtcome]
  rfl

theorem Arrives.withRequest (h : Arrives config.json s messages initialized configured attached)
    (request : Bytes) :
    Arrives config.json (withRequest s request) messages initialized configured attached :=
  ⟨⟨h.stopped, h.delivers, h.protocol⟩, h.initialized, h.configured, h.attached⟩

theorem sequence_of_sendable (h : Arrives config.json s messages initialized configured attached)
    (hs : s.waitAttach = true) (hrequest : IsAttachRequest config.json request) {seq : Int}
    (hseq : nextSeq (messageOf config.json initialized) = .ok seq)
    (hsendable : Sendable config s initialized attached seq) :
    ∃ s' front back, exec (handleControlSocket config request) s = (.ok ⟨⟩, s') ∧
      Sequence config s request messages initialized configured attached seq s' front back := by
  obtain ⟨⟨frames, hframes⟩, ⟨event, wireMsg, hstops, hcallback, hwire⟩, text, hdump⟩ := hsendable
  obtain ⟨w⟩ := nonempty_waits (h.withRequest request)
    (.issued (dapRequest "configurationDone" seq) frames)
  have hexec : exec (handleControlSocket config request) s = (.ok ⟨⟩, { w.s₃ with
      waitAttach := false
      replyOwed := false
      actions := w.s₃.actions ++ [.callback event] ++ [.published wireMsg] ++
        [.replied (messageOf config.json attached) text] }) := by
    rw [exec_handleControlSocket_attach hs hrequest, exec_bind_of_ok
      (exec_handleInitSequence w hseq hframes hstops hcallback hwire hdump rfl)]
    rfl
  have hread : receivedMessages (([.accepted request, .forwarded request [s.socketId, request]] ++
      w.frontLog) ++ (w.backLog ++ [.callback event, .published wireMsg,
        .replied (messageOf config.json attached) text])) = w.received := by
    rw [← w.received_log]
    simp [receivedMessages]
  refine ⟨_, [.accepted request, .forwarded request [s.socketId, request]] ++ w.frontLog,
    w.backLog ++ [.callback event, .published wireMsg,
      .replied (messageOf config.json attached) text], hexec, ?_⟩
  constructor
  · refine ⟨frames, ?_⟩
    simp [w.actions, withRequest]
  · rw [outputs_append, w.outputs_frontLog]
    rfl
  · exact w.mem_front
  · refine ⟨event, wireMsg, text, hstops, ?_⟩
    rw [outputs_append, w.outputs_backLog]
    rfl
  · rw [hread]
    exact w.queue
  · rw [hread]
    exact ⟨w.rest₃, w.split, w.took₃.delivers⟩
  · rfl

theorem Sequence.outputs_eq {seq : Int} {front back : List Action}
    (h : Sequence config s request messages initialized configured attached seq s' front back) :
    ∃ frames sent, outputs (s'.actions.drop s.actions.length) =
      .accepted request :: .forwarded request [s.socketId, request] ::
        .issued (dapRequest "configurationDone" seq) frames :: sent := by
  obtain ⟨frames, hactions⟩ := h.actions
  refine ⟨frames, outputs back, ?_⟩
  rw [hactions, List.append_assoc, List.drop_left, outputs_append, h.front_outputs]
  rfl

/-- The seq is that of the one request that was issued. -/
theorem Sequence.seq_eq {seq seq' : Int} {front back front' back' : List Action}
    (h : Sequence config s request messages initialized configured attached seq s' front back)
    (h' : Sequence config s request messages initialized configured attached seq' s' front' back') :
    seq = seq' := by
  obtain ⟨frames, sent, houtputs⟩ := h.outputs_eq
  obtain ⟨frames', sent', houtputs'⟩ := h'.outputs_eq
  have hissued := houtputs.symm.trans houtputs'
  simp only [List.cons.injEq, Action.issued.injEq, dapRequest, Json.object.injEq, Prod.mk.injEq,
    Json.integer.injEq] at hissued
  exact hissued.2.2.1.1.2.1.2

theorem nextSeq_eq_ok_iff {message : Json} {seq : Int}
    (h : findMember message (literal "seq") = some (.integer seq)) :
    nextSeq message = .ok (seq + 1) ↔ -2 ^ 31 ≤ seq ∧ seq + 1 < 2 ^ 31 := by
  cases message with
  | object members =>
      have hlookup : members.lookup (literal "seq") = some (.integer seq) := h
      have hnext : nextSeq (.object members) = checkedAdd (toInt seq) 1 := by
        simp [nextSeq, index, hlookup, getInt]
      rw [hnext, checkedAdd, toInt]
      split_ifs with hrange
      · rw [Except.ok.injEq]
        omega
      · simp only [false_iff]
        omega
  | null | boolean | integer | float | string | array => cases h

end Attach

/-- The sequence returns and has done what it is for, with a seq one more than that of
the event. -/
def Initializes (config : Config) (s : XDapTcpClient) (request : Bytes) (messages : List Bytes)
    (initialized configured attached : Bytes) (seq : Int) : Prop :=
  ∃ s' front back, exec (handleControlSocket config request) s = (.ok ⟨⟩, s') ∧
    Sequence config s request messages initialized configured attached (seq + 1) s' front back

/-- The seq of the event is an int with a successor, and nothing that is sent is refused. -/
structure Completes (config : Config) (s : XDapTcpClient) (initialized attached : Bytes)
    (seq : Int) : Prop where
  lower : -2 ^ 31 ≤ seq
  upper : seq + 1 < 2 ^ 31
  sendable : Sendable config s initialized attached (seq + 1)

section Initializes

variable {config : Config} {s : XDapTcpClient} {request : Bytes} {messages : List Bytes}
  {initialized configured attached : Bytes} {seq : Int}

theorem completes_of_initializes (hs : s.waitAttach = true)
    (hrequest : IsAttachRequest config.json request)
    (h : Arrives config.json s messages initialized configured attached)
    (hseq : findMember (messageOf config.json initialized) (literal "seq") =
      some (.integer seq))
    (hinitializes : Initializes config s request messages initialized configured attached seq) :
    Completes config s initialized attached seq := by
  obtain ⟨s', front, back, hexec, hsequence⟩ := hinitializes
  have hrun := hexec
  rw [exec_handleControlSocket_attach hs hrequest] at hrun
  obtain ⟨⟨⟩, s₁, hinit, -⟩ := exec_bind_eq_ok.mp hrun
  obtain ⟨next, hnext, hpasses⟩ := sendable_of_exec (h.withRequest request) hinit
  have hsendable : Sendable config s initialized attached next :=
    ⟨hpasses.request, hpasses.event, hpasses.response⟩
  obtain ⟨s'', front', back', hexec', hsequence'⟩ :=
    sequence_of_sendable h hs hrequest hnext hsendable
  obtain ⟨-, rfl⟩ := Prod.mk.inj (hexec.symm.trans hexec')
  obtain rfl : next = seq + 1 := hsequence'.seq_eq hsequence
  obtain ⟨hlower, hupper⟩ := (nextSeq_eq_ok_iff hseq).mp hnext
  exact ⟨hlower, hupper, hsendable⟩

/-- In whatever order and batches the messages come. -/
theorem initializes_iff (hs : s.waitAttach = true) (hrequest : IsAttachRequest config.json request)
    (h : Arrives config.json s messages initialized configured attached)
    (hseq : findMember (messageOf config.json initialized) (literal "seq") =
      some (.integer seq)) :
    Initializes config s request messages initialized configured attached seq ↔
      Completes config s initialized attached seq := by
  constructor
  · exact completes_of_initializes hs hrequest h hseq
  · intro hcompletes
    exact sequence_of_sendable h hs hrequest
      ((nextSeq_eq_ok_iff hseq).mpr ⟨hcompletes.lower, hcompletes.upper⟩) hcompletes.sendable

end Initializes

/-! The response to `attach` comes first, and in one batch with the event. -/

def attachRequest : Json :=
  .object [(literal "command", .string (literal "attach")), (literal "seq", .integer 3),
    (literal "type", .string (literal "request"))]

def initEvent (event : String) (seq : Int) : Json :=
  .object [(literal "event", .string (literal event)), (literal "seq", .integer seq),
    (literal "type", .string (literal "event"))]

def initResponse (command : String) (requestSeq : Int) : Json :=
  .object [(literal "command", .string (literal command)),
    (literal "request_seq", .integer requestSeq), (literal "type", .string (literal "response"))]

def firstBatch (seq : Int) : List Json :=
  [initResponse "attach" 3, initEvent "output" 4, initEvent "initialized" seq]

def lastBatch : List Json :=
  [initEvent "output" 6, initResponse "configurationDone" 6]

def initMessages (seq : Int) : List Json :=
  firstBatch seq ++ lastBatch

def initConfig (seq : Int) : Config :=
  { tabledConfig (attachRequest :: initMessages seq) with dapInitType := .parallel }

def framesOf (messages : List Json) : StreamChunk where
  identity := [0, 1, 2, 3, 4]
  content := (messages.map fun message => dapFrame (textOf message)).flatten

def initState (seq : Int) : XDapTcpClient :=
  { waiting [] [framesOf (firstBatch seq), framesOf lastBatch] with waitAttach := true }

/-- The messages are read back, and none is too long to be announced. -/
def Reread (seq : Int) : Prop :=
  ∀ message ∈ initMessages seq,
    (initConfig seq).json.parse (textOf message) = .ok message ∧
      (textOf message).length < 2 ^ 64

theorem matching_initMessages {seq : Int} (h : Reread seq) (condition : MessageCondition) :
    matching (initConfig seq).json condition ((initMessages seq).map textOf) =
      ((initMessages seq).filter (holds condition)).map textOf := by
  rw [matching, List.filter_map]
  congr 1
  apply List.filter_congr
  intro message hmem
  simp [messageOf, (h message hmem).1]

theorem arrives_initState {seq : Int} (h : Reread seq) :
    Arrives (initConfig seq).json (initState seq) ((initMessages seq).map textOf)
      (textOf (initEvent "initialized" seq)) (textOf (initResponse "configurationDone" 6))
      (textOf (initResponse "attach" 3)) where
  stopped := rfl
  delivers := by
    refine ⟨(initMessages seq).attach.map fun message =>
      ⟨textOf message.1, (h message.1 message.2).2⟩, ?_, ?_⟩
    · simp
    · have hframes : frames ((initMessages seq).attach.map fun message =>
          ⟨textOf message.1, (h message.1 message.2).2⟩) =
            ((initMessages seq).map fun message => dapFrame (textOf message)).flatten := by
        simp [frames]
      rw [hframes, initMessages, List.map_append, List.flatten_append]
      simp [initState, waiting, framesOf, contents]
  protocol := by
    have hshape : ∀ message ∈ initMessages seq, ∃ members type, message = .object members ∧
        members.lookup (literal "type") = some type ∧
        (isText type (literal "event") = true → members.lookup (literal "event") ≠ none) ∧
        (isText type (literal "response") = true → members.lookup (literal "command") ≠ none) := by
      simp only [initMessages, firstBatch, lastBatch, List.cons_append, List.nil_append,
        List.forall_mem_cons, List.not_mem_nil, false_imp_iff, implies_true, and_true]
      exact ⟨⟨_, _, rfl, rfl, by decide, by decide⟩, ⟨_, _, rfl, rfl, by decide, by decide⟩,
        ⟨_, _, rfl, rfl, by rintro _ ⟨⟩, by rintro ⟨⟩⟩, ⟨_, _, rfl, rfl, by decide, by decide⟩,
        ⟨_, _, rfl, rfl, by decide, by decide⟩⟩
    intro rawMessage hmem
    obtain ⟨message, hmessage, rfl⟩ := List.mem_map.mp hmem
    obtain ⟨members, type, rfl, hshape⟩ := hshape message hmessage
    exact ⟨members, type, (h _ hmessage).1, hshape⟩
  initialized := (matching_initMessages h _).trans rfl
  configured := (matching_initMessages h _).trans rfl
  attached := (matching_initMessages h _).trans rfl

theorem isAttachRequest_initConfig (seq : Int) :
    IsAttachRequest (initConfig seq).json (dapFrame (textOf attachRequest)) := by
  refine ⟨_, attachRequest, rfl, ?_, rfl⟩
  simp [initConfig, tabledConfig, tabledJsonLibrary]

theorem reread_of_forall {seq : Int}
    (hparse : (initMessages seq).map (fun message => (initConfig seq).json.parse (textOf message)) =
      (initMessages seq).map .ok)
    (hlength : ∀ message ∈ initMessages seq, (textOf message).length < 2 ^ 64) : Reread seq :=
  fun message hmem => ⟨List.map_inj_left.mp hparse message hmem, hlength message hmem⟩

theorem reread_five : Reread 5 :=
  reread_of_forall rfl (by decide +kernel)

theorem reread_last : Reread (2 ^ 31 - 1) :=
  reread_of_forall rfl (by decide +kernel)

theorem initializes_attachFirst :
    Initializes (initConfig 5) (initState 5) (dapFrame (textOf attachRequest))
      ((initMessages 5).map textOf) (textOf (initEvent "initialized" 5))
      (textOf (initResponse "configurationDone" 6)) (textOf (initResponse "attach" 3)) 5 :=
  (initializes_iff rfl (isAttachRequest_initConfig 5) (arrives_initState reread_five) rfl).mpr
    ⟨by decide, by decide, ⟨_, rfl⟩, ⟨_, _, rfl, rfl, rfl⟩, _, rfl⟩

/-- The sequence works for whatever the debugger sends. -/
def AlwaysInitializes (config : Config) : Prop :=
  ∀ s request messages initialized configured attached seq, s.waitAttach = true →
    IsAttachRequest config.json request →
      Arrives config.json s messages initialized configured attached →
        findMember (messageOf config.json initialized) (literal "seq") = some (.integer seq) →
          Initializes config s request messages initialized configured attached seq

/-- The seq of the event is the largest int. -/
theorem not_alwaysInitializes : ¬ AlwaysInitializes (initConfig (2 ^ 31 - 1)) := by
  intro h
  have hrequest := isAttachRequest_initConfig (2 ^ 31 - 1)
  have harrives := arrives_initState reread_last
  have hinitializes := h (initState (2 ^ 31 - 1)) _ _ _ _ _ (2 ^ 31 - 1) rfl hrequest harrives rfl
  have hupper := (completes_of_initializes rfl hrequest harrives rfl hinitializes).upper
  exact absurd hupper (by decide)

end XeusZmq.InitSequence
