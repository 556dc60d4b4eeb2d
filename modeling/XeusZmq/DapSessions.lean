import XeusZmq.DapClientLedger
import XeusZmq.Runs
import XeusZmq.TabledJson

/-!
The sessions of a DAP client: what ends a call of `start_debugger`, and what the next call
finds of it.
-/

namespace XeusZmq.DapSessions

open XeusZmq.Values
open XeusZmq.JsonAccess
open XeusZmq.DapFraming
open XeusZmq.Commands
open XeusZmq.Runs
open XeusZmq.ServerLoops (eintr eterm)
open XeusZmq.DapClient
open XeusZmq.DapClientWaiting
open XeusZmq.DapClientActions
open XeusZmq.DapClientFrames
open XeusZmq.DapClientRuns
open XeusZmq.TabledJson

/-- A client for which `start_debugger` has not been called. -/
def unused : XDapTcpClient where
  socketId := []
  parentHeader := []
  requestStop := false
  waitAttach := false
  messageQueue := []
  stoppedQueue := []
  stream := []
  replyOwed := false
  actions := []

/-- `start_debugger` of a client that may have been used. Its actions are those of this
call. -/
def startDebuggerOf (config : Config) (client : XDapTcpClient) (stream : List StreamChunk) :
    Option Thread := do
  let (socketId, stream) ← initTcpSocket config stream
  return {
    status := .running
    client := { client with
      socketId
      requestStop := false
      waitAttach := config.dapInitType == .parallel
      stream
      actions := [] } }

def isDisconnect (message : Json) : Bool :=
  holdsText message (literal "command") (literal "disconnect")

/-! Commands that return. -/

/-- If it returns, nothing is left in the stopped queue and the relation holds. -/
def Returns {α : Type} (R : XDapTcpClient → XDapTcpClient → Prop) (c : Client α) : Prop :=
  ∀ s a s', s.stoppedQueue = [] → exec c s = (.ok a, s') → s'.stoppedQueue = [] ∧ R s s'

section Returns

variable {α β : Type} {R : XDapTcpClient → XDapTcpClient → Prop}

theorem returns_pure (hrefl : ∀ s, R s s) (a : α) : Returns R (pure a : Client α) := by
  intro s b s' hs h
  cases h
  exact ⟨hs, hrefl s⟩

theorem returns_throwing (hrefl : ∀ s, R s s) (x : Result α) : Returns R (throwing x) := by
  intro s a s' hs h
  obtain ⟨-, rfl⟩ := exec_throwing_eq_ok.mp h
  exact ⟨hs, hrefl s'⟩

theorem returns_throw (halt : Halt) : Returns R (throw halt : Client α) := by
  intro s a s' hs h
  cases h

theorem returns_modify {f : XDapTcpClient → XDapTcpClient}
    (hf : ∀ s, (f s).stoppedQueue = s.stoppedQueue ∧ R s (f s)) :
    Returns R (modify f : Client PUnit) := by
  intro s a s' hs h
  cases h
  exact ⟨(hf s).1.trans hs, (hf s).2⟩

theorem returns_bind_of {p : α → Prop} (htrans : ∀ {s₁ s₂ s₃}, R s₁ s₂ → R s₂ s₃ → R s₁ s₃)
    {c : Client α} {f : α → Client β} (hc : Returns R c)
    (hp : ∀ s a s', s.stoppedQueue = [] → exec c s = (.ok a, s') → p a)
    (hf : ∀ a, p a → Returns R (f a)) : Returns R (c >>= f) := by
  intro s b s'' hs h
  obtain ⟨a, s', hfirst, hrest⟩ := exec_bind_eq_ok.mp h
  obtain ⟨hs', hR⟩ := hc s a s' hs hfirst
  obtain ⟨hs'', hR'⟩ := hf a (hp s a s' hs hfirst) s' b s'' hs' hrest
  exact ⟨hs'', htrans hR hR'⟩

theorem returns_bind (htrans : ∀ {s₁ s₂ s₃}, R s₁ s₂ → R s₂ s₃ → R s₁ s₃) {c : Client α}
    {f : α → Client β} (hc : Returns R c) (hf : ∀ a, Returns R (f a)) : Returns R (c >>= f) :=
  returns_bind_of (R := R) (p := fun _ => True) htrans hc (fun _ _ _ _ _ => trivial)
    fun a _ => hf a

theorem Returns.mono {R' : XDapTcpClient → XDapTcpClient → Prop} {c : Client α}
    (h : Returns R c) (hR : ∀ s s', R s s' → R' s s') : Returns R' c :=
  fun s a s' hs hexec => (h s a s' hs hexec).imp id (hR s s')

end Returns

/-- What happens without a reply being sent. -/
structure Meanwhile (s s' : XDapTcpClient) : Prop where
  requestStop : s'.requestStop = s.requestStop
  replyOwed : s'.replyOwed = s.replyOwed
  replied : repliedMessages s'.actions = repliedMessages s.actions

theorem Meanwhile.refl (s : XDapTcpClient) : Meanwhile s s :=
  ⟨rfl, rfl, rfl⟩

theorem Meanwhile.trans {s₁ s₂ s₃ : XDapTcpClient} (h : Meanwhile s₁ s₂) (h' : Meanwhile s₂ s₃) :
    Meanwhile s₁ s₃ :=
  ⟨h'.requestStop.trans h.requestStop, h'.replyOwed.trans h.replyOwed, h'.replied.trans h.replied⟩

section Meanwhile

variable {config : Config}

theorem meanwhile_record {action : Action} (haction : repliedMessages [action] = []) :
    Returns Meanwhile (record action) :=
  returns_modify fun s => ⟨rfl, rfl, rfl, by rw [repliedMessages_append, haction, List.append_nil]⟩

theorem meanwhile_waitForMessage (json : JsonLibrary) (condition : MessageCondition) :
    Returns Meanwhile (waitForMessage json condition) := by
  intro s message s' hs h
  rcases waitForMessage_eq_ok h hs with ⟨_, _, _, -, -, -, rfl⟩ | ⟨-, batches, _, -, rfl⟩
  · exact ⟨hs, rfl, rfl, rfl⟩
  · refine ⟨rfl, rfl, rfl, ?_⟩
    rw [repliedMessages_append, DapClientLedger.repliedMessages_received, List.append_nil]

theorem meanwhile_bind {α β : Type} {c : Client α} {f : α → Client β} (hc : Returns Meanwhile c)
    (hf : ∀ a, Returns Meanwhile (f a)) : Returns Meanwhile (c >>= f) :=
  returns_bind (R := Meanwhile) Meanwhile.trans hc hf

theorem meanwhile_get : Returns Meanwhile (get : Client XDapTcpClient) := by
  intro s a s' hs h
  cases h
  exact ⟨hs, .refl s⟩

theorem meanwhile_throwing {α : Type} (x : Result α) : Returns Meanwhile (throwing x) :=
  returns_throwing Meanwhile.refl x

theorem meanwhile_sendDapRequest (message : Json) :
    Returns Meanwhile (DapClient.sendDapRequest config message) :=
  meanwhile_bind meanwhile_get fun _ =>
    meanwhile_bind (meanwhile_throwing _) fun _ => meanwhile_record rfl

theorem meanwhile_eventCallback (message : Json) :
    Returns Meanwhile (eventCallback config message) :=
  meanwhile_bind (meanwhile_record rfl) fun _ => meanwhile_throwing _

theorem meanwhile_publish (message : Json) : Returns Meanwhile (publish config message) :=
  meanwhile_bind meanwhile_get fun _ =>
    meanwhile_bind (meanwhile_throwing _) fun _ => meanwhile_record rfl

theorem meanwhile_announceStop (message : Json) :
    Returns Meanwhile (announceStop config message) :=
  meanwhile_bind (meanwhile_throwing _) fun _ =>
    meanwhile_bind (meanwhile_sendDapRequest _) fun _ =>
      meanwhile_bind (meanwhile_waitForMessage _ _) fun _ =>
        meanwhile_bind (meanwhile_record rfl) fun _ =>
          meanwhile_bind (meanwhile_throwing _) fun _ => meanwhile_eventCallback _

theorem meanwhile_forwardEvent (message : Json) :
    Returns Meanwhile (forwardEvent config message) := by
  refine meanwhile_bind (meanwhile_throwing _) fun tested => ?_
  rcases tested with ⟨stopped, message⟩
  cases stopped with
  | true => exact meanwhile_bind (meanwhile_announceStop _) fun _ => meanwhile_publish _
  | false => exact meanwhile_bind (meanwhile_eventCallback _) fun _ => meanwhile_publish _

theorem meanwhile_popFront : Returns Meanwhile popFront := by
  refine meanwhile_bind meanwhile_get fun s => ?_
  cases s.messageQueue with
  | nil => exact returns_throw _
  | cons rawMessage queue => exact returns_modify fun s => ⟨rfl, rfl, rfl, rfl⟩

end Meanwhile

/-- One reply at most is sent, and the flag is raised by the one to `disconnect`. -/
structure Handled (s s' : XDapTcpClient) (replied : List Json) : Prop where
  replies : repliedMessages s'.actions = repliedMessages s.actions ++ replied
  requestStop : s'.requestStop = (s.requestStop || replied.any isDisconnect)
  owed : replied = [] ∧ s'.replyOwed = s.replyOwed ∨
    replied.length = 1 ∧ s.replyOwed = true ∧ s'.replyOwed = false

theorem Meanwhile.handled {s s' : XDapTcpClient} (h : Meanwhile s s') : Handled s s' [] where
  replies := by rw [h.replied, List.append_nil]
  requestStop := by rw [h.requestStop, List.any_nil, Bool.or_false]
  owed := Or.inl ⟨rfl, h.replyOwed⟩

theorem Handled.trans {s₁ s₂ s₃ : XDapTcpClient} {replied replied' : List Json}
    (h : Handled s₁ s₂ replied) (h' : Handled s₂ s₃ replied') :
    Handled s₁ s₃ (replied ++ replied') where
  replies := by rw [h'.replies, h.replies, List.append_assoc]
  requestStop := by rw [h'.requestStop, h.requestStop, List.any_append, Bool.or_assoc]
  owed := by
    rcases h.owed with ⟨rfl, howed⟩ | ⟨hlength, howed, hsettled⟩
    · rw [List.nil_append, ← howed]
      exact h'.owed
    · rcases h'.owed with ⟨rfl, howed'⟩ | ⟨-, howed', -⟩
      · rw [List.append_nil]
        exact Or.inr ⟨hlength, howed, howed'.trans hsettled⟩
      · exact absurd (hsettled.symm.trans howed') Bool.false_ne_true

section Handling

variable {config : Config}

def HandledSome (s s' : XDapTcpClient) : Prop :=
  ∃ replied, Handled s s' replied

theorem HandledSome.trans {s₁ s₂ s₃ : XDapTcpClient} (h : HandledSome s₁ s₂)
    (h' : HandledSome s₂ s₃) : HandledSome s₁ s₃ := by
  obtain ⟨replied, h⟩ := h
  obtain ⟨replied', h'⟩ := h'
  exact ⟨replied ++ replied', h.trans h'⟩

theorem handled_of_meanwhile {α : Type} {c : Client α} (h : Returns Meanwhile c) :
    Returns HandledSome c :=
  h.mono fun _ _ hmeanwhile => ⟨[], hmeanwhile.handled⟩

theorem handled_bind {α β : Type} {c : Client α} {f : α → Client β}
    (hc : Returns HandledSome c) (hf : ∀ a, Returns HandledSome (f a)) :
    Returns HandledSome (c >>= f) :=
  returns_bind (R := HandledSome) HandledSome.trans hc hf

/-- `m_controller.send` returns only if a reply is owed. -/
theorem sendReply_eq_ok {message : Json} {text : Bytes} {s s' : XDapTcpClient} {a : PUnit}
    (h : exec (sendReply message text) s = (.ok a, s')) :
    s.replyOwed = true ∧
      s' = { s with replyOwed := false, actions := s.actions ++ [.replied message text] } := by
  rw [sendReply, exec_bind_of_ok (exec_get s)] at h
  split at h
  · next howed =>
      cases h
      exact ⟨howed, rfl⟩
  · cases h

theorem handled_sendReply {message : Json} (hmessage : isDisconnect message = false)
    (text : Bytes) : Returns HandledSome (sendReply message text) := by
  intro s a s' hs h
  obtain ⟨howed, rfl⟩ := sendReply_eq_ok h
  refine ⟨hs, [message], repliedMessages_append _ _, ?_, Or.inr ⟨rfl, howed, rfl⟩⟩
  simp [hmessage]

/-- The flag is raised before the reply to `disconnect` is sent. -/
theorem handled_stop {message : Json} (hmessage : isDisconnect message = true) (text : Bytes)
    {c : Client PUnit} (hc : Returns HandledSome c) : Returns HandledSome (do
      modify fun s => { s with requestStop := true }
      sendReply message text
      c) := by
  intro s a s'' hs h
  rw [exec_bind_of_ok (exec_modify _ s)] at h
  obtain ⟨_, s', hreply, hrest⟩ := exec_bind_eq_ok.mp h
  obtain ⟨howed, rfl⟩ := sendReply_eq_ok hreply
  let replied : XDapTcpClient := { s with
    requestStop := true
    replyOwed := false
    actions := s.actions ++ [.replied message text] }
  have hreplied : Handled s replied [message] :=
    ⟨repliedMessages_append _ _, by simp [replied, hmessage], Or.inr ⟨rfl, howed, rfl⟩⟩
  obtain ⟨hs'', hhandled⟩ := hc replied a s'' hs hrest
  exact ⟨hs'', HandledSome.trans ⟨[message], hreplied⟩ hhandled⟩

theorem handled_processMessage (rawMessage : Bytes) :
    Returns HandledSome (processMessage config rawMessage) := by
  intro s a s' hs h
  rw [processMessage] at h
  obtain ⟨message, _, hparse, hread⟩ := exec_bind_eq_ok.mp h
  obtain ⟨-, rfl⟩ := exec_throwing_eq_ok.mp hparse
  obtain ⟨⟨type, event⟩, _, htyped, hrest⟩ := exec_bind_eq_ok.mp hread
  obtain ⟨htype, rfl⟩ := exec_throwing_eq_ok.mp htyped
  dsimp only at hrest
  split at hrest
  · exact handled_of_meanwhile (meanwhile_bind (meanwhile_record rfl) fun _ =>
      meanwhile_bind (meanwhile_forwardEvent event) fun _ => meanwhile_popFront) _ _ _ hs hrest
  · obtain ⟨⟨command, _⟩, _, hnamed, hreply⟩ := exec_bind_eq_ok.mp hrest
    obtain ⟨hcommand, rfl⟩ := exec_throwing_eq_ok.mp hnamed
    have hdisconnect : isText command (literal "disconnect") = isDisconnect message := by
      rw [isText_of_readAt (liftJson_eq_ok.mp hcommand)]
      exact holdsText_of_readAt (by decide) (liftJson_eq_ok.mp htype)
    dsimp only at hreply
    rw [hdisconnect] at hreply
    split at hreply
    · next hstop =>
        exact handled_stop hstop rawMessage (handled_of_meanwhile meanwhile_popFront) _ _ _ hs
          hreply
    · next hstop =>
        exact handled_bind (handled_sendReply (Bool.eq_false_iff.mpr hstop) rawMessage)
          (fun _ => handled_of_meanwhile meanwhile_popFront) _ _ _ hs hreply

theorem handled_processMessages (fuel : Nat) :
    Returns HandledSome (processMessages config fuel) := by
  induction fuel with
  | zero => exact returns_throw _
  | succ fuel ih =>
      refine handled_bind (handled_of_meanwhile meanwhile_get) fun s => ?_
      cases s.messageQueue with
      | nil => exact handled_of_meanwhile (returns_pure Meanwhile.refl _)
      | cons rawMessage queue =>
          exact handled_bind (handled_processMessage rawMessage) fun _ => ih

theorem messageQueue_of_processMessages {fuel : Nat} {s s' : XDapTcpClient} {a : PUnit}
    (h : exec (processMessages config fuel) s = (.ok a, s')) : s'.messageQueue = [] := by
  induction fuel generalizing s with
  | zero => cases h
  | succ fuel ih =>
      rw [processMessages, exec_bind_of_ok (exec_get s)] at h
      cases hqueue : s.messageQueue with
      | nil =>
          rw [hqueue] at h
          cases h
          exact hqueue
      | cons rawMessage queue =>
          rw [hqueue] at h
          obtain ⟨_, s₁, -, hrest⟩ := exec_bind_eq_ok.mp h
          exact ih hrest

end Handling

/-- What a request may lead to before the queue is looked at: no reply to `disconnect`. -/
structure Taken (s s' : XDapTcpClient) : Prop where
  requestStop : s'.requestStop = s.requestStop
  replies : ∃ replied, repliedMessages s'.actions = repliedMessages s.actions ++ replied ∧
    ∀ message ∈ replied, isDisconnect message = false

theorem Meanwhile.taken {s s' : XDapTcpClient} (h : Meanwhile s s') : Taken s s' where
  requestStop := h.requestStop
  replies := ⟨[], by rw [h.replied, List.append_nil], by simp⟩

theorem Taken.trans {s₁ s₂ s₃ : XDapTcpClient} (h : Taken s₁ s₂) (h' : Taken s₂ s₃) :
    Taken s₁ s₃ where
  requestStop := h'.requestStop.trans h.requestStop
  replies := by
    obtain ⟨replied, hreplies, hother⟩ := h.replies
    obtain ⟨replied', hreplies', hother'⟩ := h'.replies
    refine ⟨replied ++ replied', by rw [hreplies', hreplies, List.append_assoc], ?_⟩
    intro message hmem
    rcases List.mem_append.mp hmem with hmem | hmem
    · exact hother message hmem
    · exact hother' message hmem

section Taking

variable {config : Config}

theorem taken_of_meanwhile {α : Type} {c : Client α} (h : Returns Meanwhile c) :
    Returns Taken c :=
  h.mono fun _ _ hmeanwhile => hmeanwhile.taken

theorem taken_bind {α β : Type} {c : Client α} {f : α → Client β} (hc : Returns Taken c)
    (hf : ∀ a, Returns Taken (f a)) : Returns Taken (c >>= f) :=
  returns_bind (R := Taken) Taken.trans hc hf

theorem taken_record {action : Action} (haction : repliedMessages [action] = []) :
    Returns Taken (record action) :=
  taken_of_meanwhile (meanwhile_record haction)

theorem taken_sendReply {message : Json} (hmessage : isDisconnect message = false)
    (text : Bytes) : Returns Taken (sendReply message text) := by
  intro s a s' hs h
  obtain ⟨-, rfl⟩ := sendReply_eq_ok h
  exact ⟨hs, rfl, [message], repliedMessages_append _ _, by simpa using hmessage⟩

theorem not_isDisconnect_of_waitForMessage {json : JsonLibrary} {s s' : XDapTcpClient}
    {message : Json} (hs : s.stoppedQueue = [])
    (h : exec (waitForMessage json (isResponseTo "attach")) s = (.ok message, s')) :
    isDisconnect message = false := by
  have hattach := (holds_isResponseTo_iff.mp (holds_of_waitForMessage h hs)).2
  rw [Bool.eq_false_iff]
  intro hdisconnect
  have hsame : literal "attach" = literal "disconnect" := eq_of_holdsText hattach hdisconnect
  exact absurd hsame (by decide)

theorem taken_handleInitSequence : Returns Taken (handleInitSequence config) := by
  refine taken_bind (taken_of_meanwhile (meanwhile_waitForMessage _ _)) fun initialized => ?_
  refine taken_bind (taken_of_meanwhile (meanwhile_throwing _)) fun _ => ?_
  refine taken_bind (taken_of_meanwhile (meanwhile_sendDapRequest _)) fun _ => ?_
  refine taken_bind (taken_of_meanwhile (meanwhile_waitForMessage _ _)) fun _ => ?_
  refine taken_bind (taken_record rfl) fun _ => ?_
  refine returns_bind_of (R := Taken) Taken.trans
    (taken_of_meanwhile (meanwhile_waitForMessage _ _))
    (fun _ _ _ => not_isDisconnect_of_waitForMessage) fun attachResponse hattach => ?_
  refine taken_bind (taken_of_meanwhile (meanwhile_forwardEvent _)) fun _ => ?_
  exact taken_bind (taken_of_meanwhile (meanwhile_throwing _)) fun _ => taken_sendReply hattach _

theorem taken_acceptRequest (message : Bytes) : Returns Taken (acceptRequest message) :=
  returns_modify fun _ => ⟨rfl, rfl, [], repliedMessages_append _ _, by simp⟩

theorem taken_handleControlSocket (message : Bytes) :
    Returns Taken (handleControlSocket config message) := by
  refine taken_bind (taken_acceptRequest message) fun _ =>
    taken_bind (taken_of_meanwhile meanwhile_get) fun s => ?_
  have hrest : Returns Taken (do
      if ← throwing (DapFraming.handleControlSocket config.json s.socketId s.waitAttach
          message).attached then
        handleInitSequence config
        modify fun s => { s with waitAttach := false } : Client PUnit) := by
    refine taken_bind (taken_of_meanwhile (meanwhile_throwing _)) fun attached => ?_
    cases attached with
    | true =>
        exact taken_bind taken_handleInitSequence fun _ =>
          returns_modify fun _ => ⟨rfl, rfl, [], (List.append_nil _).symm, by simp⟩
    | false => exact taken_of_meanwhile (returns_pure Meanwhile.refl _)
  dsimp only
  split
  · exact taken_bind (taken_record rfl) fun _ => hrest
  · exact hrest

theorem taken_handleSockets (poll : Poll) : Returns Taken (handleSockets config poll) := by
  rcases poll with ⟨header, control, stream⟩
  have hcontrol : Returns Taken (handleSockets config ⟨none, control, stream⟩) := by
    cases control with
    | none => exact taken_of_meanwhile (returns_pure Meanwhile.refl _)
    | some message => exact taken_handleControlSocket message
  cases header with
  | none => exact hcontrol
  | some parent =>
      exact taken_bind (returns_modify fun _ => ⟨rfl, rfl, [], (List.append_nil _).symm, by simp⟩)
        fun _ => hcontrol

theorem meanwhile_receiveMessages : Returns Meanwhile receiveMessages := by
  intro s a s' hs h
  rcases hcall : handleTcpSocket s.stream [] with ⟨batch, result⟩
  cases result with
  | error stop =>
      rw [exec_receiveMessages_stop hcall] at h
      cases h
  | ok pending =>
      rw [exec_receiveMessages hcall] at h
      cases h
      refine ⟨hs, rfl, rfl, ?_⟩
      rw [repliedMessages_append]
      exact List.append_nil _

/-- A pass that returns leaves both queues empty. It has dealt with a request first, and
then with what the debugger has sent. -/
theorem pass_eq_ok {poll : Poll} {s s' : XDapTcpClient} {a : PUnit} (hs : s.stoppedQueue = [])
    (h : exec (pass config poll) s = (.ok a, s')) :
    s'.messageQueue = [] ∧ s'.stoppedQueue = [] ∧ ∃ s₁, Taken s s₁ ∧ HandledSome s₁ s' := by
  rw [DapClient.pass] at h
  obtain ⟨_, s₁, hsockets, hrest⟩ := exec_bind_eq_ok.mp h
  obtain ⟨hs₁, htaken⟩ := taken_handleSockets poll s _ s₁ hs hsockets
  have hqueue : ∀ s₂, s₂.stoppedQueue = [] → exec (processMessageQueue config) s₂ = (.ok a, s') →
      s'.messageQueue = [] ∧ s'.stoppedQueue = [] ∧ HandledSome s₂ s' := by
    intro s₂ hs₂ hprocess
    rw [processMessageQueue, exec_bind_of_ok (exec_get s₂)] at hprocess
    exact ⟨messageQueue_of_processMessages hprocess,
      handled_processMessages _ s₂ _ s' hs₂ hprocess⟩
  split at hrest
  · obtain ⟨_, s₂, hreceive, hprocess⟩ := exec_bind_eq_ok.mp hrest
    obtain ⟨hs₂, hmeanwhile⟩ := meanwhile_receiveMessages s₁ _ s₂ hs₁ hreceive
    obtain ⟨hmessages, hstopped, hhandled⟩ := hqueue s₂ hs₂ hprocess
    exact ⟨hmessages, hstopped, s₂, htaken.trans hmeanwhile.taken, hhandled⟩
  · obtain ⟨hmessages, hstopped, hhandled⟩ := hqueue s₁ hs₁ hrest
    exact ⟨hmessages, hstopped, s₁, htaken, hhandled⟩

end Taking

/-! Sessions. -/

/-- The client at its poll: `disconnect` has not been replied to. -/
structure AtPoll (s : XDapTcpClient) : Prop where
  messageQueue : s.messageQueue = []
  stoppedQueue : s.stoppedQueue = []
  requestStop : s.requestStop = false
  replies : ∀ message ∈ repliedMessages s.actions, isDisconnect message = false

/-- The last reply has been the one to `disconnect`, and none is owed. -/
structure Disconnected (s : XDapTcpClient) : Prop where
  messageQueue : s.messageQueue = []
  stoppedQueue : s.stoppedQueue = []
  replyOwed : s.replyOwed = false
  replies : ∃ front message, repliedMessages s.actions = front ++ [message] ∧
    isDisconnect message = true ∧ ∀ other ∈ front, isDisconnect other = false

section Sessions

variable {config : Config}

theorem AtPoll.pass {poll : Poll} {s s' : XDapTcpClient} {a : PUnit} (h : AtPoll s)
    (hexec : exec (pass config poll) s = (.ok a, s')) :
    if s'.requestStop then Disconnected s' else AtPoll s' := by
  obtain ⟨hmessages, hstopped, s₁, htaken, replied, hhandled⟩ := pass_eq_ok h.stoppedQueue hexec
  obtain ⟨taken, hreplies, hother⟩ := htaken.replies
  have hbefore : ∀ message ∈ repliedMessages s₁.actions, isDisconnect message = false := by
    rw [hreplies]
    intro message hmem
    rcases List.mem_append.mp hmem with hmem | hmem
    · exact h.replies message hmem
    · exact hother message hmem
  have hflag : s'.requestStop = replied.any isDisconnect := by
    rw [hhandled.requestStop, htaken.requestStop, h.requestStop, Bool.false_or]
  split_ifs with hstop
  · have hany := hflag.symm.trans hstop
    rcases hhandled.owed with ⟨rfl, -⟩ | ⟨hlength, -, howed⟩
    · cases hany
    · obtain ⟨message, rfl⟩ := List.length_eq_one_iff.mp hlength
      refine ⟨hmessages, hstopped, howed, repliedMessages s₁.actions, message, hhandled.replies, ?_,
        hbefore⟩
      rwa [List.any_cons, List.any_nil, Bool.or_false] at hany
  · have hnone : replied.any isDisconnect = false := by
      rw [← hflag]
      exact Bool.eq_false_iff.mpr hstop
    refine ⟨hmessages, hstopped, Bool.eq_false_iff.mpr hstop, fun message hmem => ?_⟩
    rw [hhandled.replies] at hmem
    rcases List.mem_append.mp hmem with hmem | hmem
    · exact hbefore message hmem
    · exact Bool.eq_false_iff.mpr (List.any_eq_false.mp hnone message hmem)

/-- The loop goes on until `disconnect` is replied to, and ends behind this reply unless
the context is terminated or an exception leaves it. -/
structure Session (inputs : List Input) (thread : Thread) : Prop where
  running : thread.status = .running → AtPoll thread.client
  left : thread.status = .left →
    Disconnected thread.client ∨ .interrupted eterm ∈ inputs ∧ AtPoll thread.client

theorem session_halted (inputs : List Input) (client : XDapTcpClient) (halt : Halt) :
    Session inputs ⟨client, .halted halt⟩ where
  running hrunning := by cases hrunning
  left hleft := by cases hleft

theorem session_step {inputs : List Input} {self : System} (h : Session inputs self.thread)
    (input : Input) : Session (inputs ++ [input]) (self.step config input).thread := by
  have hkept : Session (inputs ++ [input]) self.thread :=
    ⟨h.running, fun hleft => (h.left hleft).imp_right fun hpolled =>
      ⟨List.mem_append_left _ hpolled.1, hpolled.2⟩⟩
  cases input with
  | request message =>
      rw [System.step]
      split <;> exact hkept
  | interrupted num =>
      cases hstatus : self.thread.status with
      | running =>
          simp only [System.step, Thread.step, hstatus]
          split_ifs with hintr hterm
          · exact hkept
          · refine ⟨fun hrunning => (by cases hrunning), fun _ => Or.inr ⟨?_, h.running hstatus⟩⟩
            rw [hterm]
            exact List.mem_concat_self
          · exact session_halted _ _ _
      | left | halted =>
          simp only [System.step, Thread.step, hstatus]
          exact hkept
  | pass header control stream =>
      cases hstatus : self.thread.status with
      | running =>
          simp only [System.step, Thread.step, hstatus]
          rcases hexec : exec (DapClient.pass config (self.poll header control stream))
            self.thread.client with ⟨result, client⟩
          cases result with
          | error halt => exact session_halted _ _ _
          | ok a =>
              have hpassed := (h.running hstatus).pass hexec
              dsimp only
              split_ifs at hpassed ⊢ with hstop
              · exact ⟨fun hrunning => (by cases hrunning), fun _ => Or.inl hpassed⟩
              · exact ⟨fun _ => hpassed, fun hleft => by cases hleft⟩
      | left | halted =>
          simp only [System.step, hstatus]
          exact hkept

/-- A client between two calls of `start_debugger`, the last of which has left its loop
while the context was not terminated. -/
inductive Idle : XDapTcpClient → Prop
  | unused : Idle unused
  | served {config : Config} {client : XDapTcpClient} {stream : List StreamChunk}
      {thread : Thread} (inputs : List Input) (hidle : Idle client)
      (hstart : startDebuggerOf config client stream = some thread)
      (hleft : (run (System.step config) (.init thread) inputs).thread.status = .left)
      (hterm : .interrupted eterm ∉ inputs) :
      Idle (run (System.step config) (.init thread) inputs).thread.client

theorem session_run {client : XDapTcpClient} {stream : List StreamChunk} {thread : Thread}
    (hmessages : client.messageQueue = []) (hstopped : client.stoppedQueue = [])
    (hstart : startDebuggerOf config client stream = some thread) (inputs : List Input) :
    Session inputs (run (System.step config) (.init thread) inputs).thread := by
  obtain ⟨⟨socketId, chunks⟩, -, hthread⟩ := Option.bind_eq_some_iff.mp hstart
  obtain rfl := Option.some.inj hthread
  refine run_induction (P := fun inputs (system : System) => Session inputs system.thread)
    _ ?_ (fun _ input h => session_step h input) inputs
  exact ⟨fun _ => ⟨hmessages, hstopped, rfl, fun message hmem => by cases hmem⟩,
    fun hleft => by cases hleft⟩

/-- Nothing of a session is left for the next one but the last header. -/
theorem Idle.clean {client : XDapTcpClient} (h : Idle client) :
    client.messageQueue = [] ∧ client.stoppedQueue = [] ∧ client.replyOwed = false := by
  induction h with
  | unused => exact ⟨rfl, rfl, rfl⟩
  | served inputs hidle hstart hleft hterm ih =>
      rcases (session_run ih.1 ih.2.1 hstart inputs).left hleft with h | ⟨hmem, -⟩
      · exact ⟨h.messageQueue, h.stoppedQueue, h.replyOwed⟩
      · exact absurd hmem hterm

/-! The header. -/

def withHeader (parentHeader : Bytes) (self : System) : System :=
  { self with thread := { self.thread with client := { self.thread.client with parentHeader } } }

/-- The first poll that returns reports a header. The frontend sends one ahead of each
request. -/
def HeaderFirst (inputs : List Input) : Prop :=
  ∃ front header control stream more, inputs = front ++ .pass (some header) control stream :: more ∧
    ∀ input ∈ front, (∃ message, input = .request message) ∨ input = .interrupted eintr

theorem run_withHeader (parentHeader : Bytes) {front : List Input}
    (hfront : ∀ input ∈ front, (∃ message, input = .request message) ∨ input = .interrupted eintr)
    {self : System} (hstatus : self.thread.status = .running) :
    run (System.step config) (withHeader parentHeader self) front =
        withHeader parentHeader (run (System.step config) self front) ∧
      (run (System.step config) self front).thread.status = .running := by
  induction front generalizing self with
  | nil => exact ⟨rfl, hstatus⟩
  | cons input front ih =>
      have hstep : (withHeader parentHeader self).step config input =
            withHeader parentHeader (self.step config input) ∧
          (self.step config input).thread.status = .running := by
        rcases hfront input List.mem_cons_self with ⟨message, rfl⟩ | rfl
        · by_cases hsends : self.waiting = none ∧ self.thread.client.replyOwed = false
          · have hsent : self.step config (.request message) =
                { self with waiting := some message } := if_pos hsends
            rw [hsent]
            exact ⟨if_pos hsends, hstatus⟩
          · have hrefused : self.step config (.request message) = self := if_neg hsends
            rw [hrefused]
            exact ⟨if_neg hsends, hstatus⟩
        · constructor <;> simp [System.step, withHeader, Thread.step, hstatus]
      rw [run_cons, run_cons, hstep.1]
      exact ih (fun other hmem => hfront other (List.mem_cons_of_mem input hmem)) hstep.2

/-- A header replaces the one before it, ahead of anything else in the pass. -/
theorem step_withHeader (parentHeader header : Bytes) (control stream : Bool) {self : System}
    (hstatus : self.thread.status = .running) :
    (withHeader parentHeader self).step config (.pass (some header) control stream) =
      self.step config (.pass (some header) control stream) := by
  have hpass : ∀ poll : Poll, poll.header = some header →
      exec (pass config poll) { self.thread.client with parentHeader } =
        exec (pass config poll) self.thread.client := by
    rintro ⟨_, _, _⟩ rfl
    rfl
  simp only [System.step, withHeader, hstatus, Thread.step]
  rw [hpass (System.poll _ (some header) control stream) rfl]
  rfl

/-- A client that has served any number of sessions serves the next one as one that has not
been used, from the first header on. -/
theorem sessions_alike {client : XDapTcpClient} (hidle : Idle client) {stream : List StreamChunk}
    {thread : Thread} (hstart : startDebuggerOf config client stream = some thread)
    (inputs : List Input) :
    Session inputs (run (System.step config) (.init thread) inputs).thread ∧
      ∃ fresh, startDebugger config stream = some fresh ∧
        (HeaderFirst inputs → run (System.step config) (.init thread) inputs =
          run (System.step config) (.init fresh) inputs) := by
  obtain ⟨hmessages, hstopped, howed⟩ := hidle.clean
  refine ⟨session_run hmessages hstopped hstart inputs, ?_⟩
  obtain ⟨⟨socketId, chunks⟩, hinit, hthread⟩ := Option.bind_eq_some_iff.mp hstart
  obtain rfl := Option.some.inj hthread
  let fresh : Thread := {
    status := .running
    client := { unused with
      socketId
      waitAttach := config.dapInitType == .parallel
      stream := chunks } }
  have hfresh : startDebugger config stream = some fresh := by
    rw [startDebugger, hinit]
    rfl
  refine ⟨fresh, hfresh, ?_⟩
  rintro ⟨front, header, control, stream, more, rfl, hfront⟩
  have hsame : System.init { status := .running, client := { client with
      socketId
      requestStop := false
      waitAttach := config.dapInitType == .parallel
      stream := chunks
      actions := [] } } = withHeader client.parentHeader (.init fresh) := by
    rw [withHeader, System.init, hmessages, hstopped, howed]
    rfl
  obtain ⟨hrun, hrunning⟩ :=
    @run_withHeader config client.parentHeader front hfront (.init fresh) rfl
  rw [hsame, run_append, run_append, hrun, run_cons, run_cons, step_withHeader _ _ _ _ hrunning]

end Sessions

def disconnectRequest : Json :=
  .object [(literal "command", .string (literal "disconnect")), (literal "seq", .integer 4),
    (literal "type", .string (literal "request"))]

def disconnectResponse : Json :=
  .object [(literal "command", .string (literal "disconnect")),
    (literal "request_seq", .integer 4), (literal "type", .string (literal "response"))]

def disconnectConfig : Config :=
  tabledConfig [disconnectRequest, disconnectResponse]

def disconnects : List StreamChunk :=
  [⟨[0, 1, 2, 3, 4], dapFrame (textOf disconnectResponse)⟩]

def oneSession : List Input :=
  [.request (dapFrame (textOf disconnectRequest)), .pass (some (literal "\x7b\x7d")) true false,
    .pass none false true]

/-- A client that has served one session. -/
def servedOnce : XDapTcpClient :=
  (run (System.step disconnectConfig) (.init ⟨{ unused with
    socketId := [0, 1, 2, 3, 4]
    stream := disconnects }, .running⟩) oneSession).thread.client

set_option maxRecDepth 20000 in
theorem servedOnce_idle : Idle servedOnce :=
  .served oneSession .unused rfl rfl (by simp [oneSession])

set_option maxRecDepth 20000 in
theorem sessions_alike_twice : servedOnce.parentHeader = literal "\x7b\x7d" ∧ ∃ second fresh,
    startDebuggerOf disconnectConfig servedOnce disconnects = some second ∧
      startDebugger disconnectConfig disconnects = some fresh ∧
      (run (System.step disconnectConfig) (.init second) oneSession).thread.status = .left ∧
      run (System.step disconnectConfig) (.init second) oneSession =
        run (System.step disconnectConfig) (.init fresh) oneSession := by
  have hsecond : startDebuggerOf disconnectConfig servedOnce disconnects = some _ := rfl
  obtain ⟨-, fresh, hfresh, hsame⟩ := sessions_alike servedOnce_idle hsecond oneSession
  have hfirst : HeaderFirst oneSession :=
    ⟨[.request (dapFrame (textOf disconnectRequest))], literal "\x7b\x7d", true, false,
      [.pass none false true], rfl, by simp⟩
  exact ⟨rfl, _, fresh, hsecond, hfresh, rfl, hsame hfirst⟩

end XeusZmq.DapSessions
