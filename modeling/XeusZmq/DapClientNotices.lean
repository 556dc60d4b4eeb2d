import XeusZmq.DapClientRuns
import XeusZmq.TabledJson

/-!
Where the thread can wait for the debugger for ever. Only an empty chunk between two
messages, or a stream that the start-up sequence has read empty, makes it wait for a
debugger that waits for a request.
-/

namespace XeusZmq.DapClientNotices

open XeusZmq.Values
open XeusZmq.JsonAccess
open XeusZmq.DapFraming
open XeusZmq.DapFramingCorrectness
open XeusZmq.Commands
open XeusZmq.Runs
open XeusZmq.Exchanges
open XeusZmq.DapClient
open XeusZmq.DapClientWaiting
open XeusZmq.DapClientActions
open XeusZmq.DapClientRuns
open XeusZmq.TabledJson

/-- The thread waits in `append_tcp_message` for what does not come, the debugger has
answered every request, and the frontend waits for the thread. -/
def Wedged (json : JsonLibrary) (self : System) : Prop :=
  self.thread.status = .halted (.reading .blocked) ∧
    outstanding json self.thread.client.actions = [] ∧ self.waiting.isSome = true

/-- Whenever the loop is about to read the stream, the chunk that is next is not empty,
or the debugger has a request to answer. -/
def ReadsData (config : Config) (self : System) : Input → Prop
  | .pass header control true =>
      self.thread.status = .running → ∀ s,
        exec (handleSockets config (self.poll header control true)) self.thread.client =
            (.ok ⟨⟩, s) →
          (∃ chunk chunks, s.stream = chunk :: chunks ∧ chunk.content ≠ []) ∨
            outstanding config.json s.actions ≠ []
  | _ => True

/-- Whole messages are to come, cut into chunks in any way, and empty chunks between. -/
def Whole (s : XDapTcpClient) : Prop :=
  ∃ messages, Delivers s.stream messages

theorem Whole.of_continues {P : Action → Prop} {s s' : XDapTcpClient} (h : Whole s)
    (hcontinues : Continues P s s') : Whole s' := by
  obtain ⟨messages, hdelivers⟩ := h
  obtain ⟨-, -, -, -, batches, hbatches⟩ := hcontinues
  obtain ⟨rest, -, hrest, -⟩ := hbatches.delivers hdelivers
  exact ⟨rest, hrest⟩

/-- A call that waits has found nothing at all. -/
theorem Whole.blocked {s : XDapTcpClient} (h : Whole s) {batch : List Bytes}
    (hcall : handleTcpSocket s.stream [] = (batch, .error .blocked)) :
    batch = [] ∧ contents s.stream = [] := by
  obtain ⟨messages, hdelivers⟩ := h
  rcases handleTcpSocket_delivers hdelivers [] with
    ⟨rfl, hblocked⟩ | ⟨_, _, _, -, -, hreturns, -, -⟩
  · obtain ⟨bodies, hbodies, hstream⟩ := hdelivers
    rw [hcall] at hblocked
    refine ⟨(Prod.mk.inj hblocked).1, ?_⟩
    rw [hstream, List.map_eq_nil_iff.mp hbodies.symm, frames_nil]
  · cases hcall.symm.trans hreturns

/-- The debugger has a request to answer, or the frontend waits for a reply. -/
def Excused (json : JsonLibrary) (s : XDapTcpClient) : Prop :=
  AnswersInOrder json s.actions → s.replyOwed = true ∨ outstanding json s.actions ≠ []

/-- If the command waits for ever, it does so in a state that meets `E`. -/
def Waits {α : Type} (I J E : XDapTcpClient → Prop) (c : Client α) : Prop :=
  ∀ s, I s → Ends c s (fun _ s' => J s') fun halt s' => halt = .reading .blocked → E s'

section Waits

variable {I J K E : XDapTcpClient → Prop} {P : Action → Prop} {α β : Type}

theorem waits_bind {c : Client α} {f : α → Client β} (hc : Waits I J E c)
    (hf : ∀ a, Waits J K E (f a)) : Waits I K E (c >>= f) :=
  fun s hs => ends_bind.mpr ((hc s hs).mono (fun a s' => hf a s') fun _ _ => id)

theorem waits_get : Waits I I E (get : Client XDapTcpClient) :=
  fun _ hs => ends_get.mpr hs

theorem waits_pure (a : α) : Waits I I E (pure a : Client α) :=
  fun _ hs => ends_pure.mpr hs

theorem waits_modify {f : XDapTcpClient → XDapTcpClient} (hf : ∀ s, I s → J (f s)) :
    Waits I J E (modify f : Client PUnit) :=
  fun s hs => ends_modify.mpr (hf s hs)

theorem waits_throw {halt : Halt} (hhalt : halt ≠ .reading .blocked) :
    Waits I J E (throw halt : Client α) :=
  fun _ _ => ends_throw.mpr fun h => absurd h hhalt

theorem waits_throwing (x : Result α) : Waits I I E (throwing x) := by
  cases x with
  | ok a => exact waits_pure a
  | error f => exact waits_throw (by simp)

/-! The commands that read nothing. -/

theorem waits_record (action : Action) : Waits Whole Whole E (record action) :=
  waits_modify fun _ hs => hs

variable {config : Config}

theorem waits_eventCallback (message : Json) :
    Waits Whole Whole E (eventCallback config message) :=
  waits_bind (waits_record _) fun _ => waits_throwing _

theorem waits_publish (message : Json) : Waits Whole Whole E (publish config message) :=
  waits_bind waits_get fun _ => waits_bind (waits_throwing _) fun _ => waits_record _

theorem waits_sendReply (message : Json) (text : Bytes) :
    Waits Whole Whole E (sendReply message text) := by
  refine waits_bind waits_get fun s => ?_
  split
  · exact waits_modify fun _ hs => hs
  · exact waits_throw (by simp)

theorem waits_popFront : Waits Whole Whole E popFront := by
  refine waits_bind waits_get fun s => ?_
  cases s.messageQueue with
  | nil => exact waits_throw (by simp)
  | cons rawMessage queue => exact waits_modify fun _ hs => hs

theorem waits_sortStopped {json : JsonLibrary} {condition : MessageCondition} (queue : List Bytes)
    (found : Option Json) : Waits Whole Whole E (sortStopped json condition queue found) := by
  induction queue generalizing found with
  | nil => exact waits_pure found
  | cons rawMessage queue ih =>
      refine waits_bind (waits_throwing _) fun message => ?_
      refine waits_bind (waits_throwing _) fun meets => ?_
      have hrest : ∀ found, Waits Whole Whole E (do
          modify fun s => { s with stoppedQueue := queue }
          sortStopped json condition queue found) := fun found =>
        waits_bind (waits_modify fun _ hs => hs) fun _ => ih found
      cases meets with
      | true => exact waits_bind (waits_pure _) hrest
      | false =>
          exact waits_bind (waits_modify fun _ hs => hs) fun _ => waits_bind (waits_pure _) hrest

/-! The wait for the answer to a request that the thread has just made. -/

/-- The request is the last one that the debugger has to answer. -/
def Asked (json : JsonLibrary) (request : Json) (s : XDapTcpClient) : Prop :=
  Whole s ∧ (AnswersInOrder json s.actions →
    ∃ front, outstanding json s.actions = front ++ [⟨true, request⟩])

theorem outstanding_issued (json : JsonLibrary) (actions : List Action) (request : Json)
    (frames : List Bytes) : outstanding json (actions ++ [.issued request frames]) =
      outstanding json actions ++ [⟨true, request⟩] := by
  rw [outstanding, exchanges_append, account_append]
  rfl

theorem waits_sendDapRequest (request : Json) :
    Waits Whole (Asked config.json request) E (DapClient.sendDapRequest config request) :=
  waits_bind waits_get fun _ => waits_bind (waits_throwing _) fun frames =>
    waits_modify fun s hs =>
      ⟨hs, fun _ => ⟨outstanding config.json s.actions, outstanding_issued _ _ _ frames⟩⟩

variable {json : JsonLibrary} {request : Json}

theorem outstanding_received {actions : List Action} {batch : List Bytes} {front : List Request}
    (hrequest : namesThreads request = true)
    (horder : AnswersInOrder json (actions ++ [.received batch]))
    (hlast : outstanding json actions = front ++ [⟨true, request⟩])
    (hnone : ∀ rawMessage ∈ batch, namesThreads (messageOf json rawMessage) = false) :
    ∃ front', outstanding json (actions ++ [.received batch]) = front' ++ [⟨true, request⟩] := by
  have hmessages : exchanges json [.received batch] =
      (batch.map (messageOf json)).map .received := by
    simp [exchanges, exchange]
  rw [AnswersInOrder, exchanges_append, hmessages] at horder
  rw [outstanding, exchanges_append, account_append, hmessages]
  apply run_received_last horder.rest hlast
  intro message hmessage hanswers
  obtain ⟨rawMessage, hmem, rfl⟩ := List.mem_map.mp hmessage
  have hnames := namesThreads_of_answers hanswers
  rw [hnone rawMessage hmem, hrequest] at hnames
  exact Bool.false_ne_true hnames

def Unanswered (json : JsonLibrary) (s : XDapTcpClient) : Prop :=
  AnswersInOrder json s.actions → outstanding json s.actions ≠ []

theorem waits_awaitMessage (hrequest : namesThreads request = true) (fuel : Nat) :
    Waits (Asked json request) Whole (Unanswered json) (awaitMessage json isThreads fuel) := by
  induction fuel with
  | zero => exact waits_throw (by simp)
  | succ fuel ih =>
      rintro s ⟨hwhole, hasked⟩
      rw [awaitMessage]
      rcases hcall : handleTcpSocket s.stream [] with ⟨batch, result⟩
      cases result with
      | error stop =>
          rw [Ends, exec_bind_of_error (exec_receiveStopped_stop hcall)]
          intro hstop horder
          obtain rfl : stop = .blocked := by simpa using hstop
          obtain ⟨rfl, -⟩ := hwhole.blocked hcall
          obtain ⟨front, hlast⟩ := hasked horder.front
          obtain ⟨front', hlast'⟩ := outstanding_received hrequest horder hlast (by simp)
          simp [hlast']
      | ok pending =>
          obtain ⟨s₁, hs₁⟩ : ∃ s₁, s₁ = { s with
              stoppedQueue := s.stoppedQueue ++ batch
              stream := pending
              actions := s.actions ++ [Action.received batch] } := ⟨_, rfl⟩
          have hexec : exec receiveStopped s = (.ok ⟨⟩, s₁) := hs₁ ▸ exec_receiveStopped hcall
          have hwhole₁ : Whole s₁ := by
            have hcontinues := continues_receiveStopped (P := fun _ => True) (fun _ => trivial) s
            rw [hexec] at hcontinues
            exact hwhole.of_continues hcontinues
          rw [Ends, exec_bind_of_ok hexec, exec_bind_of_ok (exec_get s₁)]
          refine ends_bind.mpr (ends_of_exec ?_ ?_)
          · intro found s₂ hsort
            obtain ⟨hfound, rfl⟩ := exec_sortStopped_eq_ok hsort
            cases found with
            | some message => exact hwhole₁
            | none =>
                obtain ⟨-, hnone⟩ := eq_false_of_lastMatch hfound.symm
                refine ih _ ⟨hwhole₁, ?_⟩
                subst hs₁
                intro horder
                obtain ⟨front, hlast⟩ := hasked horder.front
                exact outstanding_received hrequest horder hlast fun rawMessage hmem =>
                  hnone rawMessage (List.mem_append_right _ hmem)
          · intro halt s₂ hsort hblocked
            exact ((waits_sortStopped (E := fun _ => False) _ none s₁ hwhole₁).of_error hsort
              hblocked).elim

theorem waits_waitForMessage (hrequest : namesThreads request = true) :
    Waits (Asked json request) Whole (Unanswered json) (waitForMessage json isThreads) := by
  refine waits_bind waits_get fun s => waits_bind (waits_throwing _) fun found => ?_
  cases found with
  | some found => exact waits_bind (waits_modify fun _ hs => hs.1) fun _ => waits_pure _
  | none => exact waits_awaitMessage hrequest _

theorem waits_announceStop (message : Json) :
    Waits Whole Whole (Unanswered config.json) (announceStop config message) :=
  waits_bind (waits_throwing _) fun _ =>
    waits_bind (waits_sendDapRequest _) fun _ =>
      waits_bind (waits_waitForMessage rfl) fun _ =>
        waits_bind (waits_record _) fun _ =>
          waits_bind (waits_throwing _) fun _ => waits_eventCallback _

theorem waits_forwardEvent (message : Json) :
    Waits Whole Whole (Unanswered config.json) (forwardEvent config message) := by
  refine waits_bind (waits_throwing _) fun tested => ?_
  rcases tested with ⟨stopped, message⟩
  cases stopped with
  | true => exact waits_bind (waits_announceStop _) fun _ => waits_publish _
  | false => exact waits_bind (waits_eventCallback _) fun _ => waits_publish _

theorem waits_processMessage (rawMessage : Bytes) :
    Waits Whole Whole (Unanswered config.json) (processMessage config rawMessage) := by
  refine waits_bind (waits_throwing _) fun message => ?_
  refine waits_bind (waits_throwing _) fun typed => ?_
  rcases typed with ⟨type, event⟩
  dsimp only
  split
  · exact waits_bind (waits_record _) fun _ => waits_bind (waits_forwardEvent _) fun _ =>
      waits_popFront
  · refine waits_bind (waits_throwing _) fun read => ?_
    rcases read with ⟨command, _⟩
    dsimp only
    split
    · exact waits_bind (waits_modify fun _ hs => hs) fun _ =>
        waits_bind (waits_sendReply _ _) fun _ => waits_popFront
    · exact waits_bind (waits_sendReply _ _) fun _ => waits_popFront

theorem waits_processMessages (fuel : Nat) :
    Waits Whole Whole (Unanswered config.json) (processMessages config fuel) := by
  induction fuel with
  | zero => exact waits_throw (by simp)
  | succ fuel ih =>
      refine waits_bind waits_get fun s => ?_
      cases s.messageQueue with
      | nil => exact waits_pure _
      | cons rawMessage queue => exact waits_bind (waits_processMessage rawMessage) fun _ => ih

theorem waits_processMessageQueue :
    Waits Whole Whole (Unanswered config.json) (processMessageQueue config) :=
  waits_bind waits_get fun _ => waits_processMessages _

/-! The start-up sequence, throughout which a reply is owed. -/

def Owing (s : XDapTcpClient) : Prop :=
  Whole s ∧ s.replyOwed = true

theorem waits_owing {c : Client α} (hc : Keeps (Continues Silent) c) :
    Waits Owing Owing (fun s => s.replyOwed = true) c := by
  rintro s ⟨hwhole, howed⟩
  have howing : Owing (exec c s).2 :=
    ⟨hwhole.of_continues (hc s), (replyOwed_of_silent (hc s)).trans howed⟩
  apply ends_of_exec
  · intro a s' hexec
    rwa [hexec] at howing
  · intro halt s' hexec _
    rw [hexec] at howing
    exact howing.2

theorem waits_handleInitSequence :
    Waits Owing Whole (fun s => s.replyOwed = true) (handleInitSequence config) :=
  waits_bind (waits_owing (continues_waitForMessage fun _ _ => rfl)) fun _ =>
    waits_bind (waits_throwing _) fun _ =>
      waits_bind (waits_owing (continues_sendDapRequest (fun _ => id) _)) fun _ =>
        waits_bind (waits_owing (continues_waitForMessage fun _ _ => rfl)) fun _ =>
          waits_bind (waits_owing (continues_record (fun _ => rfl) fun _ => rfl)) fun _ =>
            waits_bind (waits_owing (continues_waitForMessage fun _ _ => rfl)) fun _ =>
              waits_bind (waits_owing (continues_forwardEvent (fun _ => id) _)) fun _ =>
                waits_bind (waits_throwing _) fun _ => fun s hs => waits_sendReply _ _ s hs.1

theorem waits_handleControlSocket (message : Bytes) :
    Waits Whole Whole (fun s => s.replyOwed = true) (handleControlSocket config message) := by
  refine waits_bind (J := Owing) (waits_modify fun s hs => ⟨hs, rfl⟩) fun _ => ?_
  refine waits_bind waits_get fun s => ?_
  have hrest : ∀ attached : Result Bool, Waits Owing Whole (fun s => s.replyOwed = true) (do
      if ← throwing attached then
        handleInitSequence config
        modify fun s => { s with waitAttach := false }) := by
    refine fun attached => waits_bind (waits_throwing _) fun attached => ?_
    cases attached with
    | true => exact waits_bind waits_handleInitSequence fun _ => waits_modify fun _ hs => hs
    | false => exact fun s hs => ends_pure.mpr hs.1
  dsimp only
  split
  · exact waits_bind (waits_owing (continues_record (fun _ => rfl) fun _ => rfl)) fun _ => hrest _
  · exact hrest _

theorem waits_handleSockets (poll : Poll) :
    Waits Whole Whole (fun s => s.replyOwed = true) (handleSockets config poll) := by
  rcases poll with ⟨header, control, stream⟩
  cases header with
  | none =>
      cases control with
      | none => exact waits_pure _
      | some message => exact waits_handleControlSocket message
  | some parent =>
      cases control with
      | none => exact waits_bind (waits_modify fun _ hs => hs) fun _ => waits_pure _
      | some message =>
          exact waits_bind (waits_modify fun _ hs => hs) fun _ => waits_handleControlSocket message

end Waits

theorem outstanding_received_nil (json : JsonLibrary) (actions : List Action) :
    outstanding json (actions ++ [.received []]) = outstanding json actions := by
  rw [outstanding, exchanges_append, account_append]
  rfl

theorem ends_receiveMessages {json : JsonLibrary} {s : XDapTcpClient} (hwhole : Whole s)
    (hreads : (∃ chunk chunks, s.stream = chunk :: chunks ∧ chunk.content ≠ []) ∨
      outstanding json s.actions ≠ []) :
    Ends receiveMessages s (fun _ s' => Whole s')
      fun halt s' => halt = .reading .blocked → Excused json s' := by
  have hcontinues := continues_receiveMessages (P := fun _ => True) (fun _ => trivial) s
  apply ends_of_exec
  · intro _ s' hexec
    rw [hexec] at hcontinues
    exact hwhole.of_continues hcontinues
  · rintro halt s' hexec rfl horder
    right
    rcases hcall : handleTcpSocket s.stream [] with ⟨batch, result⟩
    cases result with
    | ok pending => cases (exec_receiveMessages hcall).symm.trans hexec
    | error stop =>
        rw [exec_receiveMessages_stop hcall] at hexec
        cases hexec
        obtain ⟨rfl, hempty⟩ := hwhole.blocked hcall
        rcases hreads with ⟨chunk, chunks, hstream, hchunk⟩ | houtstanding
        · rw [hstream, contents_cons] at hempty
          exact absurd (List.append_eq_nil_iff.mp hempty).1 hchunk
        · rwa [outstanding_received_nil]

/-- The loop does not wait for ever, unless the debugger has a request to answer or the
frontend waits for a reply. -/
theorem ends_pass {config : Config} {poll : Poll} {s : XDapTcpClient} (hwhole : Whole s)
    (hreads : poll.stream = true → ∀ s₁, exec (handleSockets config poll) s = (.ok ⟨⟩, s₁) →
      (∃ chunk chunks, s₁.stream = chunk :: chunks ∧ chunk.content ≠ []) ∨
        outstanding config.json s₁.actions ≠ []) :
    Ends (pass config poll) s (fun _ s' => Whole s')
      fun halt s' => halt = .reading .blocked → Excused config.json s' := by
  have hqueue : ∀ s₁, Whole s₁ → Ends (processMessageQueue config) s₁ (fun _ s' => Whole s')
      fun halt s' => halt = .reading .blocked → Excused config.json s' := fun s₁ hs₁ =>
    (waits_processMessageQueue s₁ hs₁).mono (fun _ _ => id)
      fun _ _ hwaits hblocked horder => .inr (hwaits hblocked horder)
  rw [DapClient.pass]
  refine ends_bind.mpr (ends_of_exec ?_ ?_)
  · intro _ s₁ hsockets
    have hwhole₁ := (waits_handleSockets poll s hwhole).of_ok hsockets
    dsimp only
    split
    · next hstream =>
        exact ends_bind.mpr ((ends_receiveMessages hwhole₁ (hreads hstream s₁ hsockets)).mono
          (fun _ => hqueue) fun _ _ => id)
    · exact hqueue s₁ hwhole₁
  · intro halt s₁ hsockets hblocked _
    exact .inl ((waits_handleSockets poll s hwhole).of_error hsockets hblocked)

structure Unwedged (json : JsonLibrary) (system : System) : Prop where
  whole : system.thread.status = .running → Whole system.thread.client
  lockStep : LockStep system
  excused : system.thread.status = .halted (.reading .blocked) → Excused json system.thread.client

theorem status_of_interrupted {config : Config} {t : Thread} {num : Nat} :
    ((t.step config (.error num)).status = .running → t.status = .running) ∧
      ((t.step config (.error num)).status = .halted (.reading .blocked) →
        t.status = .halted (.reading .blocked)) := by
  rcases t with ⟨client, status⟩
  cases status with
  | running =>
      simp only [Thread.step]
      split_ifs <;> simp
  | left => simp [Thread.step]
  | halted halt => simp [Thread.step]

theorem unwedged_step {config : Config} {self : System} (h : Unwedged config.json self)
    {input : Input} (hreads : ReadsData config self input) :
    Unwedged config.json (self.step config input) := by
  have hlock := lockStep_step config h.lockStep input
  cases input with
  | request message =>
      have hthread : (self.step config (.request message)).thread = self.thread := by
        rw [System.step]
        split <;> rfl
      exact ⟨hthread ▸ h.whole, hlock, hthread ▸ h.excused⟩
  | interrupted num =>
      refine ⟨fun hstatus => ?_, hlock, fun hstatus => ?_⟩
      · rw [System.step, client_of_interrupted]
        exact h.whole (status_of_interrupted.1 hstatus)
      · rw [System.step, client_of_interrupted]
        exact h.excused (status_of_interrupted.2 hstatus)
  | pass header control stream =>
      rw [System.step] at hlock ⊢
      split
      · next hrunning =>
          have hends : Ends (pass config (self.poll header control stream)) self.thread.client
              (fun _ s' => Whole s')
              fun halt s' => halt = .reading .blocked → Excused config.json s' := by
            apply ends_pass (h.whole hrunning)
            intro hstream
            obtain rfl : stream = true := hstream
            exact hreads hrunning
          simp only [Thread.step, hrunning] at hlock ⊢
          rcases hexec : exec (pass config (self.poll header control stream)) self.thread.client
            with ⟨result, client⟩
          rw [hexec] at hlock
          cases result with
          | ok _ =>
              refine ⟨fun _ => hends.of_ok hexec, hlock, fun hstatus => ?_⟩
              dsimp only at hstatus
              split at hstatus <;> cases hstatus
          | error halt =>
              refine ⟨fun hstatus => (by cases hstatus), hlock, fun hstatus => ?_⟩
              exact hends.of_error hexec (Status.halted.inj hstatus)
      · exact h

/-- No run with a debugger that answers the requests it gets in their order, and sends
whole messages, wedges the thread. -/
def NeverWedges (config : Config) (stream : List StreamChunk) : Prop :=
  ∀ thread messages inputs, startDebugger config stream = some thread →
    Delivers thread.client.stream messages →
    AnswersInOrder config.json
      (run (System.step config) (.init thread) inputs).thread.client.actions →
    ¬ Wedged config.json (run (System.step config) (.init thread) inputs)

theorem notWedged_of_readsData {config : Config} {stream : List StreamChunk} {thread : Thread}
    {messages : List Bytes} (hstart : startDebugger config stream = some thread)
    (hstream : Delivers thread.client.stream messages) (inputs : List Input)
    (horder : AnswersInOrder config.json
      (run (System.step config) (.init thread) inputs).thread.client.actions)
    (hreads : Guarded (System.step config) (ReadsData config) (.init thread) inputs) :
    ¬ Wedged config.json (run (System.step config) (.init thread) inputs) := by
  have hstatus : thread.status = .running := by
    obtain ⟨⟨socketId, chunks⟩, -, hthread⟩ := Option.bind_eq_some_iff.mp hstart
    exact Option.some.inj hthread ▸ rfl
  have hunwedged := run_induction_guarded
    (P := fun _ system => Unwedged config.json system)
    ⟨fun _ => ⟨messages, hstream⟩, by simp [LockStep, System.init], by simp [System.init, hstatus]⟩
    (fun _ _ h => unwedged_step h) inputs hreads
  rintro ⟨hblocked, hnone, hwaiting⟩
  rcases hunwedged.excused hblocked horder with howed | houtstanding
  · rw [hunwedged.lockStep hwaiting] at howed
    exact Bool.false_ne_true howed
  · exact houtstanding hnone

def initializeRequest : Json :=
  .object [(literal "command", .string (literal "initialize")), (literal "seq", .integer 1),
    (literal "type", .string (literal "request"))]

def initializeResponse : Json :=
  .object [(literal "command", .string (literal "initialize")), (literal "request_seq", .integer 1),
    (literal "seq", .integer 1), (literal "success", .boolean true),
    (literal "type", .string (literal "response"))]

/-- A client of a debugger that answers one request. -/
def initializeConfig (dapTcpType : DapTcpType) : Config :=
  { tabledConfig [initializeRequest, initializeResponse] with dapTcpType := dapTcpType }

def initializes : Input :=
  .request (dapFrame (textOf initializeRequest))

def notice : StreamChunk where
  identity := [0, 1, 2, 3, 4]
  content := []

def answer : StreamChunk where
  identity := [0, 1, 2, 3, 4]
  content := dapFrame (textOf initializeResponse)

set_option maxRecDepth 20000 in
/-- The server takes the notice before it enters the loop. -/
theorem notWedged_server : ∃ thread,
    startDebugger (initializeConfig .server) [notice, answer] = some thread ∧
      ¬ Wedged (initializeConfig .server).json (run (System.step (initializeConfig .server))
        (.init thread) [initializes, .pass none true false, .pass none false true]) := by
  have hanswer : Delivers [answer] [textOf initializeResponse] :=
    ⟨[⟨textOf initializeResponse, by decide +kernel⟩], rfl, by simp [answer]⟩
  refine ⟨_, rfl, notWedged_of_readsData
    (show startDebugger _ [notice, answer] = some _ from rfl) hanswer _ ?_ ?_⟩
  · exact guarded_cons.mpr ⟨trivial, guarded_cons.mpr ⟨fun _ => ⟨_, _, rfl, rfl, rfl⟩, guarded_nil⟩⟩
  · refine guarded_cons.mpr ⟨trivial, guarded_cons.mpr ⟨trivial, guarded_cons.mpr
      ⟨?_, guarded_nil⟩⟩⟩
    rintro - s hs
    cases hs
    exact .inl ⟨answer, [], rfl, dapFrame_ne_nil _⟩

/-- The client reads the notice of its own connection in the loop. -/
theorem not_neverWedges_client : ¬ NeverWedges (initializeConfig .client) [notice] := by
  intro h
  exact h _ [] [.pass none false true, initializes] rfl ⟨[], rfl, rfl⟩ guarded_nil ⟨rfl, rfl, rfl⟩

end XeusZmq.DapClientNotices

