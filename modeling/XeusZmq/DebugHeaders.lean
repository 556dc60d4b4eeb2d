import XeusZmq.DebugThreads
import XeusZmq.DebuggerHistory
import XeusZmq.TabledJson

/-!
The header of the message that is being served, on its way from the frontend to the
events that the thread publishes. Header and request go over two pairs of sockets, one
after the other.
-/

namespace XeusZmq.DebugHeaders

open XeusZmq.Values
open XeusZmq.Serializer
open XeusZmq.DapFraming
open XeusZmq.Commands
open XeusZmq.DapClient
open XeusZmq.DapClientWaiting
open XeusZmq.DapClientFrames
open XeusZmq.DapClientRuns (client_of_pass client_of_interrupted)
open XeusZmq.Debugger (XDebugger)
open XeusZmq.DebuggerSession (isSend processStarted)
open XeusZmq.DebugThreads
open XeusZmq.DebuggerHistory (flatConfig flatRequest)
open XeusZmq.FlatJson
open XeusZmq.TabledJson

/-! What `process_request_impl` sends. -/

/-- Nothing is sent, or the header of the message and then requests only. -/
def Announced (json : JsonLibrary) (header : Json) (sends : List Debugger.Action) : Prop :=
  sends = [] ∨
    ∃ (text : Bytes) (buffers : List Bytes), json.dump .strict header = .ok text ∧
      sends = .header text :: buffers.map .request

def SendsRequests (s s' : XDebugger) : Prop :=
  ∃ (log : List Debugger.Action) (buffers : List Bytes), s'.actions = s.actions ++ log ∧
    log.filter isSend = buffers.map .request

theorem handlerFrame_sendsRequests : DebuggerSession.HandlerFrame SendsRequests where
  refl s := ⟨[], [], by simp, rfl⟩
  trans := by
    rintro s₁ s₂ s₃ ⟨log, buffers, hlog, hsends⟩ ⟨log', buffers', hlog', hsends'⟩
    refine ⟨log ++ log', buffers ++ buffers', by rw [hlog', hlog, List.append_assoc], ?_⟩
    rw [List.filter_append, List.map_append, hsends, hsends']
  outputs s action houtput := by
    cases action with
    | request buffer => exact ⟨[.request buffer], [buffer], rfl, rfl⟩
    | write path text => exact ⟨[.write path text], [], rfl, rfl⟩
    | start | stop | header => exact absurd houtput (by simp [DebuggerSession.isOutput])

variable {config : Debugger.Config} {request : Debugger.Request}

/-- The states between which the header has been sent first, if anything. -/
def Announces (config : Debugger.Config) (request : Debugger.Request) (s s' : XDebugger) : Prop :=
  ∃ log, s'.actions = s.actions ++ log ∧
    Announced config.json request.header (log.filter isSend)

theorem Announces.of_same {s s' : XDebugger} (h : s'.actions = s.actions) :
    Announces config request s s' :=
  ⟨[], by simpa using h, .inl rfl⟩

theorem announces_callHandler (name : Bytes) (reply : Json) (s : XDebugger) :
    Announces config request s (exec (Debugger.callHandler config request reply name) s).2 := by
  unfold Debugger.callHandler
  cases hrequest : (Debugger.requestHandler config).lookup name with
  | some handler =>
      have hmem := OrderedMap.mem_of_lookup hrequest
      obtain ⟨-, rfl⟩ := by simpa [Debugger.requestHandler] using hmem
      exact .of_same (by rw [DebuggerSession.exec_debugInfoRequest_state])
  | none =>
      simp only [exec_bind, exec_get]
      split
      · rename_i hstarted
        simp only [Debugger.sendRecvHeader, Debugger.record, exec_bind, exec_fromExcept]
        cases hdump : config.json.dump .strict request.header with
        | error e => exact .of_same rfl
        | ok text =>
            simp only [liftJson_ok, exec_modify]
            have hheader : SendsRequests { s with actions := s.actions ++ [.header text] }
                (exec (Debugger.callStartedHandler config request name)
                  { s with actions := s.actions ++ [.header text] }).2 := by
              unfold Debugger.callStartedHandler
              cases hlookup : (Debugger.startedHandler config).lookup name with
              | some handler =>
                  exact handlerFrame_sendsRequests.keeps_startedHandler
                    (fun _ s list => ⟨[], [], by simp, rfl⟩) hlookup _
              | none => exact handlerFrame_sendsRequests.keeps_forwardMessage config request _
            cases request.sendRecvHeader with
            | error f => exact ⟨[.header text], rfl, .inr ⟨text, [], hdump, rfl⟩⟩
            | ok ack =>
                obtain ⟨log, buffers, hlog, hsends⟩ := hheader
                refine ⟨.header text :: log, by simpa using hlog, .inr ⟨text, buffers, hdump, ?_⟩⟩
                rw [List.filter_cons_of_pos rfl, hsends]
      · exact .of_same rfl

theorem announces_handle (config : Debugger.Config) (request : Debugger.Request) (reply : Json)
    (s : XDebugger) :
    Announces config request s (exec (Debugger.handle config request reply) s).2 := by
  cases hcommand : DebuggerSession.commandName request with
  | none =>
      rw [DebuggerSession.exec_handle_of_no_commandName hcommand]
      exact .of_same rfl
  | some name =>
      rw [DebuggerSession.exec_handle_of_commandName hcommand]
      exact announces_callHandler name reply _

theorem announces_processStarted (config : Debugger.Config) (request : Debugger.Request)
    (reply : Json) (s : XDebugger) :
    Announces config request s (exec (processStarted config request reply) s).2 := by
  obtain ⟨log, hlog, hsends⟩ := announces_handle config request reply s
  rcases DebuggerSession.exec_processStarted_cases config request reply s with hstate | ⟨-, hstate⟩
  · exact ⟨log, by rw [hstate, hlog], hsends⟩
  · refine ⟨log ++ [.stop], by rw [hstate, DebuggerSession.closed, hlog, List.append_assoc], ?_⟩
    rw [List.filter_append]
    simpa [isSend] using hsends

/-! What the thread publishes. -/

/-- The header is kept, and all that is published has it for its parent. -/
def Parented (config : Config) (s s' : XDapTcpClient) : Prop :=
  s'.parentHeader = s.parentHeader ∧
    ∃ new, s'.actions = s.actions ++ new ∧
      ∀ wireMsg ∈ publishedBy new, ∃ event, publication config s.parentHeader event = .ok wireMsg

section Client

variable {config : Config}

theorem Parented.of_silent {s s' : XDapTcpClient} {new : List Action}
    (hheader : s'.parentHeader = s.parentHeader) (hactions : s'.actions = s.actions ++ new)
    (hnew : publishedBy new = []) : Parented config s s' :=
  ⟨hheader, new, hactions, by simp [hnew]⟩

theorem parented_trans {s₁ s₂ s₃ : XDapTcpClient} (h : Parented config s₁ s₂)
    (h' : Parented config s₂ s₃) : Parented config s₁ s₃ := by
  obtain ⟨hheader, new, hactions, hnew⟩ := h
  obtain ⟨hheader', new', hactions', hnew'⟩ := h'
  refine ⟨hheader'.trans hheader, new ++ new', by rw [hactions', hactions, List.append_assoc], ?_⟩
  intro wireMsg hmem
  rw [publishedBy, List.filterMap_append] at hmem
  rcases List.mem_append.mp hmem with hmem | hmem
  · exact hnew wireMsg hmem
  · rw [← hheader]
    exact hnew' wireMsg hmem

theorem parented_receiveMessages : Keeps (Parented config) receiveMessages := by
  intro s
  rcases hcall : handleTcpSocket s.stream [] with ⟨batch, result⟩
  cases result with
  | ok pending =>
      rw [exec_receiveMessages hcall]
      exact .of_silent rfl rfl rfl
  | error stop =>
      rw [exec_receiveMessages_stop hcall]
      exact .of_silent rfl rfl rfl

theorem parented_receiveStopped : Keeps (Parented config) receiveStopped := by
  intro s
  rcases hcall : handleTcpSocket s.stream [] with ⟨batch, result⟩
  cases result with
  | ok pending =>
      rw [exec_receiveStopped hcall]
      exact .of_silent rfl rfl rfl
  | error stop =>
      rw [exec_receiveStopped_stop hcall]
      exact .of_silent rfl rfl rfl

theorem parented_publish (message : Json) : Keeps (Parented config) (publish config message) := by
  intro s
  rw [publish, exec_bind_of_ok (exec_get s)]
  cases hpublication : publication config s.parentHeader message with
  | error f => exact .of_silent rfl (List.append_nil _).symm rfl
  | ok wireMsg =>
      refine ⟨rfl, [.published wireMsg], rfl, ?_⟩
      intro other hmem
      obtain rfl := List.mem_singleton.mp hmem
      exact ⟨message, hpublication⟩

theorem parented_sendReply (message : Json) (text : Bytes) :
    Keeps (Parented config) (sendReply message text) := by
  intro s
  cases hs : s.replyOwed with
  | true =>
      simp only [sendReply, exec_bind, exec_get, hs, if_true, exec_modify]
      exact .of_silent rfl rfl rfl
  | false =>
      simp only [sendReply, exec_bind, exec_get, hs, Bool.false_eq_true, if_false, exec_throw]
      exact .of_silent rfl (List.append_nil _).symm rfl

theorem loop_parented : Loop config (Parented config) where
  refl s := .of_silent rfl (List.append_nil _).symm rfl
  trans := parented_trans
  queues s _ _ := .of_silent rfl (List.append_nil _).symm rfl
  receives := parented_receiveStopped
  records s action hown := by
    cases action with
    | received | accepted | forwarded | replied | published => exact absurd hown (by simp [isOwn])
    | issued | answered | handled | callback => exact .of_silent rfl rfl rfl
  publishes := parented_publish
  stops s := .of_silent rfl (List.append_nil _).symm rfl
  replies := parented_sendReply
  reads := parented_receiveMessages

theorem parented_handleControlSocket (message : Bytes) :
    Keeps (Parented config) (handleControlSocket config message) := by
  have hloop : Loop config (Parented config) := loop_parented
  have haccept : Keeps (Parented config) (acceptRequest message) := fun s =>
    .of_silent rfl rfl rfl
  have hforward (frames : List Bytes) :
      Keeps (Parented config) (record (.forwarded message frames)) :=
    fun s => .of_silent rfl rfl rfl
  have hattached : Keeps (Parented config)
      (modify fun s => { s with waitAttach := false } : Client PUnit) := fun s =>
    .of_silent rfl (List.append_nil _).symm rfl
  refine hloop.keeps_bind haccept fun _ => hloop.keeps_bind hloop.keeps_get fun s => ?_
  have hinit (outcome : ControlOutcome) : Keeps (Parented config) (do
      if ← throwing outcome.attached then
        handleInitSequence config
        modify fun s => { s with waitAttach := false }) := by
    refine hloop.keeps_bind (hloop.keeps_throwing _) fun attached => ?_
    split
    · exact hloop.keeps_bind hloop.keeps_handleInitSequence fun _ => hattached
    · exact hloop.keeps_pure _
  dsimp only
  split
  · exact hloop.keeps_bind (hforward _) fun _ => hinit _
  · exact hinit _

theorem parented_handleSockets (poll : Poll) (s : XDapTcpClient) :
    Parented config (withHeader poll s) (exec (handleSockets config poll) s).2 := by
  obtain ⟨header, control, stream⟩ := poll
  have hcontrol : Keeps (Parented config) (handleSockets config ⟨none, control, stream⟩) := by
    cases control with
    | some message => exact parented_handleControlSocket message
    | none => exact loop_parented.keeps_pure _
  cases header with
  | some text => exact hcontrol { s with parentHeader := text }
  | none => exact hcontrol s

theorem parented_pass (poll : Poll) (s : XDapTcpClient) :
    Parented config (withHeader poll s) (exec (DapClient.pass config poll) s).2 := by
  have hloop : Loop config (Parented config) := loop_parented
  have hsockets : Parented config (withHeader poll s) (exec (handleSockets config poll) s).2 :=
    parented_handleSockets poll s
  rw [DapClient.pass, exec_bind]
  generalize exec (handleSockets config poll) s = outcome at hsockets ⊢
  rcases outcome with ⟨result, s'⟩
  cases result with
  | error halt => exact hsockets
  | ok value =>
      refine parented_trans hsockets ?_
      dsimp only
      split
      · exact hloop.keeps_bind hloop.reads (fun _ => hloop.keeps_processMessageQueue) s'
      · exact hloop.keeps_processMessageQueue s'

end Client

/-! The two threads together. -/

section System

variable {debuggerConfig : Debugger.Config} {config : Config}

/-- The message is a `debug_event` whose parent header is what the dumped header parses
to. -/
def CarriesHeader (debuggerConfig : Debugger.Config) (config : Config) (header : Json)
    (wireMsg : Multipart) : Prop :=
  ∃ text parent event, debuggerConfig.json.dump .strict header = .ok text ∧
    config.json.parse text = .ok parent ∧
    serializeIopub config.json config.auth .strict
      ⟨literal "debug_event", ⟨config.header, parent, .object [], event, []⟩⟩ = .ok wireMsg

/-- Every request was received under the header of its message, and what was published
since then, until the next header, carries it. -/
structure HeadersMatch (debuggerConfig : Debugger.Config) (config : Config) (s : DebugSystem) :
    Prop where
  receipts : ∀ receipt ∈ s.receipts,
    debuggerConfig.json.dump .strict receipt.1 = .ok receipt.2
  publications : ∀ header wireMsg, (some header, wireMsg) ∈ s.publications →
    CarriesHeader debuggerConfig config header wireMsg

/-- What is on its way when a message with the header is processed. -/
inductive Phase (json : JsonLibrary) (s : DebugSystem) : Prop
  | fresh (hheader : s.headerSocket = none) (hrequest : s.requestSocket = none)
      (htodo : Announced json s.header s.todo)
  | announcing (text : Bytes) (buffers : List Bytes) (hheader : s.headerSocket = some text)
      (hrequest : s.requestSocket = none) (htodo : s.todo = buffers.map .request)
      (hdump : json.dump .strict s.header = .ok text)
  | announced (buffers : List Bytes) (hheader : s.headerSocket = none)
      (htodo : s.todo = buffers.map .request)
      (hdump : json.dump .strict s.header = .ok s.thread.client.parentHeader)

structure Orderly (debuggerConfig : Debugger.Config) (config : Config) (s : DebugSystem) :
    Prop where
  idle : s.current = none → s.todo = [] ∧ s.headerSocket = none ∧ s.requestSocket = none
  phase : Phase debuggerConfig.json s
  serving : ∀ header, s.serving = some header →
    debuggerConfig.json.dump .strict header = .ok s.thread.client.parentHeader
  headers : HeadersMatch debuggerConfig config s

/-- What it says is about these fields only. -/
theorem Phase.congr {json : JsonLibrary} {s s' : DebugSystem} (h : Phase json s)
    (hheader : s'.header = s.header) (htodo : s'.todo = s.todo)
    (hheaderSocket : s'.headerSocket = s.headerSocket)
    (hrequestSocket : s'.requestSocket = s.requestSocket)
    (hparent : s'.thread.client.parentHeader = s.thread.client.parentHeader) : Phase json s' := by
  cases h with
  | fresh hh hr ht =>
      exact .fresh (by rw [hheaderSocket, hh]) (by rw [hrequestSocket, hr])
        (by rwa [hheader, htodo])
  | announcing text buffers hh hr ht hd =>
      exact .announcing text buffers (by rw [hheaderSocket, hh]) (by rw [hrequestSocket, hr])
        (by rw [htodo, ht]) (by rw [hheader, hd])
  | announced buffers hh ht hd =>
      exact .announced buffers (by rw [hheaderSocket, hh]) (by rw [htodo, ht])
        (by rw [hheader, hd, hparent])

theorem Orderly.withThread {s : DebugSystem} (h : Orderly debuggerConfig config s)
    (thread : Thread) (enteredAfter : Nat)
    (hparent : thread.client.parentHeader = s.thread.client.parentHeader) :
    Orderly debuggerConfig config { s with thread, enteredAfter } where
  idle := h.idle
  phase := h.phase.congr rfl rfl rfl rfl hparent
  serving header hserving := by
    rw [h.serving header hserving]
    exact congrArg Except.ok hparent.symm
  headers := ⟨h.headers.receipts, h.headers.publications⟩

/-- What the callbacks and the end of a request change has no part in it. -/
theorem Orderly.withDebugger {s : DebugSystem} (h : Orderly debuggerConfig config s)
    (debugger : XDebugger) (closing : List Closing) (pending : List Action)
    (handling : List ThreadChange) (ended : Nat) (delivered : List (Nat × Json)) :
    Orderly debuggerConfig config
      { s with debugger, closing, pending, handling, ended, delivered } :=
  ⟨h.idle, h.phase.congr rfl rfl rfl rfl rfl, h.serving,
    ⟨h.headers.receipts, h.headers.publications⟩⟩

theorem sockets_of_returned {s : DebugSystem} (h : s.returned = true) :
    s.headerSocket = none ∧ s.requestSocket = none := by
  simp only [DebugSystem.returned, Bool.and_eq_true, Option.isNone_iff_eq_none] at h
  exact h.1.1

theorem orderly_enter (request : Debugger.Request) {s : DebugSystem}
    (h : Orderly debuggerConfig config s) (hidle : s.current = none) :
    Orderly debuggerConfig config (s.enter debuggerConfig request) := by
  obtain ⟨-, hheader, hrequest⟩ := h.idle hidle
  unfold DebugSystem.enter
  split
  · next reply debugger _ =>
      obtain ⟨log, hlog, hsends⟩ :=
        announces_processStarted debuggerConfig request reply debugger
      refine ⟨fun hnone => (nomatch hnone), .fresh hheader hrequest ?_, h.serving,
        ⟨h.headers.receipts, h.headers.publications⟩⟩
      simpa [hlog] using hsends
  · next debugger _ => exact h.withDebugger debugger _ _ _ _ _

theorem orderly_finish {s : DebugSystem} (h : Orderly debuggerConfig config s)
    (htodo : s.todo = []) (hreturned : s.returned = true) :
    Orderly debuggerConfig config (s.finish debuggerConfig) := by
  unfold DebugSystem.finish
  split
  · split <;>
      exact ⟨fun _ => ⟨htodo, sockets_of_returned hreturned⟩, h.phase.congr rfl rfl rfl rfl rfl,
        h.serving, ⟨h.headers.receipts, h.headers.publications⟩⟩
  · exact h

theorem orderly_send {s : DebugSystem} (h : Orderly debuggerConfig config s)
    (hreturned : s.returned = true) : Orderly debuggerConfig config s.send := by
  obtain ⟨hheader, hrequest⟩ := sockets_of_returned hreturned
  rcases htodo : s.todo with - | ⟨action, todo⟩
  · simpa [DebugSystem.send, htodo] using h
  have hbusy : s.current ≠ none := by
    intro hidle
    cases htodo.symm.trans (h.idle hidle).1
  cases h.phase with
  | fresh _ _ hannounced =>
      rcases hannounced with hnil | ⟨text, buffers, hdump, hsends⟩
      · cases htodo.symm.trans hnil
      · obtain ⟨rfl, rfl⟩ := by simpa using htodo.symm.trans hsends
        simp only [DebugSystem.send, htodo]
        exact ⟨fun hidle => absurd hidle hbusy, .announcing text buffers rfl hrequest rfl hdump,
          h.serving, ⟨h.headers.receipts, h.headers.publications⟩⟩
  | announcing text _ hsome => cases hheader.symm.trans hsome
  | announced buffers _ hsends hdump =>
      rcases buffers with - | ⟨buffer, buffers⟩
      · cases htodo.symm.trans hsends
      · obtain ⟨rfl, rfl⟩ := by simpa using htodo.symm.trans hsends
        simp only [DebugSystem.send, htodo]
        exact ⟨fun hidle => absurd hidle hbusy, .announced buffers hheader rfl hdump, h.serving,
          ⟨h.headers.receipts, h.headers.publications⟩⟩

theorem orderly_start (stream : List StreamChunk) {s : DebugSystem}
    (h : Orderly debuggerConfig config s) :
    Orderly debuggerConfig config (s.start config stream) := by
  unfold DebugSystem.start
  split
  · exact h.withThread _ _ rfl
  · exact h

theorem withHeader_of_header_eq_none {poll : Poll} (h : poll.header = none)
    (client : XDapTcpClient) : withHeader poll client = client := by
  rw [withHeader, h]

theorem poll_header_eq_none {s : DebugSystem} (h : s.headerSocket = none)
    (header control stream : Bool) : (s.poll header control stream).header = none := by
  simp [DebugSystem.poll, h]

/-- A request that is received has been sent behind the header. -/
theorem dump_of_control {s : DebugSystem} (h : Phase debuggerConfig.json s)
    {header control stream : Bool} (hcontrol : (s.poll header control stream).control.isSome) :
    debuggerConfig.json.dump .strict s.header =
      .ok (withHeader (s.poll header control stream) s.thread.client).parentHeader := by
  have hsome : s.requestSocket ≠ none := by
    intro hnone
    simp [DebugSystem.poll, hnone] at hcontrol
  cases h with
  | fresh _ hrequest => exact absurd hrequest hsome
  | announcing _ _ _ hrequest => exact absurd hrequest hsome
  | announced _ hheader _ hdump =>
      rw [withHeader_of_header_eq_none (poll_header_eq_none hheader ..)]
      exact hdump

theorem dump_of_served {s : DebugSystem} (h : Orderly debuggerConfig config s)
    {header control stream : Bool} {served : Json}
    (hserved : s.served (s.poll header control stream) = some served) :
    debuggerConfig.json.dump .strict served =
      .ok (withHeader (s.poll header control stream) s.thread.client).parentHeader := by
  unfold DebugSystem.served at hserved
  split_ifs at hserved with hcontrol hheader
  · obtain rfl := Option.some.inj hserved
    exact dump_of_control h.phase hcontrol
  · rw [withHeader_of_header_eq_none (Option.not_isSome_iff_eq_none.mp hheader)]
    exact h.serving served hserved

theorem phase_pass {s : DebugSystem} (h : Phase debuggerConfig.json s)
    (header control stream : Bool)
    (hparent : (s.thread.step (listening config)
        (.ok (s.poll header control stream))).client.parentHeader =
      (withHeader (s.poll header control stream) s.thread.client).parentHeader) :
    Phase debuggerConfig.json (s.pass config (s.poll header control stream)) := by
  cases h with
  | fresh hheader hrequest htodo =>
      exact .fresh (by simp [DebugSystem.pass, hheader]) (by simp [DebugSystem.pass, hrequest])
        htodo
  | announcing text buffers hheader hrequest htodo hdump =>
      cases header with
      | true =>
          refine .announced buffers (by simp [DebugSystem.pass, DebugSystem.poll, hheader]) htodo ?_
          have htext : (s.poll true control stream).header = some text := by
            simp [DebugSystem.poll, hheader]
          change _ = Except.ok (s.thread.step (listening config) _).client.parentHeader
          rw [hparent, withHeader, htext]
          exact hdump
      | false =>
          exact .announcing text buffers (by simp [DebugSystem.pass, DebugSystem.poll, hheader])
            (by simp [DebugSystem.pass, hrequest]) htodo hdump
  | announced buffers hheader htodo hdump =>
      refine .announced buffers (by simp [DebugSystem.pass, hheader]) htodo ?_
      change _ = Except.ok (s.thread.step (listening config) _).client.parentHeader
      rw [hparent, withHeader_of_header_eq_none (poll_header_eq_none hheader ..)]
      exact hdump

/-- An event that is published under a header that is not empty carries it. -/
theorem carriesHeader_of_publication {header event : Json} {text : Bytes} {wireMsg : Multipart}
    (hdump : debuggerConfig.json.dump .strict header = .ok text) (htext : text ≠ [])
    (h : publication config text event = .ok wireMsg) :
    CarriesHeader debuggerConfig config header wireMsg := by
  rw [publication, if_neg htext] at h
  cases hparse : config.json.parse text with
  | error e => simp [hparse] at h
  | ok parent => exact ⟨text, parent, event, hdump, hparse, by simpa [hparse] using h⟩

theorem parented_step (config : Config) {thread : Thread} (hrunning : thread.status = .running)
    (poll : Poll) :
    Parented config (withHeader poll thread.client)
      (thread.step (listening config) (.ok poll)).client := by
  rw [client_of_pass (listening config) hrunning]
  exact @parented_pass (listening config) poll thread.client

theorem actions_withHeader (poll : Poll) (client : XDapTcpClient) :
    (withHeader poll client).actions = client.actions := by
  unfold withHeader
  split <;> rfl

theorem orderly_pass (hdumped : ∀ value, debuggerConfig.json.dump .strict value ≠ .ok [])
    (header control stream : Bool) {s : DebugSystem} (h : Orderly debuggerConfig config s)
    (hrunning : s.thread.status = .running) :
    Orderly debuggerConfig config (s.pass config (s.poll header control stream)) := by
  obtain ⟨hparent, new, hactions, hnew⟩ :=
    parented_step config hrunning (s.poll header control stream)
  rw [actions_withHeader] at hactions
  refine ⟨?_, phase_pass h.phase header control stream hparent, ?_, ?_, ?_⟩
  · intro hidle
    obtain ⟨htodo, hheader, hrequest⟩ := h.idle hidle
    exact ⟨htodo, by simp [DebugSystem.pass, hheader], by simp [DebugSystem.pass, hrequest]⟩
  · intro served hserved
    rw [dump_of_served h hserved, ← hparent]
    rfl
  · intro receipt hmem
    rcases List.mem_append.mp hmem with hmem | hmem
    · exact h.headers.receipts receipt hmem
    · obtain ⟨message, hmessage, rfl⟩ := List.mem_map.mp hmem
      exact dump_of_control h.phase (Option.isSome_of_mem (Option.mem_toList.mp hmessage))
  · intro served wireMsg hmem
    rcases List.mem_append.mp hmem with hmem | hmem
    · exact h.headers.publications served wireMsg hmem
    · obtain ⟨published, hpublished, heq⟩ := List.mem_map.mp hmem
      obtain ⟨hserved, rfl⟩ := by simpa using heq
      have hdump := dump_of_served h hserved
      rw [hactions, List.drop_left] at hpublished
      obtain ⟨event, hpublication⟩ := hnew _ hpublished
      exact carriesHeader_of_publication hdump
        (fun hnil => hdumped served (by rw [hdump, hnil])) hpublication

theorem orderly_step (hdumped : ∀ value, debuggerConfig.json.dump .strict value ≠ .ok [])
    {s : DebugSystem} (h : Orderly debuggerConfig config s) (event : DebugEvent) :
    Orderly debuggerConfig config (s.step debuggerConfig config event) := by
  cases event with
  | request request =>
      rw [DebugSystem.step]
      split
      · next hidle =>
          exact orderly_enter request h
            (Option.isNone_iff_eq_none.mp (Bool.and_eq_true_iff.mp hidle).1)
      · exact h
  | send =>
      rw [DebugSystem.step]
      split
      · next hreturned => exact orderly_send h hreturned
      · exact h
  | finish =>
      rw [DebugSystem.step]
      split
      · next hready =>
          obtain ⟨htodo, hreturned⟩ := Bool.and_eq_true_iff.mp (Bool.and_eq_true_iff.mp hready).1
          exact orderly_finish h (List.isEmpty_iff.mp htodo) hreturned
      · exact h
  | close =>
      rw [DebugSystem.step]
      unfold DebugSystem.close
      split
      · exact h.withDebugger _ _ _ _ _ _
      · exact h
  | start stream =>
      rw [DebugSystem.step]
      split
      · exact orderly_start stream h
      · exact h
  | pass header control stream =>
      rw [DebugSystem.step]
      split
      · next hrunning _ _ => exact orderly_pass hdumped header control stream h hrunning
      · exact h
  | interrupted num =>
      rw [DebugSystem.step]
      split
      · exact h.withThread _ s.enteredAfter (by rw [client_of_interrupted])
      · exact h
  | deliver =>
      rw [DebugSystem.step]
      unfold DebugSystem.deliver
      split_ifs
      · split
        · exact h.withDebugger _ _ _ _ _ _
        · exact h.withDebugger _ _ _ _ _ _
        · exact h
      · exact h
  | change =>
      rw [DebugSystem.step]
      unfold DebugSystem.change
      split
      · exact h.withDebugger _ _ _ _ _ _
      · exact h

theorem orderly_initial : Orderly debuggerConfig config .initial where
  idle _ := ⟨rfl, rfl, rfl⟩
  phase := .fresh rfl rfl (.inl rfl)
  serving _ h := nomatch h
  headers :=
    { receipts := fun _ h => nomatch h
      publications := fun _ _ h => nomatch h }

theorem orderly_run (hdumped : ∀ value, debuggerConfig.json.dump .strict value ≠ .ok [])
    (events : List DebugEvent) : Orderly debuggerConfig config (run debuggerConfig config events) :=
  Runs.run_induction _ (P := fun _ s => Orderly debuggerConfig config s) orderly_initial
    (fun _ event h => orderly_step hdumped h event) events

/-- However the two threads are interleaved, a request is received under the header of
its message, and the events that are published until the next header carry it. -/
theorem headersMatch_run (debuggerConfig : Debugger.Config) (config : Config)
    (hdumped : ∀ value, debuggerConfig.json.dump .strict value ≠ .ok [])
    (events : List DebugEvent) :
    HeadersMatch debuggerConfig config (run debuggerConfig config events) :=
  (orderly_run hdumped events).headers

end System

/-! A session whose first request is forwarded, with an event that is published while the
debugger serves it. -/

theorem flatJsonLibrary_dump_ne (value : Json) : flatJsonLibrary.dump .strict value ≠ .ok [] := by
  cases value with
  | object members =>
      simp only [flatJsonLibrary]
      split
      · split_ifs <;> simp [dumpObject]
      · rintro ⟨⟩
  | null | boolean | integer | float | string | array => rintro ⟨⟩

def publishingConfig : Config :=
  { tabledConfig [] with json := flatJsonLibrary }

def outputChunk : StreamChunk where
  identity := [0, 1, 2, 3, 4]
  content := dapFrame
    (dumpObject [(literal "type", literal "event"), (literal "event", literal "output")])

def servedSession : List DebugEvent :=
  [.request (flatRequest "initialize"), .start [outputChunk], .send, .pass true false false,
    .send, .pass false true false, .pass false false true]

theorem headersMatch_servedSession :
    HeadersMatch flatConfig publishingConfig (run flatConfig publishingConfig servedSession) :=
  headersMatch_run flatConfig publishingConfig flatJsonLibrary_dump_ne servedSession

set_option maxRecDepth 20000 in
example : ((run flatConfig publishingConfig servedSession).receipts.length,
    (run flatConfig publishingConfig servedSession).publications.length) = (1, 1) := by
  decide +kernel

end XeusZmq.DebugHeaders
