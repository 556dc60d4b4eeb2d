import XeusZmq.Debugger
import XeusZmq.Traces

/-!
What one request does to the session of `xdebugger_base`: to the flag, to the
breakpoints, and to the record of what was called and sent.
-/

namespace XeusZmq.DebuggerSession

open XeusZmq.Values
open XeusZmq.JsonAccess
open XeusZmq.DapFraming (dapFrame)
open XeusZmq.Commands
open XeusZmq.Runs
open XeusZmq.Traces
open XeusZmq.Debugger

def isHook : Action → Bool
  | .start _ => true
  | .stop => true
  | _ => false

def isSend : Action → Bool
  | .header _ => true
  | .request _ => true
  | _ => false

def isOutput : Action → Bool
  | .request _ => true
  | .write _ _ => true
  | _ => false

/-- A relation between states that holds for what the handlers of requests do. -/
structure HandlerFrame (R : XDebugger → XDebugger → Prop) : Prop where
  refl : ∀ s, R s s
  trans : ∀ s₁ s₂ s₃, R s₁ s₂ → R s₂ s₃ → R s₁ s₃
  outputs : ∀ s action, isOutput action = true →
    R s { s with actions := s.actions ++ [action] }

section HandlerFrame

variable {R : XDebugger → XDebugger → Prop} (h : HandlerFrame R)

include h

theorem HandlerFrame.keeps_pure {α : Type} (a : α) :
    Keeps R (pure a : Command XDebugger Failure α) :=
  h.refl

theorem HandlerFrame.keeps_get : Keeps R (get : Command XDebugger Failure XDebugger) :=
  h.refl

theorem HandlerFrame.keeps_fromExcept {α : Type} (x : Result α) :
    Keeps R (fromExcept x : Command XDebugger Failure α) :=
  Commands.keeps_fromExcept h.refl x

theorem HandlerFrame.keeps_bind {α β : Type} {c : Command XDebugger Failure α}
    {f : α → Command XDebugger Failure β} (hc : Keeps R c) (hf : ∀ a, Keeps R (f a)) :
    Keeps R (c >>= f) :=
  Commands.keeps_bind (R := R) (h.trans _ _ _) hc hf

theorem HandlerFrame.keeps_record {action : Action} (haction : isOutput action = true) :
    Keeps R (record action) :=
  fun s => h.outputs s action haction

theorem HandlerFrame.keeps_field (request : Request) (key : String) :
    Keeps R (field request key) :=
  h.keeps_fromExcept _

theorem HandlerFrame.keeps_debugInfoRequest (config : Config) (request : Request) :
    Keeps R (debugInfoRequest config request) :=
  h.keeps_bind h.keeps_get fun _ => h.keeps_bind (h.keeps_field request _) fun _ =>
    h.keeps_bind (h.keeps_field request _) fun _ => h.keeps_pure _

theorem HandlerFrame.keeps_dumpCellRequest (config : Config) (request : Request) :
    Keeps R (dumpCellRequest config request) := by
  refine h.keeps_bind (h.keeps_fromExcept _) fun code => ?_
  have hreply : Keeps R (do
      let requestSeq ← field request "seq"
      let command ← field request "command"
      return response requestSeq command true
        (.object [(literal "sourcePath", .string (config.cellTemporaryFile code))])) :=
    h.keeps_bind (h.keeps_field request _) fun _ =>
      h.keeps_bind (h.keeps_field request _) fun _ => h.keeps_pure _
  dsimp only
  split
  · exact h.keeps_bind (h.keeps_record rfl) fun _ => hreply
  · exact hreply

theorem HandlerFrame.keeps_forwardMessage (config : Config) (request : Request) :
    Keeps R (forwardMessage config request) :=
  h.keeps_bind (h.keeps_fromExcept _) fun _ =>
    h.keeps_bind
      (h.keeps_bind (h.keeps_record rfl) fun _ => h.keeps_fromExcept _)
      fun _ => h.keeps_fromExcept _

theorem HandlerFrame.keeps_sourceRequest (request : Request) : Keeps R (sourceRequest request) := by
  refine h.keeps_bind (h.keeps_fromExcept _) fun path =>
    h.keeps_bind (h.keeps_field request _) fun _ =>
      h.keeps_bind (h.keeps_field request _) fun _ => ?_
  cases request.openFile path with
  | none => exact h.keeps_pure _
  | some content => exact h.keeps_pure _

theorem HandlerFrame.keeps_stackTraceRequest (config : Config) (request : Request) :
    Keeps R (stackTraceRequest config request) :=
  h.keeps_bind (h.keeps_forwardMessage config request) fun _ => h.keeps_fromExcept _

theorem HandlerFrame.keeps_variablesRequest (config : Config) (request : Request) :
    Keeps R (variablesRequest config request) :=
  h.keeps_bind (h.keeps_forwardMessage config request) fun _ => h.keeps_fromExcept _

theorem HandlerFrame.keeps_setBreakpointsRequest
    (hset : ∀ s list, R s { s with breakpointList := list }) (config : Config)
    (request : Request) : Keeps R (setBreakpointsRequest config request) :=
  h.keeps_bind (h.keeps_fromExcept _) fun _ =>
    h.keeps_bind (fun s => hset s _) fun _ =>
      h.keeps_bind (h.keeps_field request _) fun _ =>
        h.keeps_bind (h.keeps_fromExcept _) fun _ =>
          h.keeps_bind (fun s => hset s _) fun _ => h.keeps_forwardMessage config request

theorem HandlerFrame.keeps_startedHandler {config : Config} {request : Request} {name : Bytes}
    {handler : Request → Handler}
    (hset : name = literal "setBreakpoints" → ∀ s list, R s { s with breakpointList := list })
    (hlookup : (startedHandler config).lookup name = some handler) :
    Keeps R (handler request) := by
  have hmem := OrderedMap.mem_of_lookup hlookup
  simp only [startedHandler, List.mem_cons, Prod.mk.injEq, List.not_mem_nil, or_false] at hmem
  rcases hmem with ⟨-, rfl⟩ | ⟨hname, rfl⟩ | ⟨-, rfl⟩ | ⟨-, rfl⟩ | ⟨-, rfl⟩
  · exact h.keeps_dumpCellRequest config request
  · exact h.keeps_setBreakpointsRequest (hset hname) config request
  · exact h.keeps_sourceRequest request
  · exact h.keeps_stackTraceRequest config request
  · exact h.keeps_variablesRequest config request

end HandlerFrame

/-- A relation between states that holds for every command that calls neither hook
and leaves the session as it is. -/
structure Frame (R : XDebugger → XDebugger → Prop) : Prop where
  refl : ∀ s, R s s
  trans : ∀ s₁ s₂ s₃, R s₁ s₂ → R s₂ s₃ → R s₁ s₃
  records : ∀ s action, isHook action = false →
    R s { s with actions := s.actions ++ [action] }

section Frame

variable {R : XDebugger → XDebugger → Prop} (h : Frame R)

include h

theorem Frame.handler : HandlerFrame R where
  refl := h.refl
  trans := h.trans
  outputs s action houtput := h.records s action (by cases action <;> simp_all [isOutput, isHook])

theorem Frame.keeps_sendRecvHeader (config : Config) (request : Request) :
    Keeps R (sendRecvHeader config request) :=
  h.handler.keeps_bind (h.handler.keeps_fromExcept _) fun _ =>
    h.handler.keeps_bind (fun s => h.records s _ rfl) fun _ => h.handler.keeps_fromExcept _

theorem Frame.keeps_callHandler {config : Config} {request : Request} {name : Bytes}
    (hset : name = literal "setBreakpoints" → ∀ s list, R s { s with breakpointList := list })
    (reply : Json) : Keeps R (callHandler config request reply name) := by
  unfold callHandler
  cases hrequest : (requestHandler config).lookup name with
  | some handler =>
      have hmem := OrderedMap.mem_of_lookup hrequest
      obtain ⟨-, rfl⟩ := by simpa [requestHandler] using hmem
      exact h.handler.keeps_debugInfoRequest config request
  | none =>
      refine h.handler.keeps_bind h.handler.keeps_get fun s => ?_
      split
      · refine h.handler.keeps_bind (h.keeps_sendRecvHeader config request) fun _ => ?_
        unfold callStartedHandler
        cases hstarted : (startedHandler config).lookup name with
        | some handler => exact h.handler.keeps_startedHandler hset hstarted
        | none => exact h.handler.keeps_forwardMessage config request
      · exact h.handler.keeps_pure reply

end Frame

def commandName (request : Request) : Option Bytes :=
  match constIndex request.message (literal "command") with
  | .ok (.string name) => some name
  | _ => none

theorem constIndex_of_commandName {request : Request} {name : Bytes}
    (hcommand : commandName request = some name) :
    constIndex request.message (literal "command") = .ok (.string name) := by
  unfold commandName at hcommand
  split at hcommand
  · next heq => rw [heq, Option.some.inj hcommand]
  · cases hcommand

theorem exec_debugInfoRequest_state (config : Config) (request : Request) (s : XDebugger) :
    (exec (debugInfoRequest config request) s).2 = s := by
  simp only [debugInfoRequest, field, exec_bind, exec_get, exec_fromExcept]
  cases constIndex request.message (literal "seq") with
  | error e => rfl
  | ok requestSeq =>
      cases constIndex request.message (literal "command") <;> rfl

theorem exec_handle_of_commandName {request : Request} {name : Bytes}
    (hcommand : commandName request = some name) (config : Config) (reply : Json)
    (s : XDebugger) :
    exec (handle config request reply) s = exec (callHandler config request reply name) s := by
  simp only [handle, field, exec_bind, exec_fromExcept, constIndex_of_commandName hcommand,
    getString, liftJson_ok]

theorem exec_handle_of_no_commandName {request : Request}
    (hcommand : commandName request = none) (config : Config) (reply : Json) (s : XDebugger) :
    (exec (handle config request reply) s).2 = s := by
  simp only [handle, field, exec_bind, exec_fromExcept]
  unfold commandName at hcommand
  cases hindex : constIndex request.message (literal "command") with
  | error e => rfl
  | ok command =>
      cases command with
      | string name => simp [hindex] at hcommand
      | _ => rfl

def returnsTrue : Except Exception Bool → Bool
  | .ok started => started
  | .error _ => false

/-- The state in which the handler of the request is called. -/
def opened (request : Request) (s : XDebugger) : XDebugger :=
  if commandName request = some (literal "initialize") ∧ s.isStarted = false then
    { s with
      isStarted := returnsTrue request.start
      actions := s.actions ++ [.start request.start] }
  else s

theorem opened_of_ne {request : Request}
    (hcommand : commandName request ≠ some (literal "initialize")) (s : XDebugger) :
    opened request s = s :=
  if_neg fun h => hcommand h.1

def closed (s : XDebugger) : XDebugger where
  isStarted := false
  breakpointList := []
  stoppedThreads := []
  actions := s.actions ++ [.stop]

theorem isText_literal {request : Request} {command : Json}
    (hindex : constIndex request.message (literal "command") = .ok command) (text : String) :
    isText command (literal text) = true ↔ commandName request = some (literal text) := by
  cases command <;> simp [commandName, hindex, isText]

theorem exec_startIfInitialize (request : Request) (s : XDebugger) :
    (exec (startIfInitialize request) s).2 = opened request s := by
  cases hindex : constIndex request.message (literal "command") with
  | error e =>
      have hcommand : commandName request = none := by simp [commandName, hindex]
      simp [startIfInitialize, field, exec_bind, hindex, opened, hcommand]
  | ok command =>
      simp only [startIfInitialize, field, exec_bind, exec_fromExcept, hindex]
      by_cases hcommand : isText command (literal "initialize") = true
      · have hname := (isText_literal hindex "initialize").mp hcommand
        rw [if_pos hcommand]
        cases hs : s.isStarted
        · rcases hstart : request.start with e | started
          · simp [record, exec_bind, hs, hstart, opened, hname, lift, returnsTrue]
          · cases started <;>
              simp [record, exec_bind, hs, hstart, opened, hname, lift, returnsTrue]
        · simp [exec_bind, hs, opened]
      · have hname := mt (isText_literal hindex "initialize").mpr hcommand
        rw [if_neg hcommand]
        simp [opened, hname]

theorem exec_startIfInitialize_of_ne {request : Request} {name : Bytes}
    (hcommand : commandName request = some name) (hname : name ≠ literal "initialize")
    (s : XDebugger) : exec (startIfInitialize request) s = (.ok (.object []), s) := by
  simp [startIfInitialize, field, exec_bind, constIndex_of_commandName hcommand, isText, hname]

theorem exec_stopIfDisconnect {request : Request}
    (hcommand : commandName request = some (literal "disconnect")) (s : XDebugger) :
    exec (stopIfDisconnect request) s = (.ok ⟨⟩, closed s) := by
  simp [stopIfDisconnect, field, exec_bind, constIndex_of_commandName hcommand, isText, record,
    closed]

theorem exec_stopIfDisconnect_of_name {request : Request} {name : Bytes}
    (hcommand : commandName request = some name) (hname : name ≠ literal "disconnect")
    (s : XDebugger) : exec (stopIfDisconnect request) s = (.ok ⟨⟩, s) := by
  simp [stopIfDisconnect, field, exec_bind, constIndex_of_commandName hcommand, isText, hname]

theorem exec_stopIfDisconnect_of_ne {request : Request}
    (hcommand : commandName request ≠ some (literal "disconnect")) (s : XDebugger) :
    (exec (stopIfDisconnect request) s).2 = s := by
  cases hindex : constIndex request.message (literal "command") with
  | error e => simp [stopIfDisconnect, field, exec_bind, hindex]
  | ok command =>
      have htext := mt (isText_literal hindex "disconnect").mp hcommand
      simp [stopIfDisconnect, field, exec_bind, hindex, htext]

/-- No hook is called, and the flag stays as it is. -/
def Quiet (s s' : XDebugger) : Prop :=
  s'.isStarted = s.isStarted ∧
    ∃ log, s'.actions = s.actions ++ log ∧ ∀ action ∈ log, isHook action = false

theorem frame_quiet : Frame Quiet where
  refl s := ⟨rfl, [], by simp, by simp⟩
  trans := by
    rintro s₁ s₂ s₃ ⟨hstarted, log, hlog, hquiet⟩ ⟨hstarted', log', hlog', hquiet'⟩
    refine ⟨hstarted'.trans hstarted, log ++ log', by simp [hlog', hlog], ?_⟩
    intro action haction
    rcases List.mem_append.mp haction with haction | haction
    · exact hquiet action haction
    · exact hquiet' action haction
  records s action haction := ⟨rfl, [action], rfl, by simpa using haction⟩

def SameBreakpoints (s s' : XDebugger) : Prop :=
  s'.breakpointList = s.breakpointList

theorem frame_sameBreakpoints : Frame SameBreakpoints where
  refl _ := rfl
  trans _ _ _ h h' := h'.trans h
  records _ _ _ := rfl

theorem Frame.keeps_handle {R : XDebugger → XDebugger → Prop} (h : Frame R) {request : Request}
    (hset : commandName request = some (literal "setBreakpoints") →
      ∀ s list, R s { s with breakpointList := list })
    (config : Config) (reply : Json) : Keeps R (handle config request reply) := by
  intro s
  cases hname : commandName request with
  | none =>
      rw [exec_handle_of_no_commandName hname]
      exact h.refl s
  | some name =>
      rw [exec_handle_of_commandName hname]
      exact h.keeps_callHandler (fun hsets => hset (hsets ▸ hname)) reply s

theorem quiet_handle (config : Config) (request : Request) (reply : Json) (s : XDebugger) :
    Quiet s (exec (handle config request reply) s).2 :=
  frame_quiet.keeps_handle (fun _ s list => ⟨rfl, [], by simp, by simp⟩) config reply s

theorem sameBreakpoints_handle {request : Request}
    (hcommand : commandName request ≠ some (literal "setBreakpoints")) (config : Config)
    (reply : Json) (s : XDebugger) :
    SameBreakpoints s (exec (handle config request reply) s).2 :=
  frame_sameBreakpoints.keeps_handle (fun hset => absurd hset hcommand) config reply s

/-- While the debugger is not started, the handlers do nothing but answer. -/
theorem exec_handle_of_not_started (config : Config) (request : Request) (reply : Json)
    {s : XDebugger} (hs : s.isStarted = false) :
    (exec (handle config request reply) s).2 = s := by
  cases hcommand : commandName request with
  | none => exact exec_handle_of_no_commandName hcommand config reply s
  | some name =>
      rw [exec_handle_of_commandName hcommand, callHandler]
      cases hrequest : (requestHandler config).lookup name with
      | some handler =>
          have hmem := OrderedMap.mem_of_lookup hrequest
          obtain ⟨-, rfl⟩ := by simpa [requestHandler] using hmem
          exact exec_debugInfoRequest_state config request s
      | none => simp [exec_bind, hs]

/-- The states in which the handler of the request can leave the debugger. -/
def Handled (config : Config) (request : Request) (s handled : XDebugger) : Prop :=
  handled = s ∨ ∃ reply, handled = (exec (handle config request reply) s).2

theorem quiet_of_handled {config : Config} {request : Request} {s handled : XDebugger}
    (h : Handled config request s handled) : Quiet s handled := by
  rcases h with rfl | ⟨reply, rfl⟩
  · exact frame_quiet.refl handled
  · exact quiet_handle config request reply s

theorem handled_of_not_started {config : Config} {request : Request} {s handled : XDebugger}
    (h : Handled config request s handled) (hs : s.isStarted = false) : handled = s := by
  rcases h with rfl | ⟨reply, rfl⟩
  · rfl
  · exact exec_handle_of_not_started config request reply hs

theorem sameBreakpoints_of_handled {config : Config} {request : Request}
    {s handled : XDebugger} (h : Handled config request s handled)
    (hcommand : commandName request ≠ some (literal "setBreakpoints")) :
    SameBreakpoints s handled := by
  rcases h with rfl | ⟨reply, rfl⟩
  · exact frame_sameBreakpoints.refl handled
  · exact sameBreakpoints_handle hcommand config reply s

/-- What `process_request_impl` does when `start()` has been called, if at all. -/
def processStarted (config : Config) (request : Request) (reply : Json) : Handler := do
  let reply ← handle config request reply
  stopIfDisconnect request
  return reply

theorem processRequestImpl_eq (config : Config) (request : Request) :
    processRequestImpl config request =
      startIfInitialize request >>= processStarted config request :=
  rfl

theorem exec_processStarted_cases (config : Config) (request : Request) (reply : Json)
    (s : XDebugger) :
    (exec (processStarted config request reply) s).2 = (exec (handle config request reply) s).2 ∨
      commandName request = some (literal "disconnect") ∧
        (exec (processStarted config request reply) s).2 =
          closed (exec (handle config request reply) s).2 := by
  rw [processStarted, exec_bind]
  generalize exec (handle config request reply) s = outcome
  rcases outcome with ⟨result, handled⟩
  cases result with
  | error e => exact .inl rfl
  | ok reply =>
      dsimp only
      rw [exec_bind]
      by_cases hcommand : commandName request = some (literal "disconnect")
      · rw [exec_stopIfDisconnect hcommand]
        exact .inr ⟨hcommand, rfl⟩
      · have hstop := exec_stopIfDisconnect_of_ne hcommand handled
        generalize exec (stopIfDisconnect request) handled = outcome at hstop ⊢
        rcases outcome with ⟨result, stopped⟩
        obtain rfl : stopped = handled := hstop
        cases result <;> exact .inl rfl

/-- What a request can do to the state. -/
theorem exec_processRequestImpl_cases (config : Config) (request : Request) (s : XDebugger) :
    ∃ handled, Handled config request (opened request s) handled ∧
      ((exec (processRequestImpl config request) s).2 = handled ∨
        commandName request = some (literal "disconnect") ∧
          (exec (processRequestImpl config request) s).2 = closed handled) := by
  have hopened := exec_startIfInitialize request s
  rw [processRequestImpl_eq, exec_bind]
  generalize exec (startIfInitialize request) s = outcome at hopened ⊢
  rcases outcome with ⟨result, s₁⟩
  cases result with
  | error e => exact ⟨s₁, .inl hopened, .inl rfl⟩
  | ok reply =>
      obtain rfl : s₁ = opened request s := hopened
      exact ⟨_, .inr ⟨reply, rfl⟩, exec_processStarted_cases config request reply _⟩

def HeaderReturns (config : Config) (request : Request) : Prop :=
  (∃ text, config.json.dump .strict request.header = .ok text) ∧
    ∃ ack, request.sendRecvHeader = .ok ack

def MessageReturns (config : Config) (request : Request) : Prop :=
  ∃ content reply json, config.json.dump .strict request.message = .ok content ∧
    request.sendRecvRequest (dapFrame content) = .ok reply ∧ config.json.parse reply = .ok json

theorem exec_sendRecvHeader {config : Config} {request : Request}
    (hheader : HeaderReturns config request) (s : XDebugger) :
    ∃ text ack, exec (sendRecvHeader config request) s =
      (.ok ack, { s with actions := s.actions ++ [.header text] }) := by
  obtain ⟨⟨text, htext⟩, ack, hack⟩ := hheader
  exact ⟨text, ack, by simp [sendRecvHeader, record, exec_bind, htext, hack]⟩

theorem exec_forwardMessage {config : Config} {request : Request}
    (hmessage : MessageReturns config request) (s : XDebugger) :
    ∃ buffer json, exec (forwardMessage config request) s =
      (.ok json, { s with actions := s.actions ++ [.request buffer] }) := by
  obtain ⟨content, reply, json, hcontent, hreply, hjson⟩ := hmessage
  exact ⟨dapFrame content, json, by
    simp [forwardMessage, Debugger.sendRecvRequest, record, exec_bind, hcontent, hreply, hjson]⟩

/-- The value that `forward_message` returns is that of the framing model. -/
theorem exec_forwardMessage_result (config : Config) (request : Request) (s : XDebugger) :
    (exec (forwardMessage config request) s).1 =
      DapFraming.forwardMessage config.json request.sendRecvRequest request.message := by
  simp only [forwardMessage, Debugger.sendRecvRequest, record, DapFraming.forwardMessage, exec_bind,
    exec_fromExcept, exec_modify]
  cases config.json.dump .strict request.message with
  | error e => rfl
  | ok content =>
      simp only [liftJson_ok, ok_bind]
      cases request.sendRecvRequest (dapFrame content) <;> rfl

theorem exec_forwardMessage_bind (config : Config) (request : Request)
    (f : Json → Result Json) (s : XDebugger) :
    (exec (forwardMessage config request >>= fun reply => fromExcept (f reply)) s).1 =
      DapFraming.forwardMessage config.json request.sendRecvRequest request.message >>= f := by
  rw [← exec_forwardMessage_result config request s, exec_bind]
  rcases exec (forwardMessage config request) s with ⟨result, s'⟩
  cases result <;> rfl

/-- A started debugger that knows no handler for the command forwards the message. -/
theorem exec_callHandler_of_started {config : Config} {request : Request} {name : Bytes}
    (hrequest : (requestHandler config).lookup name = none)
    (hheader : HeaderReturns config request) (reply : Json) {s : XDebugger}
    (hs : s.isStarted = true) :
    ∃ text, exec (callHandler config request reply name) s =
      exec (callStartedHandler config request name)
        { s with actions := s.actions ++ [.header text] } := by
  obtain ⟨text, ack, hexec⟩ := exec_sendRecvHeader hheader s
  refine ⟨text, ?_⟩
  simp only [callHandler, hrequest, exec_bind, exec_get, hs, if_true, hexec]

theorem exec_processRequestImpl_of_ne {config : Config} {request : Request} {name : Bytes}
    (hcommand : commandName request = some name) (hname : name ≠ literal "initialize")
    (s : XDebugger) :
    exec (processRequestImpl config request) s =
      exec (callHandler config request (.object []) name >>= fun reply => do
        stopIfDisconnect request
        return reply) s := by
  rw [processRequestImpl, exec_bind, exec_startIfInitialize_of_ne hcommand hname]
  simp only [exec_bind, exec_handle_of_commandName hcommand]

theorem lookup_disconnect_requestHandler (config : Config) :
    (requestHandler config).lookup (literal "disconnect") = none := rfl

theorem lookup_disconnect_startedHandler (config : Config) :
    (startedHandler config).lookup (literal "disconnect") = none := rfl

/-- A disconnect request whose forwards return closes the session. -/
theorem exec_disconnect (config : Config) (s : XDebugger) {request : Request}
    (hcommand : commandName request = some (literal "disconnect"))
    (hforward : s.isStarted = true →
      HeaderReturns config request ∧ MessageReturns config request) :
    ∃ handled, Handled config request s handled ∧
      (exec (processRequestImpl config request) s).2 = closed handled := by
  have hreturns : ∃ reply handled,
      exec (callHandler config request (.object []) (literal "disconnect")) s =
        (.ok reply, handled) := by
    cases hs : s.isStarted with
    | false =>
        exact ⟨.object [], s, by
          simp [callHandler, exec_bind, hs, lookup_disconnect_requestHandler]⟩
    | true =>
        obtain ⟨hheader, hmessage⟩ := hforward hs
        obtain ⟨text, htext⟩ := exec_callHandler_of_started
          (lookup_disconnect_requestHandler config) hheader (.object []) hs
        obtain ⟨buffer, json, hbuffer⟩ := exec_forwardMessage hmessage
          { s with actions := s.actions ++ [.header text] }
        rw [callStartedHandler, lookup_disconnect_startedHandler] at htext
        exact ⟨json, _, htext.trans hbuffer⟩
  obtain ⟨reply, handled, hexec⟩ := hreturns
  refine ⟨handled, .inr ⟨.object [], ?_⟩, ?_⟩
  · rw [exec_handle_of_commandName hcommand, hexec]
  · rw [exec_processRequestImpl_of_ne hcommand (by decide), exec_bind_of_ok hexec,
      exec_bind_of_ok (exec_stopIfDisconnect hcommand handled)]
    rfl

/-- A request that neither opens nor closes the session does what its handler does. -/
theorem exec_processRequestImpl_state {config : Config} {request : Request} {name : Bytes}
    (hcommand : commandName request = some name) (hopens : name ≠ literal "initialize")
    (hcloses : name ≠ literal "disconnect") (s : XDebugger) :
    (exec (processRequestImpl config request) s).2 =
      (exec (callHandler config request (.object []) name) s).2 := by
  rw [exec_processRequestImpl_of_ne hcommand hopens, exec_bind]
  generalize exec (callHandler config request (.object []) name) s = outcome
  rcases outcome with ⟨result, handled⟩
  cases result with
  | error e => rfl
  | ok reply =>
      dsimp only
      rw [exec_bind_of_ok (exec_stopIfDisconnect_of_name hcommand hcloses handled), exec_pure]

/-- What `setBreakpoints` reads: the path, and the elements of the array. -/
def breakpointArguments (message : Json) : Result (Bytes × List Json) := do
  let source ← constString message ["arguments", "source", "path"]
  let arguments ← constIndex message (literal "arguments")
  let bpJson ← constIndex arguments (literal "breakpoints")
  return (source, elements bpJson)

theorem constIndex_ne_exception {json value : Json} {key : Bytes}
    (hvalue : constIndex json key = .ok value) (other : Bytes) (e : Exception) :
    constIndex json other ≠ .error (.exception e) := by
  cases json with
  | object members =>
      simp only [constIndex]
      cases members.lookup other <;> simp
  | _ => simp [constIndex] at hvalue

/-- Once the path has been read, no exception keeps the breakpoints from being
read. -/
theorem breakpointArguments_exception {message : Json} {e : Exception}
    (h : breakpointArguments message = .error (.exception e)) :
    constString message ["arguments", "source", "path"] = .error (.exception e) := by
  unfold breakpointArguments at h
  rcases hpath : constString message ["arguments", "source", "path"] with e' | source
  · rw [hpath, error_bind] at h
    exact congrArg Except.error (Except.error.inj h)
  · obtain ⟨value, hvalue, -⟩ := bind_eq_ok.mp hpath
    obtain ⟨arguments, harguments, hvalue⟩ := bind_eq_ok.mp hvalue
    obtain ⟨sourceValue, hsource, -⟩ := bind_eq_ok.mp hvalue
    dsimp only at harguments hsource
    rw [hpath, ok_bind, harguments, ok_bind] at h
    cases hindex : constIndex arguments (literal "breakpoints") with
    | ok bpJson => rw [hindex] at h; cases h
    | error e' =>
        rw [hindex, error_bind] at h
        cases h
        exact absurd hindex (constIndex_ne_exception hsource _ e)

theorem setBreakpointsRequest_of_exception {config : Config} {request : Request}
    {e : Exception}
    (harguments : breakpointArguments request.message = .error (.exception e)) (s : XDebugger) :
    (exec (setBreakpointsRequest config request) s).2 = s := by
  simp [setBreakpointsRequest, exec_bind, breakpointArguments_exception harguments]

theorem setBreakpointsRequest_of_arguments {config : Config} {request : Request}
    {path : Bytes} {breakpoints : List Json}
    (harguments : breakpointArguments request.message = .ok (path, breakpoints))
    (s : XDebugger) :
    (exec (setBreakpointsRequest config request) s).2.breakpointList =
      OrderedMap.insert keyBefore path breakpoints
        (OrderedMap.erase path s.breakpointList) := by
  obtain ⟨source, hsource, hrest⟩ := bind_eq_ok.mp harguments
  obtain ⟨arguments, hindex, hrest⟩ := bind_eq_ok.mp hrest
  obtain ⟨bpJson, hbpJson, hpair⟩ := bind_eq_ok.mp hrest
  obtain ⟨rfl, rfl⟩ := Prod.mk.inj (Except.ok.inj hpair)
  simp only [setBreakpointsRequest, field, exec_bind, exec_fromExcept, hsource, exec_modify, hindex,
    hbpJson]
  exact frame_sameBreakpoints.handler.keeps_forwardMessage config request _

/-- The breakpoints of a started debugger after `setBreakpoints`. -/
def breakpointsAfter (message : Json) (list : List (Bytes × List Json)) :
    List (Bytes × List Json) :=
  match breakpointArguments message with
  | .ok (path, breakpoints) =>
      OrderedMap.insert keyBefore path breakpoints (OrderedMap.erase path list)
  | .error _ => list

theorem exec_setBreakpoints {config : Config} {request : Request} {s : XDebugger}
    (hcommand : commandName request = some (literal "setBreakpoints"))
    (hs : s.isStarted = true) (hheader : HeaderReturns config request)
    (hdefined : ∀ u, breakpointArguments request.message ≠ .error (.undefined u)) :
    (exec (processRequestImpl config request) s).2.breakpointList =
      breakpointsAfter request.message s.breakpointList := by
  obtain ⟨text, htext⟩ := exec_callHandler_of_started
    (show (requestHandler config).lookup (literal "setBreakpoints") = none from rfl) hheader
    (.object []) hs
  rw [exec_processRequestImpl_state hcommand (by decide) (by decide), htext]
  change (exec (setBreakpointsRequest config request) _).2.breakpointList = _
  rcases harguments : breakpointArguments request.message with (e | u) | ⟨path, breakpoints⟩
  · rw [setBreakpointsRequest_of_exception harguments, breakpointsAfter, harguments]
  · exact absurd harguments (hdefined u)
  · rw [setBreakpointsRequest_of_arguments harguments, breakpointsAfter, harguments]

/-- A property of commands that `handle_event` has when its parts have it. -/
structure EventRules (P : ∀ {α : Type}, Command XDebugger Failure α → Prop) : Prop where
  fromExcept : ∀ {α : Type} (x : Result α), P (fromExcept x)
  threads : ∀ f : XDebugger → List Int,
    P (modify fun s => { s with stoppedThreads := f s } : Command XDebugger Failure PUnit)
  bind : ∀ {α β : Type} {c : Command XDebugger Failure α} {f : α → Command XDebugger Failure β},
    P c → (∀ a, P (f a)) → P (c >>= f)

section EventRules

variable {P : ∀ {α : Type}, Command XDebugger Failure α → Prop} (h : EventRules P)

include h

theorem EventRules.unit : P (pure ⟨⟩ : Command XDebugger Failure PUnit) :=
  h.fromExcept (.ok PUnit.unit : Result PUnit)

theorem EventRules.stopThreads (ids : List Json) : P (stopThreads ids) := by
  induction ids with
  | nil => exact h.unit
  | cons id ids ih => exact h.bind (h.bind (h.fromExcept _) fun _ => h.threads _) fun _ => ih

theorem EventRules.continuedEvent (message : Json) : P (continuedEvent message) := by
  refine h.bind (h.fromExcept _) fun body => h.bind (h.fromExcept _) fun all => ?_
  refine h.bind (h.fromExcept _) fun continues => ?_
  split
  · exact h.threads _
  · exact h.bind (h.fromExcept _) fun _ => h.threads _

theorem EventRules.stoppedEvent (message : Json) : P (stoppedEvent message) := by
  refine h.bind (h.fromExcept _) fun body => h.bind (h.fromExcept _) fun all => ?_
  refine h.bind (h.fromExcept _) fun stops => ?_
  split
  · exact h.bind (h.fromExcept _) fun ids => h.stopThreads _
  · exact h.bind (h.fromExcept _) fun _ => h.threads _

theorem EventRules.handleEvent (message : Json) : P (handleEvent message) := by
  refine h.bind (h.fromExcept _) fun event => h.bind (h.fromExcept _) fun name => ?_
  cases hlookup : eventHandler.lookup name with
  | none => exact h.unit
  | some handler =>
      have hmem := OrderedMap.mem_of_lookup hlookup
      simp only [eventHandler, List.mem_cons, Prod.mk.injEq, List.not_mem_nil, or_false] at hmem
      rcases hmem with ⟨-, rfl⟩ | ⟨-, rfl⟩
      · exact h.continuedEvent message
      · exact h.stoppedEvent message

end EventRules

/-- The events of the debugger only touch the stopped threads. -/
def OnlyThreads (s s' : XDebugger) : Prop :=
  ∃ threads, s' = { s with stoppedThreads := threads }

theorem OnlyThreads.refl (s : XDebugger) : OnlyThreads s s :=
  ⟨s.stoppedThreads, rfl⟩

theorem eventRules_onlyThreads : EventRules fun {_} c => Keeps OnlyThreads c where
  fromExcept x := keeps_fromExcept .refl x
  threads f s := ⟨f s, rfl⟩
  bind hc hf := by
    apply keeps_bind _ hc hf
    rintro s₁ s₂ s₃ ⟨threads, rfl⟩ ⟨threads', rfl⟩
    exact ⟨threads', rfl⟩

theorem onlyThreads_handleEvent (message : Json) : Keeps OnlyThreads (handleEvent message) :=
  eventRules_onlyThreads.handleEvent message

end XeusZmq.DebuggerSession
