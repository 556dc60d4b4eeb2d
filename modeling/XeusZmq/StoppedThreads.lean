import XeusZmq.DebugThreads
import XeusZmq.DebuggerHistory
import XeusZmq.TabledJson

/-!
The stopped threads from one session to the next: what a request leaves of them, and
what the events add that the client still delivers.
-/

namespace XeusZmq.StoppedThreads

open XeusZmq.Values
open XeusZmq.JsonAccess
open XeusZmq.DapFraming
open XeusZmq.Commands
open XeusZmq.Runs
open XeusZmq.Debugger
open XeusZmq.DebuggerSession
open XeusZmq.DebugThreads

/-! What the handler of an event adds. -/

/-- The threads that the handler of the event inserts. -/
def namedThreads (message : Json) : List Int :=
  (threadChanges message).filterMap fun change =>
    match change with
    | .insert id => some id
    | _ => none

theorem mem_namedThreads {message : Json} {id : Int} :
    id ∈ namedThreads message ↔ .insert id ∈ threadChanges message := by
  rw [namedThreads, List.mem_filterMap]
  constructor
  · rintro ⟨change, hmem, hid⟩
    cases change with
    | insert other =>
        obtain rfl := Option.some.inj hid
        exact hmem
    | erase | clear => cases hid
  · exact fun hmem => ⟨.insert id, hmem, rfl⟩

theorem mem_insertThread {id other : Int} {threads : List Int} :
    other ∈ insertThread id threads ↔ other = id ∨ other ∈ threads := by
  unfold insertThread
  split
  · next hmem =>
      constructor
      · exact .inr
      · rintro (rfl | h)
        · exact hmem
        · exact h
  · exact List.mem_orderedInsert _

theorem mem_apply {id : Int} {change : ThreadChange} {s : XDebugger}
    (h : id ∈ (change.apply s).stoppedThreads) : id ∈ s.stoppedThreads ∨ change = .insert id := by
  cases change with
  | insert other =>
      rcases mem_insertThread.mp h with rfl | hmem
      · exact .inr rfl
      · exact .inl hmem
  | erase other => exact .inl (List.mem_of_mem_erase h)
  | clear => cases h

theorem actions_apply (change : ThreadChange) (s : XDebugger) :
    (change.apply s).actions = s.actions := by
  cases change <;> rfl

theorem isStarted_apply (change : ThreadChange) (s : XDebugger) :
    (change.apply s).isStarted = s.isStarted := by
  cases change <;> rfl

/-! The end of a session. -/

/-- A `disconnect` has been finished, and no `initialize` has succeeded since. -/
def closedAfter (log : List Action) : Bool :=
  log.foldl
    (fun closed action =>
      match action with
      | .stop => true
      | .start (.ok true) => false
      | _ => closed)
    false

theorem closedAfter_append_of_quiet {actions log : List Action}
    (hquiet : ∀ action ∈ log, isHook action = false) :
    closedAfter (actions ++ log) = closedAfter actions := by
  rw [closedAfter, List.foldl_append, ← closedAfter]
  induction log with
  | nil => rfl
  | cons action log ih =>
      have hhook := hquiet action List.mem_cons_self
      have hrest : ∀ other ∈ log, isHook other = false := fun other hother =>
        hquiet other (List.mem_cons_of_mem _ hother)
      rw [List.foldl_cons]
      cases action with
      | header | request | write => exact ih hrest
      | start | stop => cases hhook

theorem isStarted_of_opened {request : Request} {s : XDebugger}
    (h : (opened request s).isStarted = false) : s.isStarted = false := by
  unfold opened at h
  split at h
  · next hopens => exact hopens.2
  · exact h

/-- An `initialize` that does not succeed leaves the end of the session what it was. -/
theorem closed_of_opened {request : Request} {s : XDebugger}
    (h : closedAfter (opened request s).actions = true) :
    closedAfter s.actions = true ∧ (opened request s).isStarted = s.isStarted := by
  unfold opened at h ⊢
  split at h
  · next hopens =>
      rw [if_pos hopens, hopens.2]
      rw [closedAfter, List.foldl_append, ← closedAfter] at h
      rcases hstart : request.start with e | started
      · exact ⟨by simpa [hstart] using h, rfl⟩
      · cases started <;> simp_all [returnsTrue]
  · next hopens =>
      rw [if_neg hopens]
      exact ⟨h, rfl⟩

theorem stoppedThreads_opened (request : Request) (s : XDebugger) :
    (opened request s).stoppedThreads = s.stoppedThreads := by
  unfold opened
  split <;> rfl

theorem frame_sameThreads : Frame fun s s' => s'.stoppedThreads = s.stoppedThreads where
  refl _ := rfl
  trans _ _ _ h h' := h'.trans h
  records _ _ _ := rfl

theorem stoppedThreads_handle (config : Debugger.Config) (request : Request) (reply : Json)
    (s : XDebugger) :
    (exec (handle config request reply) s).2.stoppedThreads = s.stoppedThreads :=
  frame_sameThreads.keeps_handle (fun _ _ _ => rfl) config reply s

/-! What is left of the threads. -/

/-- The debugger has been started, and the set of a session that a `disconnect` ends has not
been cleared. -/
def inSession (s : DebugSystem) : Bool :=
  s.debugger.isStarted && (s.closing.isEmpty || s.closing.contains .clearStoppedThreads)

/-- No thread is stopped between two sessions, and in a session those that its own events
have named. -/
structure OfSession (s : DebugSystem) : Prop where
  empty : closedAfter s.debugger.actions = true → s.closing = [] → s.debugger.stoppedThreads = []
  named : ∀ id ∈ s.debugger.stoppedThreads, ∃ message,
    (s.ended, message) ∈ s.delivered ∧ id ∈ namedThreads message

/-- The threads that are stopped, and those that the handler of an event still inserts. -/
def Stops (s : DebugSystem) (id : Int) : Prop :=
  id ∈ s.debugger.stoppedThreads ∨ .insert id ∈ s.handling

structure Apart (s : DebugSystem) : Prop where
  closing : s.closing <:+ [.stop, .clearBreakpoints, .clearStoppedThreads, .reset]
  idle : s.current ≠ none → s.closing = []
  ended : closedAfter s.debugger.actions = true → s.closing = [] → s.debugger.isStarted = false
  outside : inSession s = false → ∀ id, ¬ Stops s id
  named : ∀ id, Stops s id → ∃ message,
    (s.ended, message) ∈ s.delivered ∧ id ∈ namedThreads message

theorem Apart.ofSession {s : DebugSystem} (h : Apart s) : OfSession s where
  empty hclosed hclosing := by
    have houtside : inSession s = false := by
      rw [inSession, h.ended hclosed hclosing, Bool.false_and]
    exact List.eq_nil_iff_forall_not_mem.mpr fun id hid => h.outside houtside id (.inl hid)
  named id hid := h.named id (.inl hid)

/-- Where the set is not touched, and no thread is still to be inserted, either. -/
theorem Apart.of_kept {s s' : DebugSystem} (h : Apart s)
    (hclosing : s'.closing <:+ [.stop, .clearBreakpoints, .clearStoppedThreads, .reset])
    (hidle : s'.current ≠ none → s'.closing = [])
    (hover : closedAfter s'.debugger.actions = true → s'.closing = [] →
      s'.debugger.isStarted = false)
    (houtside : inSession s' = false → inSession s = false)
    (hthreads : s'.debugger.stoppedThreads = s.debugger.stoppedThreads)
    (hhandling : s'.handling = s.handling) (hended : s'.ended = s.ended)
    (hdelivered : s'.delivered = s.delivered) : Apart s' where
  closing := hclosing
  idle := hidle
  ended := hover
  outside := by
    intro hnot id
    rw [Stops, hthreads, hhandling]
    exact h.outside (houtside hnot) id
  named id := by
    rw [Stops, hthreads, hhandling, hended, hdelivered]
    exact h.named id

theorem Apart.of_same {s s' : DebugSystem} (h : Apart s) (hdebugger : s'.debugger = s.debugger)
    (hcurrent : s'.current = s.current) (hclosing : s'.closing = s.closing)
    (hhandling : s'.handling = s.handling) (hended : s'.ended = s.ended)
    (hdelivered : s'.delivered = s.delivered) : Apart s' := by
  refine h.of_kept (hclosing ▸ h.closing) ?_ ?_ ?_ (by rw [hdebugger]) hhandling hended hdelivered
  · rw [hcurrent, hclosing]
    exact h.idle
  · rw [hdebugger, hclosing]
    exact h.ended
  · rw [inSession, inSession, hdebugger, hclosing]
    exact id

theorem inSession_of_closing_eq_nil {s : DebugSystem} (h : s.closing = []) :
    inSession s = s.debugger.isStarted := by
  rw [inSession, h]
  exact Bool.and_true _

/-- Where no session is being closed, the flag tells. -/
theorem Apart.of_idle {s s' : DebugSystem} (h : Apart s) (hidle : s.closing = [])
    (hclosing : s'.closing = [])
    (hover : closedAfter s'.debugger.actions = true → s'.debugger.isStarted = false)
    (hstarted : s'.debugger.isStarted = false → s.debugger.isStarted = false)
    (hthreads : s'.debugger.stoppedThreads = s.debugger.stoppedThreads)
    (hhandling : s'.handling = s.handling) (hended : s'.ended = s.ended)
    (hdelivered : s'.delivered = s.delivered) : Apart s' := by
  refine h.of_kept (hclosing ▸ List.nil_suffix) (fun _ => hclosing)
    (fun hclosed _ => hover hclosed) ?_ hthreads hhandling hended hdelivered
  rw [inSession_of_closing_eq_nil hclosing, inSession_of_closing_eq_nil hidle]
  exact hstarted

theorem apart_enter (config : Debugger.Config) (request : Request) {s : DebugSystem}
    (h : Apart s) (hidle : s.closing = []) : Apart (s.enter config request) := by
  have hopened := exec_startIfInitialize request s.debugger
  have hover (hclosed : closedAfter (opened request s.debugger).actions = true) :
      (opened request s.debugger).isStarted = false := by
    obtain ⟨hbefore, hstarted⟩ := closed_of_opened hclosed
    exact hstarted.trans (h.ended hbefore hidle)
  unfold DebugSystem.enter
  generalize exec (startIfInitialize request) s.debugger = outcome at hopened
  rcases outcome with ⟨result, debugger⟩
  obtain rfl : debugger = opened request s.debugger := hopened
  cases result <;>
    exact h.of_idle hidle hidle hover isStarted_of_opened (stoppedThreads_opened _ _) rfl rfl rfl

theorem apart_finish (config : Debugger.Config) {s : DebugSystem} (h : Apart s) :
    Apart (s.finish config) := by
  unfold DebugSystem.finish
  cases hcurrent : s.current with
  | none => exact h
  | some entered =>
      obtain ⟨request, reply⟩ := entered
      have hidle : s.closing = [] := h.idle (by simp [hcurrent])
      obtain ⟨hstarted, log, hlog, hquiet⟩ := quiet_handle config request reply s.debugger
      have hthreads := stoppedThreads_handle config request reply s.debugger
      have hover : closedAfter (exec (handle config request reply) s.debugger).2.actions = true →
          (exec (handle config request reply) s.debugger).2.isStarted = false := by
        rw [hlog, closedAfter_append_of_quiet hquiet, hstarted]
        exact fun hclosed => h.ended hclosed hidle
      dsimp only
      generalize exec (handle config request reply) s.debugger = outcome at *
      rcases outcome with ⟨result, debugger⟩
      have hhandled : Apart { s with debugger, current := none } :=
        h.of_idle hidle hidle hover (fun hnot => hstarted.symm.trans hnot) hthreads rfl rfl rfl
      cases result with
      | error f => exact hhandled
      | ok reply =>
          dsimp only
          rw [closings]
          split_ifs with hdisconnect
          · refine ⟨List.suffix_rfl, fun hsome => absurd rfl hsome, fun _ => by rintro ⟨⟩,
              fun houtside => hhandled.outside ?_, hhandled.named⟩
            simpa [inSession, hidle] using houtside
          · exact hidle ▸ hhandled

/-- What the condition is about: an event that names a thread is handed over in a session
whose set has not been cleared, by a loop that has been entered since the set was cleared
last, and its handler has inserted the threads when the set is cleared. -/
def deliversInSession (s : DebugSystem) (event : DebugEvent) : Bool :=
  match event, s.pending, s.handling, s.closing with
  | .deliver, .callback message :: _, [], _ =>
      namedThreads message == [] || (inSession s && s.enteredAfter == s.ended)
  | .close, _, handling, .clearStoppedThreads :: _ =>
      handling.all fun change => match change with
        | .insert _ => false
        | _ => true
  | _, _, _, _ => true

theorem closing_cases {closing : List Closing}
    (h : closing <:+ [.stop, .clearBreakpoints, .clearStoppedThreads, .reset]) :
    closing = [] ∨ closing = [.reset] ∨ closing = [.clearStoppedThreads, .reset] ∨
      closing = [.clearBreakpoints, .clearStoppedThreads, .reset] ∨
      closing = [.stop, .clearBreakpoints, .clearStoppedThreads, .reset] := by
  simp only [List.suffix_cons_iff, List.suffix_nil] at h
  tauto

theorem apart_close {s : DebugSystem} (h : Apart s)
    (hsession : deliversInSession s .close = true) : Apart s.close := by
  have hidle (hbusy : s.closing ≠ []) : s.current = none := by
    by_contra hcurrent
    exact hbusy (h.idle hcurrent)
  have hrest {first : Closing} {rest : List Closing} (hclosing : s.closing = first :: rest) :
      rest <:+ [.stop, .clearBreakpoints, .clearStoppedThreads, .reset] :=
    (List.suffix_cons first rest).trans (hclosing ▸ h.closing)
  unfold DebugSystem.close
  rcases closing_cases h.closing with hclosing | hclosing | hclosing | hclosing | hclosing
  · simpa only [hclosing] using h
  · have hnone : ∀ id, ¬ Stops s id := h.outside (by simp [inSession, hclosing])
    simp only [hclosing]
    exact ⟨List.nil_suffix, fun _ => rfl, fun _ _ => rfl, fun _ => hnone,
      fun id hid => absurd hid (hnone id)⟩
  · have hnone : ∀ id, ¬ Stops s.close id := by
      rintro id (hid | hid)
      · rw [DebugSystem.close, hclosing] at hid
        cases hid
      · simp only [DebugSystem.close, hclosing] at hid
        simp only [deliversInSession, hclosing, List.all_eq_true] at hsession
        cases hsession _ hid
    simp only [DebugSystem.close, hclosing] at hnone ⊢
    exact ⟨hrest hclosing, fun hsome => absurd (hidle (by simp [hclosing])) hsome,
      fun _ => by rintro ⟨⟩, fun _ => hnone, fun id hid => absurd hid (hnone id)⟩
  · simp only [hclosing]
    exact h.of_kept (hrest hclosing) (fun hsome => absurd (hidle (by simp [hclosing])) hsome)
      (fun _ => by rintro ⟨⟩) (by simp [inSession, hclosing, Closing.apply]) rfl rfl rfl rfl
  · simp only [hclosing]
    exact h.of_kept (hrest hclosing) (fun hsome => absurd (hidle (by simp [hclosing])) hsome)
      (fun _ => by rintro ⟨⟩) (by simp [inSession, hclosing, Closing.apply]) rfl rfl rfl rfl

theorem apart_deliver {s : DebugSystem} (h : Apart s) (hhandled : s.handling = [])
    (hsession : deliversInSession s .deliver = true) : Apart s.deliver := by
  unfold DebugSystem.deliver
  split
  · next message pending hpending =>
      have hbefore {id : Int} (hid : Stops s.deliver id) :
          id ∈ s.debugger.stoppedThreads ∨ id ∈ namedThreads message := by
        rw [Stops, DebugSystem.deliver, hpending] at hid
        rcases hid with hid | hid
        · exact .inl hid
        · exact .inr (mem_namedThreads.mpr hid)
      simp only [DebugSystem.deliver, hpending] at hbefore
      simp only [deliversInSession, hpending, hhandled, Bool.or_eq_true, beq_iff_eq,
        Bool.and_eq_true] at hsession
      refine ⟨h.closing, h.idle, h.ended, fun houtside id hid => ?_, fun id hid => ?_⟩
      · rcases hbefore hid with hid | hid
        · exact h.outside houtside id (.inl hid)
        · rcases hsession with hnone | ⟨hinside, -⟩
          · rw [hnone] at hid
            cases hid
          · cases hinside.symm.trans houtside
      · rcases hbefore hid with hid | hid
        · obtain ⟨other, hother, hnamed⟩ := h.named id (.inl hid)
          exact ⟨other, List.mem_append_left _ hother, hnamed⟩
        · rcases hsession with hnone | ⟨-, hentered⟩
          · rw [hnone] at hid
            cases hid
          · dsimp only
            rw [← hentered]
            exact ⟨message, List.mem_append_right _ List.mem_cons_self, hid⟩
  · exact h.of_same rfl rfl rfl rfl rfl rfl
  · exact h

theorem apart_change {s : DebugSystem} (h : Apart s) : Apart s.change := by
  unfold DebugSystem.change
  split
  · next change handling hhandling =>
      have hbefore {id : Int} (hid : Stops s.change id) : Stops s id := by
        rw [Stops, DebugSystem.change, hhandling] at hid
        rw [Stops, hhandling]
        rcases hid with hid | hid
        · exact (mem_apply hid).imp_right fun heq => List.mem_cons.mpr (.inl heq.symm)
        · exact .inr (List.mem_cons_of_mem _ hid)
      simp only [DebugSystem.change, hhandling] at hbefore
      refine ⟨h.closing, h.idle, ?_, fun houtside id hid => ?_,
        fun id hid => h.named id (hbefore hid)⟩
      · dsimp only
        rw [actions_apply, isStarted_apply]
        exact h.ended
      · refine h.outside ?_ id (hbefore hid)
        rwa [inSession, isStarted_apply] at houtside
  · exact h

theorem apart_step {debuggerConfig : Debugger.Config} {config : DapClient.Config}
    {s : DebugSystem} {event : DebugEvent} (h : Apart s)
    (hsession : deliversInSession s event = true) :
    Apart (s.step debuggerConfig config event) := by
  cases event with
  | request request =>
      rw [DebugSystem.step]
      split
      · next hidle =>
          exact apart_enter debuggerConfig request h
            (List.isEmpty_iff.mp (Bool.and_eq_true_iff.mp hidle).2)
      · exact h
  | send =>
      rw [DebugSystem.step]
      unfold DebugSystem.send
      split_ifs
      · split <;> exact h.of_same rfl rfl rfl rfl rfl rfl
      · exact h
  | finish =>
      rw [DebugSystem.step]
      split
      · exact apart_finish debuggerConfig h
      · exact h
  | close => exact apart_close h hsession
  | start stream =>
      rw [DebugSystem.step]
      unfold DebugSystem.start
      split_ifs
      · split <;> exact h.of_same rfl rfl rfl rfl rfl rfl
      · exact h
  | pass header control stream =>
      rw [DebugSystem.step]
      split <;> exact h.of_same rfl rfl rfl rfl rfl rfl
  | interrupted num =>
      rw [DebugSystem.step]
      split <;> exact h.of_same rfl rfl rfl rfl rfl rfl
  | deliver =>
      rw [DebugSystem.step]
      split
      · next hhandled => exact apart_deliver h (List.isEmpty_iff.mp hhandled) hsession
      · exact h
  | change => exact apart_change h

theorem apart_initial : Apart .initial where
  closing := List.nil_suffix
  idle _ := rfl
  ended _ _ := rfl
  outside := by
    rintro - id (hid | hid) <;> cases hid
  named := by
    rintro id (hid | hid) <;> cases hid

/-- The reply tells that these threads are stopped. -/
def ListsThreads (reply : Json) (threads : List Int) : Prop :=
  ∃ body, constIndex reply (literal "body") = .ok body ∧
    constIndex body (literal "stoppedThreads") = .ok (.array (threads.map .integer))

/-- `debugInfo` lists the threads that are stopped: none when the session has been ended,
and else those that events of the session have named. -/
structure NoneSurvives (config : Debugger.Config) (s : DebugSystem) : Prop where
  ofSession : OfSession s
  reported : ∀ request requestSeq, commandName request = some (literal "debugInfo") →
    constIndex request.message (literal "seq") = .ok requestSeq →
    ∃ reply, exec (processRequestImpl config request) s.debugger = (.ok reply, s.debugger) ∧
      ListsThreads reply s.debugger.stoppedThreads

theorem noneSurvives_of_ofSession (config : Debugger.Config) {s : DebugSystem} (h : OfSession s) :
    NoneSurvives config s where
  ofSession := h
  reported _ _ hcommand hseq :=
    ⟨_, DebuggerHistory.exec_debugInfo hcommand hseq config s.debugger, _, rfl, rfl⟩

/-- No thread that is stopped in a session is stopped or reported when it has been ended. -/
def SessionsEndEmpty (debuggerConfig : Debugger.Config) (config : DapClient.Config)
    (events : List DebugEvent) : Prop :=
  ∀ past, past <+: events → NoneSurvives debuggerConfig (run debuggerConfig config past)

theorem sessionsEndEmpty_of_deliversInSession (debuggerConfig : Debugger.Config)
    (config : DapClient.Config) (events : List DebugEvent)
    (h : Guarded (DebugSystem.step debuggerConfig config)
      (fun s event => deliversInSession s event = true) .initial events) :
    SessionsEndEmpty debuggerConfig config events := by
  rintro past ⟨rest, rfl⟩
  apply noneSurvives_of_ofSession
  apply Apart.ofSession
  exact run_induction_guarded (P := fun _ s => Apart s) apart_initial
    (fun _ _ hapart hdelivers => apart_step hapart hdelivers) past h.front

/-! A session whose last messages come in one batch: the response to the `disconnect` of
the frontend, and the stop of a thread. -/

def stoppedOne : Json :=
  .object [(literal "body", .object [(literal "allThreadsStopped", .boolean false),
      (literal "threadId", .integer 1)]),
    (literal "event", .string (literal "stopped")), (literal "seq", .integer 5),
    (literal "type", .string (literal "event"))]

def sessionRequest (command : String) (seq : Int) : Json :=
  .object [(literal "command", .string (literal command)), (literal "seq", .integer seq),
    (literal "type", .string (literal "request"))]

def sessionResponse (command : String) (requestSeq : Int) : Json :=
  .object [(literal "command", .string (literal command)),
    (literal "request_seq", .integer requestSeq), (literal "success", .boolean true),
    (literal "type", .string (literal "response"))]

def sessionConfig : DapClient.Config :=
  TabledJson.tabledConfig
    [.object [], stoppedOne, sessionResponse "initialize" 1, sessionResponse "disconnect" 2]

def sessionDebuggerConfig : Debugger.Config where
  json := sessionConfig.json
  debuggerInfo := DebuggerHistory.flatConfig.debuggerInfo
  cellTemporaryFile := DebuggerHistory.flatConfig.cellTemporaryFile

def forwarded (command : String) (seq : Int) : Request where
  header := .object []
  message := sessionRequest command seq
  start := .ok true
  sendRecvHeader := .ok (literal "ACK")
  sendRecvRequest _ := .ok (TabledJson.textOf (sessionResponse command seq))
  openFile _ := none

def batch (messages : List Json) : DapFraming.StreamChunk where
  identity := [0, 1, 2, 3, 4]
  content := (messages.map fun message => dapFrame (TabledJson.textOf message)).flatten

/-- The request is sent behind its header, and the debugger answers. -/
def exchange (command : String) (seq : Int) : List DebugEvent :=
  [.request (forwarded command seq), .send, .pass true false false, .send,
    .pass false true false, .pass false false true]

def openedSession : List DebugEvent :=
  .start [batch [sessionResponse "initialize" 1],
      batch [sessionResponse "disconnect" 2, stoppedOne]] ::
    exchange "initialize" 1 ++ [.deliver, .finish] ++ exchange "disconnect" 2

/-- The stop is handled while the frontend's thread is in `stop()`. -/
theorem sessionsEndEmpty_stopFirst :
    SessionsEndEmpty sessionDebuggerConfig sessionConfig
      (openedSession ++ [.deliver, .finish, .close, .deliver, .change, .close, .close, .close]) :=
  sessionsEndEmpty_of_deliversInSession _ _ _ (by decide +kernel)

/-- The frontend's thread clears the set before the stop is handled. -/
theorem not_sessionsEndEmpty_clearFirst :
    ¬ SessionsEndEmpty sessionDebuggerConfig sessionConfig
      (openedSession ++ [.deliver, .finish, .close, .close, .close, .close, .deliver,
        .change]) := by
  intro h
  have hsession := (h _ (List.prefix_refl _)).ofSession
  have hleft : (run sessionDebuggerConfig sessionConfig
      (openedSession ++ [.deliver, .finish, .close, .close, .close, .close, .deliver,
        .change])).debugger.stoppedThreads = [1] := by
    decide +kernel
  rw [hsession.empty (by decide +kernel) (by decide +kernel)] at hleft
  cases hleft

end XeusZmq.StoppedThreads
