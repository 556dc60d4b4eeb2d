import XeusZmq.DebuggerSession
import XeusZmq.FlatJson
import XeusZmq.TabledJson

/-!
The session of `xdebugger_base` over whole histories of requests and events: the
flag and the breakpoints that they leave, what is sent meanwhile, and when the two
hooks are called.
-/

namespace XeusZmq.DebuggerHistory

open XeusZmq.Values
open XeusZmq.JsonAccess
open XeusZmq.FlatJson
open XeusZmq.TabledJson (tabledJsonLibrary)
open XeusZmq.Commands
open XeusZmq.Runs
open XeusZmq.Traces
open XeusZmq.Debugger
open XeusZmq.DebuggerSession

/-- A request of the frontend, or an event that the debugger client passes on. -/
inductive Input
  | request (request : Request)
  | event (message : Json)

def step (config : Config) (s : XDebugger) : Input → XDebugger
  | .request request => (exec (processRequestImpl config request) s).2
  | .event message => (exec (handleEvent message) s).2

def history (config : Config) (inputs : List Input) : XDebugger :=
  run (step config) .init inputs

/-- A start that returned true has not been stopped since. -/
def Open (log : List Action) : Prop :=
  Since (fun _ action => action = .start (.ok true)) (fun action => action = .stop) log

theorem open_append_of_quiet {actions log : List Action}
    (hquiet : ∀ action ∈ log, isHook action = false) :
    Open (actions ++ log) ↔ Open actions := by
  apply since_append_of_neither
  intro action haction
  have hhook := hquiet action haction
  constructor
  · rintro rfl
    cases hhook
  · rintro - rfl
    cases hhook

theorem open_concat_start {log : List Action} {outcome : Except Exception Bool} :
    Open (log ++ [.start outcome]) ↔ outcome = .ok true ∨ Open log := by
  simp [Open, since_concat]

theorem not_open_concat_stop {log : List Action} : ¬ Open (log ++ [.stop]) := by
  simp [Open, since_concat]

/-- The flag tells whether the session is open, and what was sent to the debugger
was sent in an open session. -/
structure Consistent (s : XDebugger) : Prop where
  flag : s.isStarted = true ↔ Open s.actions
  sends : Always (fun before action => isSend action = true → Open before) s.actions

theorem consistent_opened {s : XDebugger} (h : Consistent s) (request : Request) :
    Consistent (opened request s) := by
  unfold opened
  split
  · next hcondition =>
      have hclosed : ¬ Open s.actions := by
        rw [← h.flag, hcondition.2]
        exact Bool.false_ne_true
      constructor
      · rw [open_concat_start]
        rcases request.start with e | started
        · simp [returnsTrue, hclosed]
        · cases started <;> simp [returnsTrue, hclosed]
      · rw [always_concat]
        exact ⟨h.sends, fun hsend => by cases hsend⟩
  · exact h

theorem consistent_closed {s : XDebugger} (h : Consistent s) : Consistent (closed s) where
  flag := by simp [closed, not_open_concat_stop]
  sends := by
    rw [closed, always_concat]
    exact ⟨h.sends, fun hsend => by cases hsend⟩

theorem consistent_of_quiet {s s' : XDebugger} (h : Consistent s) (hs : s.isStarted = true)
    (hquiet : Quiet s s') : Consistent s' := by
  obtain ⟨hflag, log, hlog, hhooks⟩ := hquiet
  have hopen := h.flag.mp hs
  constructor
  · rw [hflag, hlog, open_append_of_quiet hhooks, h.flag]
  · rw [hlog, always_append]
    refine ⟨h.sends, always_of_forall fun before action hbefore _ _ => ?_⟩
    exact (open_append_of_quiet fun other hother => hhooks other (hbefore other hother)).mpr hopen

theorem consistent_of_handled {s handled : XDebugger} {config : Config} {request : Request}
    (h : Consistent s) (hhandled : Handled config request s handled) : Consistent handled := by
  cases hs : s.isStarted with
  | false => rwa [handled_of_not_started hhandled hs]
  | true => exact consistent_of_quiet h hs (quiet_of_handled hhandled)

theorem consistent_step (config : Config) {s : XDebugger} (h : Consistent s) (input : Input) :
    Consistent (step config s input) := by
  cases input with
  | event message =>
      obtain ⟨threads, hthreads⟩ := onlyThreads_handleEvent message s
      rw [step, hthreads]
      exact ⟨h.flag, h.sends⟩
  | request request =>
      obtain ⟨handled, hhandled, hstate⟩ := exec_processRequestImpl_cases config request s
      have hconsistent := consistent_of_handled (consistent_opened h request) hhandled
      rw [step]
      rcases hstate with hstate | ⟨-, hstate⟩
      · rwa [hstate]
      · rw [hstate]
        exact consistent_closed hconsistent

theorem consistent_init : Consistent .init where
  flag := by simp [XDebugger.init, Open]
  sends := by simp [XDebugger.init]

theorem consistent_history (config : Config) (inputs : List Input) :
    Consistent (history config inputs) :=
  run_induction (step config) (P := fun _ s => Consistent s) consistent_init
    (fun _ input h => consistent_step config h input) inputs

def HookOrder (before : List Action) (action : Action) : Prop :=
  (action = .stop → Open before) ∧ ∀ outcome, action = .start outcome → ¬ Open before

/-- `stop` is called only when a start that returned true has not been stopped
since, and `start` only when none is. -/
def HooksAlternate (config : Config) (inputs : List Input) : Prop :=
  Always HookOrder (history config inputs).actions

def disconnects : Input → Prop
  | .request request => commandName request = some (literal "disconnect")
  | .event _ => False

theorem hookOrder_opened {s : XDebugger} (h : Consistent s) (request : Request) :
    Always HookOrder (opened request s).actions ↔ Always HookOrder s.actions := by
  unfold opened
  split
  · next hcondition =>
      have hclosed : ¬ Open s.actions := by
        rw [← h.flag, hcondition.2]
        exact Bool.false_ne_true
      rw [always_concat]
      simp [HookOrder, hclosed]
  · rfl

theorem hookOrder_of_quiet {s s' : XDebugger} (hquiet : Quiet s s') :
    Always HookOrder s'.actions ↔ Always HookOrder s.actions := by
  obtain ⟨-, log, hlog, hhooks⟩ := hquiet
  rw [hlog, always_append]
  refine and_iff_left (always_of_forall fun before action _ haction => ?_)
  have hhook := hhooks action haction
  constructor
  · rintro rfl
    cases hhook
  · rintro outcome rfl
    cases hhook

theorem hookOrder_closed {s : XDebugger} (h : Consistent s) :
    Always HookOrder (closed s).actions ↔ Always HookOrder s.actions ∧ s.isStarted = true := by
  rw [closed, always_concat, h.flag]
  simp [HookOrder]

theorem hookOrder_step (config : Config) {s : XDebugger} (h : Consistent s) (input : Input) :
    Always HookOrder (step config s input).actions ↔
      Always HookOrder s.actions ∧ (disconnects input → s.isStarted = true) := by
  cases input with
  | event message =>
      obtain ⟨threads, hthreads⟩ := onlyThreads_handleEvent message s
      rw [step, hthreads]
      simp [disconnects]
  | request request =>
      rw [step]
      obtain ⟨handled, hhandled, hstate⟩ := exec_processRequestImpl_cases config request s
      have hconsistent := consistent_of_handled (consistent_opened h request) hhandled
      have hkept := (hookOrder_of_quiet (quiet_of_handled hhandled)).trans
        (hookOrder_opened h request)
      by_cases hdisconnect : disconnects (.request request)
      · have hcommand : commandName request = some (literal "disconnect") := hdisconnect
        have hopened : opened request s = s := opened_of_ne (by rw [hcommand]; decide) s
        rw [hopened] at hhandled
        cases hs : s.isStarted with
        | true =>
            have hflag : handled.isStarted = true := (quiet_of_handled hhandled).1.trans hs
            rcases hstate with hstate | ⟨-, hstate⟩
            · simpa [hstate, hdisconnect] using hkept
            · rw [hstate, hookOrder_closed hconsistent, hkept]
              simp [hflag]
        | false =>
            obtain ⟨stopped, hstopped, hclosed⟩ := exec_disconnect config s hcommand
              (fun hstarted => absurd hstarted (by simp [hs]))
            obtain rfl := handled_of_not_started hstopped hs
            rw [hclosed, hookOrder_closed h]
            simp [hs, hdisconnect]
      · have hnot : ¬ (commandName request = some (literal "disconnect") ∧
            (exec (processRequestImpl config request) s).2 = closed handled) :=
          fun hclosed => hdisconnect hclosed.1
        rw [hstate.resolve_right hnot, hkept]
        exact (and_iff_left fun hclosed => absurd hclosed hdisconnect).symm

def StopsWhatIsStarted (s : XDebugger) (input : Input) : Prop :=
  disconnects input → s.isStarted = true

theorem hooksAlternate_iff (config : Config) (inputs : List Input) :
    HooksAlternate config inputs ↔ Guarded (step config) StopsWhatIsStarted .init inputs :=
  run_iff_guarded (P := fun s : XDebugger => Always HookOrder s.actions) consistent_init always_nil
    (fun _ input h => consistent_step config h input)
    (fun _ input h => hookOrder_step config h input) inputs

def flatConfig : Config where
  json := flatJsonLibrary
  debuggerInfo := ⟨3339675911, literal "/tmp/", literal ".cpp", false, [], true⟩
  cellTemporaryFile code := literal "/tmp/" ++ code

/-- A request without arguments, to which the debugger answers `{}`. -/
def flatRequest (command : String) : Request where
  header := stringObject []
  message := stringObject [(literal "command", literal command), (literal "seq", literal "1")]
  start := .ok true
  sendRecvHeader := .ok (literal "ACK")
  sendRecvRequest _ := .ok (dumpObject [])
  openFile _ := none

/-- A disconnect that comes before any `initialize`. -/
theorem not_hooksAlternate_disconnect :
    ¬ HooksAlternate flatConfig [.request (flatRequest "disconnect")] := by
  intro h
  have hstep := (hookOrder_step flatConfig consistent_init
    (.request (flatRequest "disconnect"))).mp h
  exact Bool.false_ne_true (hstep.2 rfl)

def startSucceeds : Input → Prop
  | .request request =>
      commandName request = some (literal "initialize") ∧ request.start = .ok true
  | .event _ => False

def setsBreakpoints (path : Bytes) (breakpoints : List Json) : Input → Prop
  | .request request =>
      commandName request = some (literal "setBreakpoints") ∧
        breakpointArguments request.message = .ok (path, breakpoints)
  | .event _ => False

/-- Some `initialize` has had its start succeed since the latest disconnect. -/
def Started (inputs : List Input) : Prop :=
  Since (fun _ input => startSucceeds input) disconnects inputs

/-- What the latest `setBreakpoints` for the path has set in the session that is
open. -/
def LatestBreakpoints (path : Bytes) (breakpoints : List Json) (inputs : List Input) : Prop :=
  Since (fun before input => Started before ∧ setsBreakpoints path breakpoints input)
    (fun input => disconnects input ∨ ∃ other, setsBreakpoints path other input) inputs

/-- The forwards on which the session depends return, and a `setBreakpoints` request
has the members that are read from it unchecked. -/
def Served (config : Config) (s : XDebugger) : Input → Prop
  | .request request => s.isStarted = true →
      (commandName request = some (literal "setBreakpoints") →
        HeaderReturns config request ∧
          ∀ u, breakpointArguments request.message ≠ .error (.undefined u)) ∧
      (commandName request = some (literal "disconnect") →
        HeaderReturns config request ∧ MessageReturns config request)
  | .event _ => True

section Step

variable {config : Config} {s : XDebugger} {request : Request}

theorem step_disconnect (hserved : Served config s (.request request))
    (hcommand : commandName request = some (literal "disconnect")) :
    ∃ handled, step config s (.request request) = closed handled := by
  obtain ⟨handled, -, hclosed⟩ :=
    exec_disconnect config s hcommand fun hs => (hserved hs).2 hcommand
  exact ⟨handled, hclosed⟩

theorem step_of_not_disconnect (config : Config) (s : XDebugger)
    (hcommand : commandName request ≠ some (literal "disconnect")) :
    Handled config request (opened request s) (step config s (.request request)) := by
  obtain ⟨handled, hhandled, hstate⟩ := exec_processRequestImpl_cases config request s
  rcases hstate with hstate | ⟨hdisconnect, -⟩
  · rwa [step, hstate]
  · exact absurd hdisconnect hcommand

theorem opened_isStarted_iff :
    (opened request s).isStarted = true ↔
      startSucceeds (.request request) ∨ s.isStarted = true := by
  unfold opened
  split
  · next hcondition =>
      obtain ⟨hcommand, hs⟩ := hcondition
      rcases hstart : request.start with e | started
      · simp [startSucceeds, returnsTrue, hs, hstart]
      · simp [startSucceeds, returnsTrue, hs, hstart, hcommand]
  · next hcondition =>
      rw [not_and, Bool.not_eq_false] at hcondition
      constructor
      · exact .inr
      · rintro (hsucceeds | hs)
        · exact hcondition hsucceeds.1
        · exact hs

theorem breakpointList_opened : (opened request s).breakpointList = s.breakpointList := by
  unfold opened
  split <;> rfl

/-- The flag that one input leaves. -/
theorem isStarted_step {input : Input} (hserved : Served config s input) :
    (step config s input).isStarted = true ↔
      startSucceeds input ∨ ¬ disconnects input ∧ s.isStarted = true := by
  cases input with
  | event message =>
      obtain ⟨threads, hthreads⟩ := onlyThreads_handleEvent message s
      simp [step, hthreads, startSucceeds, disconnects]
  | request request =>
      by_cases hdisconnect : commandName request = some (literal "disconnect")
      · obtain ⟨handled, hclosed⟩ := step_disconnect hserved hdisconnect
        have hne : ¬ startSucceeds (.request request) := by
          rintro ⟨hcommand, -⟩
          rw [hdisconnect] at hcommand
          exact absurd hcommand (by decide)
        simp [hclosed, closed, hne, disconnects, hdisconnect]
      · have hhandled := step_of_not_disconnect config s hdisconnect
        rw [(quiet_of_handled hhandled).1, opened_isStarted_iff]
        simp [disconnects, hdisconnect]

theorem breakpointList_step_of_ne (hdisconnect : commandName request ≠ some (literal "disconnect"))
    (hcommand : commandName request ≠ some (literal "setBreakpoints")) :
    (step config s (.request request)).breakpointList = s.breakpointList :=
  (sameBreakpoints_of_handled (step_of_not_disconnect config s hdisconnect) hcommand).trans
    breakpointList_opened

theorem step_setBreakpoints_of_not_started (config : Config) (hs : s.isStarted = false)
    (hcommand : commandName request = some (literal "setBreakpoints")) :
    step config s (.request request) = s := by
  have hopened : opened request s = s := opened_of_ne (by rw [hcommand]; decide) s
  have hhandled := step_of_not_disconnect config s
    (show commandName request ≠ some (literal "disconnect") by rw [hcommand]; decide)
  rw [hopened] at hhandled
  exact handled_of_not_started hhandled hs

end Step

/-- The flag and the breakpoints are those that the inputs so far ask for. -/
structure Follows (inputs : List Input) (s : XDebugger) : Prop where
  started : s.isStarted = true ↔ Started inputs
  breakpoints : ∀ path breakpoints,
    s.breakpointList.lookup path = some breakpoints ↔ LatestBreakpoints path breakpoints inputs
  distinct : (s.breakpointList.map Prod.fst).Nodup
  empty : s.isStarted = false → s.breakpointList = []

theorem follows_init : Follows [] .init where
  started := by simp [XDebugger.init, Started]
  breakpoints := by simp [XDebugger.init, LatestBreakpoints]
  distinct := List.nodup_nil
  empty _ := rfl

theorem started_concat {inputs : List Input} {input : Input} :
    Started (inputs ++ [input]) ↔ startSucceeds input ∨ ¬ disconnects input ∧ Started inputs :=
  since_concat

theorem latestBreakpoints_concat {path : Bytes} {breakpoints : List Json} {inputs : List Input}
    {input : Input} :
    LatestBreakpoints path breakpoints (inputs ++ [input]) ↔
      (Started inputs ∧ setsBreakpoints path breakpoints input) ∨
        ¬ (disconnects input ∨ ∃ other, setsBreakpoints path other input) ∧
          LatestBreakpoints path breakpoints inputs :=
  since_concat

/-- An input that neither disconnects nor sets breakpoints keeps what is recorded. -/
theorem latestBreakpoints_concat_of_neither {inputs : List Input} {input : Input}
    (hdisconnect : ¬ disconnects input)
    (hset : ∀ path breakpoints, ¬ setsBreakpoints path breakpoints input) (path : Bytes)
    (breakpoints : List Json) :
    LatestBreakpoints path breakpoints (inputs ++ [input]) ↔
      LatestBreakpoints path breakpoints inputs := by
  simp [latestBreakpoints_concat, hdisconnect, hset]

theorem not_latestBreakpoints_concat_disconnect (inputs : List Input) {request : Request}
    (hcommand : commandName request = some (literal "disconnect")) (path : Bytes)
    (breakpoints : List Json) :
    ¬ LatestBreakpoints path breakpoints (inputs ++ [.request request]) := by
  rw [latestBreakpoints_concat]
  rintro (⟨-, hset, -⟩ | ⟨hnot, -⟩)
  · rw [hcommand] at hset
    exact absurd hset (by decide)
  · exact hnot (.inl hcommand)

theorem not_setsBreakpoints {request : Request}
    (hcommand : commandName request ≠ some (literal "setBreakpoints")) (path : Bytes)
    (breakpoints : List Json) : ¬ setsBreakpoints path breakpoints (.request request) :=
  fun hset => hcommand hset.1

theorem lookup_breakpointsAfter {message : Json} {source : Bytes} {set : List Json}
    (harguments : breakpointArguments message = .ok (source, set)) (path : Bytes)
    (list : List (Bytes × List Json)) :
    (breakpointsAfter message list).lookup path =
      if path = source then some set else list.lookup path := by
  simp only [breakpointsAfter, harguments]
  by_cases hpath : path = source
  · subst hpath
    rw [if_pos rfl, OrderedMap.lookup_insert_self]
  · rw [if_neg hpath, OrderedMap.lookup_insert_of_ne keyBefore hpath,
      OrderedMap.lookup_erase_of_ne hpath]

theorem nodup_breakpointsAfter (message : Json) {list : List (Bytes × List Json)}
    (hnodup : (list.map Prod.fst).Nodup) :
    ((breakpointsAfter message list).map Prod.fst).Nodup := by
  unfold breakpointsAfter
  split
  · exact OrderedMap.nodup_keys_insert keyBefore (OrderedMap.nodup_keys_erase _ hnodup)
      (OrderedMap.not_mem_keys_erase _ list)
  · exact hnodup

/-- The breakpoints that a started debugger keeps after `setBreakpoints`. -/
theorem breakpoints_breakpointsAfter {inputs : List Input} {s : XDebugger} {request : Request}
    (h : Follows inputs s) (hs : s.isStarted = true)
    (hcommand : commandName request = some (literal "setBreakpoints")) (path : Bytes)
    (breakpoints : List Json) :
    (breakpointsAfter request.message s.breakpointList).lookup path = some breakpoints ↔
      LatestBreakpoints path breakpoints (inputs ++ [.request request]) := by
  have hdisconnect : ¬ disconnects (.request request) := by
    intro hdisconnect
    rw [disconnects, hcommand] at hdisconnect
    exact absurd hdisconnect (by decide)
  have hstarted := h.started.mp hs
  rcases harguments : breakpointArguments request.message with e | ⟨source, set⟩
  · rw [latestBreakpoints_concat_of_neither hdisconnect
      fun path breakpoints hset => by simp [setsBreakpoints, harguments] at hset]
    rw [breakpointsAfter, harguments]
    exact h.breakpoints path breakpoints
  · rw [lookup_breakpointsAfter harguments, latestBreakpoints_concat]
    by_cases hpath : path = source
    · subst hpath
      simp [setsBreakpoints, hcommand, harguments, hstarted]
    · have hother : source ≠ path := fun heq => hpath heq.symm
      simp [setsBreakpoints, hcommand, harguments, hpath, hother, hdisconnect, h.breakpoints]

theorem started_step {config : Config} {inputs : List Input} {s : XDebugger} {input : Input}
    (h : Follows inputs s) (hserved : Served config s input) :
    (step config s input).isStarted = true ↔ Started (inputs ++ [input]) := by
  rw [isStarted_step hserved, started_concat, h.started]

theorem follows_keep {config : Config} {inputs : List Input} {s : XDebugger} {input : Input}
    (h : Follows inputs s) (hserved : Served config s input) (hdisconnect : ¬ disconnects input)
    (hset : ∀ path breakpoints, ¬ setsBreakpoints path breakpoints input)
    (hkeep : (step config s input).breakpointList = s.breakpointList) :
    Follows (inputs ++ [input]) (step config s input) where
  started := started_step h hserved
  breakpoints path breakpoints := by
    rw [hkeep, latestBreakpoints_concat_of_neither hdisconnect hset, h.breakpoints]
  distinct := by
    rw [hkeep]
    exact h.distinct
  empty hstopped := by
    rw [hkeep]
    apply h.empty
    by_contra hs
    have hstarted := (isStarted_step hserved).mpr
      (.inr ⟨hdisconnect, Bool.not_eq_false _ ▸ hs⟩)
    exact Bool.false_ne_true (hstopped.symm.trans hstarted)

theorem follows_disconnect {config : Config} {inputs : List Input} {s : XDebugger}
    {request : Request} (h : Follows inputs s) (hserved : Served config s (.request request))
    (hcommand : commandName request = some (literal "disconnect")) :
    Follows (inputs ++ [.request request]) (step config s (.request request)) := by
  obtain ⟨handled, hclosed⟩ := step_disconnect hserved hcommand
  constructor
  · exact started_step h hserved
  · intro path breakpoints
    have hnot := not_latestBreakpoints_concat_disconnect inputs hcommand path breakpoints
    simp [hclosed, closed, hnot]
  · simp [hclosed, closed]
  · simp [hclosed, closed]

theorem follows_setBreakpoints {config : Config} {inputs : List Input} {s : XDebugger}
    {request : Request} (h : Follows inputs s) (hserved : Served config s (.request request))
    (hcommand : commandName request = some (literal "setBreakpoints")) :
    Follows (inputs ++ [.request request]) (step config s (.request request)) := by
  have hdisconnect : ¬ disconnects (.request request) := by
    intro hdisconnect
    rw [disconnects, hcommand] at hdisconnect
    exact absurd hdisconnect (by decide)
  have hflag := isStarted_step hserved
  have hsucceeds : ¬ startSucceeds (.request request) := by
    rintro ⟨hname, -⟩
    rw [hcommand] at hname
    exact absurd hname (by decide)
  cases hs : s.isStarted with
  | true =>
      obtain ⟨hheader, hdefined⟩ := (hserved hs).1 hcommand
      have hlist : (step config s (.request request)).breakpointList =
          breakpointsAfter request.message s.breakpointList :=
        exec_setBreakpoints hcommand hs hheader hdefined
      constructor
      · exact started_step h hserved
      · intro path breakpoints
        rw [hlist, breakpoints_breakpointsAfter h hs hcommand]
      · rw [hlist]
        exact nodup_breakpointsAfter request.message h.distinct
      · intro hstopped
        rw [hstopped] at hflag
        simp [hdisconnect, hs] at hflag
  | false =>
      have hstep := step_setBreakpoints_of_not_started config hs hcommand
      have hempty := h.empty hs
      have hnot : ¬ Started inputs := by
        rw [← h.started, hs]
        exact Bool.false_ne_true
      constructor
      · exact started_step h hserved
      · intro path breakpoints
        have hlatest := h.breakpoints path breakpoints
        rw [hempty, List.lookup_nil, eq_comm] at hlatest
        rw [hstep, hempty, latestBreakpoints_concat, ← hlatest]
        simp [hnot]
      · rw [hstep]
        exact h.distinct
      · intro _
        rw [hstep, hempty]

theorem follows_step {config : Config} {inputs : List Input} {s : XDebugger} {input : Input}
    (h : Follows inputs s) (hserved : Served config s input) :
    Follows (inputs ++ [input]) (step config s input) := by
  cases input with
  | event message =>
      obtain ⟨threads, hthreads⟩ := onlyThreads_handleEvent message s
      exact follows_keep h hserved id (fun _ _ => id) (by rw [step, hthreads])
  | request request =>
      by_cases hdisconnect : commandName request = some (literal "disconnect")
      · exact follows_disconnect h hserved hdisconnect
      · by_cases hset : commandName request = some (literal "setBreakpoints")
        · exact follows_setBreakpoints h hserved hset
        · exact follows_keep h hserved hdisconnect (not_setsBreakpoints hset)
            (breakpointList_step_of_ne hdisconnect hset)

theorem follows_history {config : Config} {inputs : List Input}
    (h : Guarded (step config) (Served config) .init inputs) :
    Follows inputs (history config inputs) :=
  run_induction_guarded follows_init (fun _ _ hfollows hserved => follows_step hfollows hserved)
    inputs h

/-- A reply to `debugInfo` that tells the flag and the breakpoints that the inputs so
far ask for, with one entry for each path. -/
def Reports (inputs : List Input) (reply : Json) : Prop :=
  ∃ body flag entries,
    constIndex reply (literal "body") = .ok body ∧
    constIndex body (literal "isStarted") = .ok (.boolean flag) ∧
    constIndex body (literal "breakpoints") = .ok (.array (entries.map breakpointEntry)) ∧
    (flag = true ↔ Started inputs) ∧
    (entries.map Prod.fst).Nodup ∧
    (∀ path breakpoints, (path, breakpoints) ∈ entries ↔
      LatestBreakpoints path breakpoints inputs) ∧
    (flag = false → entries = [])

theorem reports_debugInfoBody {inputs : List Input} {s : XDebugger} (h : Follows inputs s)
    (info : XDebuggerInfo) (requestSeq command : Json) :
    Reports inputs (response requestSeq command true (debugInfoBody info s)) := by
  have hentries : breakpointEntries s = s.breakpointList.map breakpointEntry := by
    unfold breakpointEntries
    split
    · rfl
    · next hs => rw [h.empty (Bool.eq_false_iff.mpr hs), List.map_nil]
  refine ⟨debugInfoBody info s, s.isStarted, s.breakpointList, rfl, rfl, ?_, h.started, h.distinct,
    ?_, h.empty⟩
  · rw [← hentries]
    rfl
  · intro path breakpoints
    rw [OrderedMap.mem_iff_lookup h.distinct, h.breakpoints]

theorem exec_debugInfo {request : Request} {requestSeq : Json}
    (hcommand : commandName request = some (literal "debugInfo"))
    (hseq : constIndex request.message (literal "seq") = .ok requestSeq) (config : Config)
    (s : XDebugger) :
    exec (processRequestImpl config request) s =
      (.ok (response requestSeq (.string (literal "debugInfo")) true
        (debugInfoBody config.debuggerInfo s)), s) := by
  have hhandler : exec (callHandler config request (.object []) (literal "debugInfo")) s =
      (.ok (response requestSeq (.string (literal "debugInfo")) true
        (debugInfoBody config.debuggerInfo s)), s) := by
    change exec (debugInfoRequest config request) s = _
    simp [debugInfoRequest, field, exec_bind, hseq, constIndex_of_commandName hcommand, Except.map]
  rw [exec_processRequestImpl_of_ne hcommand (by decide), exec_bind_of_ok hhandler,
    exec_bind_of_ok (exec_stopIfDisconnect_of_name hcommand (by decide) s), exec_pure]

/-- What the inputs so far ask for is what the debugger has recorded and reports, and
nothing was sent to it outside a session. -/
structure SessionFollows (config : Config) (inputs : List Input) : Prop where
  follows : Follows inputs (history config inputs)
  reports : ∀ request requestSeq, commandName request = some (literal "debugInfo") →
    constIndex request.message (literal "seq") = .ok requestSeq →
    ∃ reply, exec (processRequestImpl config request) (history config inputs) =
      (.ok reply, history config inputs) ∧ Reports inputs reply
  consistent : Consistent (history config inputs)

theorem sessionFollows (config : Config) (inputs : List Input)
    (h : Guarded (step config) (Served config) .init inputs) : SessionFollows config inputs where
  follows := follows_history h
  reports _ _ hcommand hseq :=
    ⟨_, exec_debugInfo hcommand hseq config _, reports_debugInfoBody (follows_history h) _ _ _⟩
  consistent := consistent_history config inputs

/-- The debugger answers `{}` to any request. -/
def answeringConfig : Config :=
  { flatConfig with json := tabledJsonLibrary [.object []] }

def breakpoint : Json :=
  .object [(literal "line", .integer 1)]

def breakpointsRequest : Request :=
  { flatRequest "setBreakpoints" with
    message := .object [(literal "arguments", .object
        [(literal "breakpoints", .array [breakpoint]),
          (literal "source", .object [(literal "path", .string (literal "cell.cpp"))])]),
      (literal "command", .string (literal "setBreakpoints")), (literal "seq", .integer 2)] }

def breakpointsSet : List Input :=
  [.request (flatRequest "initialize"), .request breakpointsRequest,
    .request (flatRequest "debugInfo")]

/-- A breakpoint is kept until the debugger is stopped. -/
theorem sessionFollows_breakpointsSet :
    (history answeringConfig breakpointsSet).breakpointList =
        [(literal "cell.cpp", [breakpoint])] ∧
      SessionFollows answeringConfig breakpointsSet ∧
      SessionFollows answeringConfig (breakpointsSet ++ [.request (flatRequest "disconnect")]) := by
  have hheader (request : Request) (hsent : request.header = .object [] ∧
      request.sendRecvHeader = .ok (literal "ACK")) : HeaderReturns answeringConfig request :=
    ⟨⟨literal "\x7b\x7d", by rw [hsent.1]; rfl⟩, literal "ACK", hsent.2⟩
  have hmessage : MessageReturns answeringConfig (flatRequest "disconnect") :=
    ⟨_, literal "\x7b\x7d", .object [], rfl, rfl, rfl⟩
  have hinit : Served answeringConfig .init (.request (flatRequest "initialize")) :=
    fun hs => absurd hs Bool.false_ne_true
  have hset (s : XDebugger) : Served answeringConfig s (.request breakpointsRequest) := by
    refine fun _ => ⟨fun _ => ⟨hheader _ ⟨rfl, rfl⟩, ?_⟩, fun h => absurd h (by decide)⟩
    rintro u hu
    cases hu
  have hinfo (s : XDebugger) : Served answeringConfig s (.request (flatRequest "debugInfo")) :=
    fun _ => ⟨fun h => absurd h (by decide), fun h => absurd h (by decide)⟩
  have hdisconnect (s : XDebugger) :
      Served answeringConfig s (.request (flatRequest "disconnect")) :=
    fun _ => ⟨fun h => absurd h (by decide), fun _ => ⟨hheader _ ⟨rfl, rfl⟩, hmessage⟩⟩
  refine ⟨rfl, sessionFollows _ _ ?_, sessionFollows _ _ ?_⟩
  · simp only [breakpointsSet, guarded_cons, guarded_nil, and_true]
    exact ⟨hinit, hset _, hinfo _⟩
  · simp only [breakpointsSet, List.cons_append, List.nil_append, guarded_cons, guarded_nil,
      and_true]
    exact ⟨hinit, hset _, hinfo _, hdisconnect _⟩

end XeusZmq.DebuggerHistory
