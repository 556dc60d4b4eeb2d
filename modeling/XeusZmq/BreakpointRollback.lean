import XeusZmq.DebuggerSession
import XeusZmq.TabledJson

/-!
The breakpoints of a `setBreakpoints` request that the debugger has not accepted.
-/

namespace XeusZmq.BreakpointRollback

open XeusZmq.Values
open XeusZmq.JsonAccess
open XeusZmq.Commands
open XeusZmq.TabledJson
open XeusZmq.Debugger
open XeusZmq.DebuggerSession

variable {config : Debugger.Config} {request : Request}

/-- `forward_message` throws, or the reply is negative. -/
def ForwardingFails (config : Debugger.Config) (request : Request) : Prop :=
  match DapFraming.forwardMessage config.json request.sendRecvRequest request.message with
  | .ok reply => findMember reply (literal "success") = some (.boolean false)
  | .error (.exception _) => True
  | .error (.undefined _) => False

structure RollsBack (config : Debugger.Config) (request : Request) (s : XDebugger) : Prop where
  defined : ∀ u, (exec (setBreakpointsRequest config request) s).1 ≠ .error (.undefined u)
  unchanged : ∀ path,
    (exec (setBreakpointsRequest config request) s).2.breakpointList.lookup path =
      s.breakpointList.lookup path

theorem exec_setBreakpointsRequest_result (config : Debugger.Config) (request : Request)
    (s : XDebugger) :
    (exec (setBreakpointsRequest config request) s).1 =
      breakpointArguments request.message >>= fun _ =>
        DapFraming.forwardMessage config.json request.sendRecvRequest request.message := by
  simp only [setBreakpointsRequest, breakpointArguments, field, exec_bind, exec_fromExcept,
    exec_modify]
  cases constString request.message ["arguments", "source", "path"] with
  | error e => rfl
  | ok source =>
      rw [ok_bind]
      cases constIndex request.message (literal "arguments") with
      | error e => rfl
      | ok arguments =>
          rw [ok_bind]
          dsimp only
          cases constIndex arguments (literal "breakpoints") with
          | error e => rfl
          | ok bpJson => exact exec_forwardMessage_result config request _

theorem defined_of_forwardingFails (hfails : ForwardingFails config request) (u : Undefined) :
    DapFraming.forwardMessage config.json request.sendRecvRequest request.message ≠
      .error (.undefined u) := by
  intro hundefined
  rw [ForwardingFails, hundefined] at hfails
  exact hfails

/-- A failed request leaves the breakpoints as they are when it is refused before they are
replaced, or asks for those that are there. -/
theorem rollsBack_iff (hfails : ForwardingFails config request) (s : XDebugger) :
    RollsBack config request s ↔
      (∃ e, breakpointArguments request.message = .error (.exception e)) ∨
        ∃ path breakpoints, breakpointArguments request.message = .ok (path, breakpoints) ∧
          s.breakpointList.lookup path = some breakpoints := by
  have hresult := exec_setBreakpointsRequest_result config request s
  have hforward := defined_of_forwardingFails hfails
  rcases harguments : breakpointArguments request.message with (e | u) | ⟨path, breakpoints⟩
  · rw [harguments] at hresult
    refine iff_of_true ⟨fun u => ?_, fun path => ?_⟩ (.inl ⟨e, rfl⟩)
    · rw [hresult]
      simp
    · rw [setBreakpointsRequest_of_exception harguments]
  · rw [harguments] at hresult
    refine iff_of_false (fun h => h.defined u hresult) ?_
    simp
  · rw [harguments, ok_bind] at hresult
    have hlist := @setBreakpointsRequest_of_arguments config request path breakpoints harguments s
    have hself := OrderedMap.lookup_insert_self keyBefore path breakpoints
      (OrderedMap.erase path s.breakpointList)
    constructor
    · intro h
      refine .inr ⟨path, breakpoints, rfl, ?_⟩
      rw [← h.unchanged path, hlist, hself]
    · rintro (⟨e, he⟩ | ⟨path', breakpoints', hpair, hlookup⟩)
      · cases he
      · obtain ⟨rfl, rfl⟩ := Prod.mk.inj (Except.ok.inj hpair)
        refine ⟨fun u => hresult ▸ hforward u, fun other => ?_⟩
        rw [hlist]
        by_cases hother : other = path
        · rw [hother, hself, hlookup]
        · rw [OrderedMap.lookup_insert_of_ne keyBefore hother,
            OrderedMap.lookup_erase_of_ne hother]

def breakpointsMessage (line : Int) : Json :=
  .object [(literal "arguments", .object
      [(literal "breakpoints", .array [.object [(literal "line", .integer line)]]),
        (literal "source", .object [(literal "path", .string (literal "cell.cpp"))])]),
    (literal "command", .string (literal "setBreakpoints"))]

def refusal : Json :=
  .object [(literal "success", .boolean false)]

def refusingConfig : Debugger.Config where
  json := tabledJsonLibrary [refusal]
  debuggerInfo := ⟨3339675911, literal "/tmp/", literal ".cpp", false, [], true⟩
  cellTemporaryFile code := literal "/tmp/" ++ code

/-- A breakpoint at a line, which the debugger refuses. -/
def refusedRequest (line : Int) : Request where
  header := .object []
  message := breakpointsMessage line
  start := .ok true
  sendRecvHeader := .ok (literal "ACK")
  sendRecvRequest _ := .ok (textOf refusal)
  openFile _ := none

/-- The debugger has accepted a breakpoint at the first line. -/
def atFirstLine : XDebugger :=
  { XDebugger.init with
    isStarted := true
    breakpointList :=
      [(literal "cell.cpp", [.object [(literal "line", .integer 1)]])] }

theorem forwardingFails_refusedRequest (line : Int) :
    ForwardingFails refusingConfig (refusedRequest line) := by
  have hforward : DapFraming.forwardMessage refusingConfig.json
      (refusedRequest line).sendRecvRequest (refusedRequest line).message = .ok refusal := rfl
  rw [ForwardingFails, hforward]
  rfl

theorem rollsBack_sameLine : RollsBack refusingConfig (refusedRequest 1) atFirstLine :=
  (rollsBack_iff (forwardingFails_refusedRequest 1) atFirstLine).mpr (.inr ⟨_, _, rfl, rfl⟩)

theorem not_rollsBack_otherLine :
    ForwardingFails refusingConfig (refusedRequest 2) ∧
      ¬ RollsBack refusingConfig (refusedRequest 2) atFirstLine := by
  refine ⟨forwardingFails_refusedRequest 2, fun h => ?_⟩
  have harguments : breakpointArguments (refusedRequest 2).message =
      .ok (literal "cell.cpp", [.object [(literal "line", .integer 2)]]) := rfl
  have hlookup := h.unchanged (literal "cell.cpp")
  rw [setBreakpointsRequest_of_arguments harguments, OrderedMap.lookup_insert_self] at hlookup
  simp [atFirstLine] at hlookup

end XeusZmq.BreakpointRollback
