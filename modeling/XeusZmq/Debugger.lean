import XeusZmq.Commands
import XeusZmq.DapFraming
import XeusZmq.JsonAccess
import Mathlib.Data.List.Sort

/-!
`xdebugger_base`: the requests of the frontend, the session that they open and
close, and what is sent to the debugger for them.
-/

namespace XeusZmq.Debugger

open XeusZmq.Values
open XeusZmq.JsonAccess
open XeusZmq.DapFraming
open XeusZmq.Commands

structure XDebuggerInfo where
  hashSeed : Nat
  tmpFilePrefix : Bytes
  tmpFileSuffix : Bytes
  richRendering : Bool
  exceptionPaths : List Bytes
  copyToGlobals : Bool

/-- What the derived class and the libraries provide. -/
structure Config where
  json : JsonLibrary
  debuggerInfo : XDebuggerInfo
  cellTemporaryFile : Bytes → Bytes

/-- A call of one of the two virtual hooks, a message sent through the middleware,
or a file written. -/
inductive Action
  | start (outcome : Except Exception Bool)
  | stop
  | header (text : Bytes)
  | request (buffer : Bytes)
  | write (path text : Bytes)

/-- The handler maps are those that the constructor fills. `actions` records what
the debugger has done so far. -/
structure XDebugger where
  isStarted : Bool
  breakpointList : List (Bytes × List Json)
  stoppedThreads : List Int
  actions : List Action

def XDebugger.init : XDebugger where
  isStarted := false
  breakpointList := []
  stoppedThreads := []
  actions := []

/-- A request with what the calls made for it return: the outcome of `start()`, the
answers of the middleware, and the contents of the files that can be opened. -/
structure Request where
  header : Json
  message : Json
  start : Except Exception Bool
  sendRecvHeader : Result Bytes
  sendRecvRequest : Bytes → Result Bytes
  openFile : Bytes → Option Bytes

abbrev Handler := Command XDebugger Failure Json

def record (action : Action) : Command XDebugger Failure PUnit :=
  modify fun s => { s with actions := s.actions ++ [action] }

def field (request : Request) (key : String) : Command XDebugger Failure Json :=
  fromExcept (constIndex request.message (literal key))

def response (requestSeq command : Json) (success : Bool) (body : Json) : Json :=
  .object [(literal "body", body), (literal "command", command),
    (literal "request_seq", requestSeq), (literal "success", .boolean success),
    (literal "type", .string (literal "response"))]

def breakpointEntry (entry : Bytes × List Json) : Json :=
  .object [(literal "breakpoints", .array entry.2), (literal "source", .string entry.1)]

def breakpointEntries (s : XDebugger) : List Json :=
  if s.isStarted then s.breakpointList.map breakpointEntry else []

def debugInfoBody (info : XDebuggerInfo) (s : XDebugger) : Json :=
  .object [(literal "breakpoints", .array (breakpointEntries s)),
    (literal "copyToGlobals", .boolean info.copyToGlobals),
    (literal "exceptionPaths", .array (info.exceptionPaths.map .string)),
    (literal "hashMethod", .string (literal "Murmur2")),
    (literal "hashSeed", .integer info.hashSeed),
    (literal "isStarted", .boolean s.isStarted),
    (literal "richRendering", .boolean info.richRendering),
    (literal "stoppedThreads", .array (s.stoppedThreads.map .integer)),
    (literal "tmpFilePrefix", .string info.tmpFilePrefix),
    (literal "tmpFileSuffix", .string info.tmpFileSuffix)]

def debugInfoRequest (config : Config) (request : Request) : Handler := do
  let s ← get
  let requestSeq ← field request "seq"
  let command ← field request "command"
  return response requestSeq command true (debugInfoBody config.debuggerInfo s)

/-- The string at a path of const accesses. -/
def constString (message : Json) (path : List String) : Result Bytes := do
  let value ← path.foldlM (fun json key => constIndex json (literal key)) message
  liftJson (getString value)

/-- A string read inside `try`: every exception leaves it empty. -/
def orEmpty : Result Bytes → Result Bytes
  | .error (.exception _) => .ok []
  | result => result

def dumpCellRequest (config : Config) (request : Request) : Handler := do
  let code ← fromExcept (orEmpty (constString request.message ["arguments", "code"]))
  let nextFileName := config.cellTemporaryFile code
  if request.openFile nextFileName = none then
    record (.write nextFileName code)
  let requestSeq ← field request "seq"
  let command ← field request "command"
  return response requestSeq command true
    (.object [(literal "sourcePath", .string nextFileName)])

def sendRecvRequest (request : Request) (buffer : Bytes) :
    Command XDebugger Failure Bytes := do
  record (.request buffer)
  fromExcept (request.sendRecvRequest buffer)

def forwardMessage (config : Config) (request : Request) : Handler := do
  let content ← fromExcept (liftJson (config.json.dump .strict request.message))
  let reply ← sendRecvRequest request (dapFrame content)
  fromExcept (liftJson (config.json.parse reply))

def setBreakpointsRequest (config : Config) (request : Request) : Handler := do
  let source ← fromExcept (constString request.message ["arguments", "source", "path"])
  modify fun s => { s with breakpointList := OrderedMap.erase source s.breakpointList }
  let arguments ← field request "arguments"
  let bpJson ← fromExcept (constIndex arguments (literal "breakpoints"))
  modify fun s =>
    { s with
      breakpointList :=
        OrderedMap.insert keyBefore source (elements bpJson) s.breakpointList }
  forwardMessage config request

def sourceRequest (request : Request) : Handler := do
  let sourcePath ← fromExcept
    (orEmpty (constString request.message ["arguments", "source", "path"]))
  let requestSeq ← field request "seq"
  let command ← field request "command"
  match request.openFile sourcePath with
  | none =>
      return .object [(literal "body", .array [.null]), (literal "command", command),
        (literal "message", .string (literal "source unavailable")),
        (literal "request_seq", requestSeq), (literal "success", .boolean false),
        (literal "type", .string (literal "response"))]
  | some content =>
      return response requestSeq command true
        (.object [(literal "content", .string content)])

def stackFrames : List Step :=
  [.key (literal "body"), .key (literal "stackFrames")]

/-- The loop of `stack_trace_request` over the positions that are left. -/
def eraseStringFrame : List Nat → Json → Except JsonException Json
  | [], reply => .ok reply
  | i :: positions, reply => do
      let (path, reply) ← readAt
        (stackFrames ++ [.position i, .key (literal "source"), .key (literal "path")]) reply
      if isText path (literal "<string>") then eraseAt stackFrames i reply
      else eraseStringFrame positions reply

def filterStackTrace (reply : Json) : Except JsonException Json := do
  let (frames, reply) ← readAt stackFrames reply
  eraseStringFrame (List.range (size frames)) reply

def stackTraceRequest (config : Config) (request : Request) : Handler := do
  let reply ← forwardMessage config request
  fromExcept (liftJson (filterStackTrace reply))

/-- An optional int among the arguments. -/
def intOrZero : Option Json → Result Int
  | some value => getInt value
  | none => .ok 0

/-- The list built by `push_back` from null. -/
def pushed : List Json → Json
  | [] => .null
  | values => .array values

/-- What `variables_request_impl` makes of the reply of the debugger. -/
def pageVariables (message reply : Json) : Result Json := do
  let arguments ← constIndex message (literal "arguments")
  let startIt := findMember arguments (literal "start")
  let countIt := findMember arguments (literal "count")
  let start ← intOrZero startIt
  let count ← intOrZero countIt
  if start = 0 ∧ count = 0 then
    return reply
  else
    let last ← if count = 0 then pure none
      else (checkedAdd start count).map some
    let (oldVariables, reply) ← liftJson
      (readAt [.key (literal "body"), .key (literal "variables")] reply)
    let last := last.getD (toInt (size oldVariables))
    let reply ← liftJson
      (eraseKeyAt [.key (literal "body")] (literal "variables") reply)
    let positions := (List.range (last - start).toNat).map fun (i : Nat) => start + (i : Int)
    let variablesList ← liftJson (positions.mapM (valueAt oldVariables))
    liftJson (assignAt [.key (literal "body"), .key (literal "variables")]
      (pushed variablesList) reply)

def variablesRequest (config : Config) (request : Request) : Handler := do
  let reply ← forwardMessage config request
  fromExcept (pageVariables request.message reply)

def requestHandler (config : Config) : List (Bytes × (Request → Handler)) :=
  [(literal "debugInfo", debugInfoRequest config)]

def startedHandler (config : Config) : List (Bytes × (Request → Handler)) :=
  [(literal "dumpCell", dumpCellRequest config),
    (literal "setBreakpoints", setBreakpointsRequest config),
    (literal "source", sourceRequest),
    (literal "stackTrace", stackTraceRequest config),
    (literal "variables", variablesRequest config)]

/-- `std::set::insert` on the list in which the set holds its elements. -/
def insertThread (id : Int) (threads : List Int) : List Int :=
  if id ∈ threads then threads else threads.orderedInsert (· ≤ ·) id

def stopThreads (ids : List Json) : Command XDebugger Failure PUnit :=
  ids.forM fun json => do
    let id ← fromExcept (getInt json)
    modify fun s => { s with stoppedThreads := insertThread id s.stoppedThreads }

def continuedEvent (message : Json) : Command XDebugger Failure PUnit := do
  let body ← fromExcept (constIndex message (literal "body"))
  let all ← fromExcept (constIndex body (literal "allThreadsContinued"))
  if ← fromExcept (liftJson (getBool all)) then
    modify fun s => { s with stoppedThreads := [] }
  else
    let id ← fromExcept (constIndex body (literal "threadId") >>= getInt)
    modify fun s => { s with stoppedThreads := s.stoppedThreads.erase id }

def stoppedEvent (message : Json) : Command XDebugger Failure PUnit := do
  let body ← fromExcept (constIndex message (literal "body"))
  let all ← fromExcept (constIndex body (literal "allThreadsStopped"))
  if ← fromExcept (liftJson (getBool all)) then
    let ids ← fromExcept (constIndex body (literal "threadList"))
    stopThreads (elements ids)
  else
    let id ← fromExcept (constIndex body (literal "threadId") >>= getInt)
    modify fun s => { s with stoppedThreads := insertThread id s.stoppedThreads }

def eventHandler : List (Bytes × (Json → Command XDebugger Failure PUnit)) :=
  [(literal "continued", continuedEvent), (literal "stopped", stoppedEvent)]

def handleEvent (message : Json) : Command XDebugger Failure PUnit := do
  let event ← fromExcept (constIndex message (literal "event"))
  let name ← fromExcept (liftJson (getString event))
  match eventHandler.lookup name with
  | some handler => handler message
  | none => return ()

/-- The first part of `process_request_impl`. -/
def startIfInitialize (request : Request) : Handler := do
  let command ← field request "command"
  if isText command (literal "initialize") then
    if (← get).isStarted then
      return .object []
    else
      record (.start request.start)
      let started ← fromExcept (lift request.start)
      modify fun s => { s with isStarted := started }
      if started then
        return .object []
      else
        let requestSeq ← field request "seq"
        return .object [(literal "command", .string (literal "initialize")),
          (literal "request_seq", requestSeq), (literal "seq", .integer 3),
          (literal "success", .boolean false), (literal "type", .string (literal "response"))]
  else
    return .object []

def sendRecvHeader (config : Config) (request : Request) :
    Command XDebugger Failure Bytes := do
  let headerBuffer ← fromExcept (liftJson (config.json.dump .strict request.header))
  record (.header headerBuffer)
  fromExcept request.sendRecvHeader

def callStartedHandler (config : Config) (request : Request) (name : Bytes) : Handler :=
  match (startedHandler config).lookup name with
  | some handler => handler request
  | none => forwardMessage config request

/-- The handler of the command, if there is one for the state. -/
def callHandler (config : Config) (request : Request) (reply : Json) (name : Bytes) :
    Handler :=
  match (requestHandler config).lookup name with
  | some handler => handler request
  | none => do
      if (← get).isStarted then
        let _ ← sendRecvHeader config request
        callStartedHandler config request name
      else
        return reply

/-- The second part. -/
def handle (config : Config) (request : Request) (reply : Json) : Handler := do
  let command ← field request "command"
  let name ← fromExcept (liftJson (getString command))
  callHandler config request reply name

/-- The last part. -/
def stopIfDisconnect (request : Request) : Command XDebugger Failure PUnit := do
  let command ← field request "command"
  if isText command (literal "disconnect") then
    record .stop
    modify fun s =>
      { s with breakpointList := [], stoppedThreads := [], isStarted := false }

def processRequestImpl (config : Config) (request : Request) : Handler := do
  let reply ← startIfInitialize request
  let reply ← handle config request reply
  stopIfDisconnect request
  return reply

end XeusZmq.Debugger
