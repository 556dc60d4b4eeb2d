import XeusZmq.DebuggerHistory

/-!
The files behind the `dumpCell` and `source` requests, over whole runs of the debugger on
a machine on which other programs write files, too.
-/

namespace XeusZmq.CellFiles

open XeusZmq.Values
open XeusZmq.JsonAccess
open XeusZmq.Commands
open XeusZmq.Runs
open XeusZmq.FlatJson
open XeusZmq.Debugger
open XeusZmq.DebuggerSession
open XeusZmq.DebuggerHistory (flatConfig flatRequest)

/-- The debugger, and the files that can be opened for reading. -/
structure Machine where
  debugger : XDebugger
  files : Bytes → Option Bytes

/-- A request, an event of the debugger client, or another program that writes or removes
a file. -/
inductive Input
  | request (request : Request)
  | event (message : Json)
  | other (path : Bytes) (content : Option Bytes)

/-- An `fstream` that cannot be opened swallows what is written to it. -/
def writeFile (writable : Bytes → Bool) (files : Bytes → Option Bytes) :
    Action → Bytes → Option Bytes
  | .write path text => if writable path then Function.update files path (some text) else files
  | _ => files

def onMachine (files : Bytes → Option Bytes) (request : Request) : Request :=
  { request with openFile := files }

namespace Machine

/-- What the debugger has written meanwhile is in its files. -/
def become (writable : Bytes → Bool) (debugger : XDebugger) (self : Machine) : Machine where
  debugger := debugger
  files :=
    (debugger.actions.drop self.debugger.actions.length).foldl (writeFile writable) self.files

def step (config : Config) (writable : Bytes → Bool) (self : Machine) : Input → Machine
  | .request request =>
      self.become writable
        (exec (processRequestImpl config (onMachine self.files request)) self.debugger).2
  | .event message => self.become writable (exec (handleEvent message) self.debugger).2
  | .other path content => { self with files := Function.update self.files path content }

def initial (files : Bytes → Option Bytes) : Machine :=
  ⟨.init, files⟩

end Machine

/-- The code in a `dumpCell` request, the empty code when there is none. -/
def DumpsCode (request : Request) (code : Bytes) : Prop :=
  commandName request = some (literal "dumpCell") ∧
    orEmpty (constString request.message ["arguments", "code"]) = .ok code

/-- Whatever is written is the code of the request, under its own name, where no file was. -/
def WritesCell (config : Config) (request : Request) (s s' : XDebugger) : Prop :=
  ∃ new, s'.actions = s.actions ++ new ∧ ∀ path text, .write path text ∈ new →
    request.openFile path = none ∧ config.cellTemporaryFile text = path ∧ DumpsCode request text

section Writes

variable {config : Config} {request : Request}

theorem WritesCell.of_same {s s' : XDebugger} (h : s'.actions = s.actions) :
    WritesCell config request s s' :=
  ⟨[], by rw [h, List.append_nil], by simp⟩

theorem WritesCell.trans {s₁ s₂ s₃ : XDebugger} (h : WritesCell config request s₁ s₂)
    (h' : WritesCell config request s₂ s₃) : WritesCell config request s₁ s₃ := by
  obtain ⟨new, hactions, hnew⟩ := h
  obtain ⟨new', hactions', hnew'⟩ := h'
  refine ⟨new ++ new', by rw [hactions', hactions, List.append_assoc], fun path text hmem => ?_⟩
  rcases List.mem_append.mp hmem with hmem | hmem
  · exact hnew path text hmem
  · exact hnew' path text hmem

end Writes

/-! Files. -/

section Files

variable {writable : Bytes → Bool} {files : Bytes → Option Bytes}

end Files

section Steps

variable {config : Config} {writable : Bytes → Bool}

/-- What a path has from then on: nothing overwrites a file. -/
def Settled (writable : Bytes → Bool) (path : Bytes) (content : Option Bytes) : Prop :=
  content.isSome = true ∨ writable path = false

/-- The request is passed to the handler of its command, which the debugger only does
when it has started. -/
structure Reaches (config : Config) (s : XDebugger) (command : String) (request : Request) :
    Prop where
  started : s.isStarted = true
  header : HeaderReturns config request
  command : commandName request = some (literal command)

theorem Reaches.onMachine {s : XDebugger} {command : String} {request : Request}
    (h : Reaches config s command request) (files : Bytes → Option Bytes) :
    Reaches config s command (onMachine files request) :=
  ⟨h.started, h.header, h.command⟩

end Steps

def cellCode : Bytes :=
  literal "x = 1"

end XeusZmq.CellFiles
