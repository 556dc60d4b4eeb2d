import XeusZmq.Values
import XeusZmq.Search
import XeusZmq.DecimalText

/-!
The framing of debug adapter messages: the two encoders, the reader of the TCP
stream in `xdap_tcp_client_impl`, and the reader of its control socket.
-/

namespace XeusZmq.DapFraming

open XeusZmq.Values
open XeusZmq.Search
open XeusZmq.DecimalText

def header : Bytes :=
  literal "Content-Length: "

def headerLength : Nat := 16

def separator : Bytes :=
  literal "\r\n\r\n"

def separatorLength : Nat := 4

/-- The buffer that `send_dap_request` and `forward_message` both build. -/
def dapFrame (content : Bytes) : Bytes :=
  header ++ decimal content.length ++ separator ++ content

/-- The two frames sent on the stream socket, the first being its identity. -/
def sendDapRequest (json : JsonLibrary) (tcpId : Bytes) (message : Json) :
    Result (List Bytes) := do
  let content ← liftJson (json.dump .strict message)
  return [tcpId, dapFrame content]

def forwardMessage (json : JsonLibrary) (sendRecvRequest : Bytes → Result Bytes)
    (message : Json) : Result Json := do
  let content ← liftJson (json.dump .strict message)
  liftJson (json.parse (← sendRecvRequest (dapFrame content)))

/-- `std::string::substr(pos, count)`. -/
def substr (text : Bytes) (pos count : Nat) : Except Exception Bytes :=
  if text.length < pos then throw .outOfRange
  else return (text.drop pos).take count

def substrFrom (text : Bytes) (pos : Nat) : Except Exception Bytes :=
  if text.length < pos then throw .outOfRange
  else return text.drop pos

def isSpace (byte : UInt8) : Bool :=
  byte == 32 || (9 ≤ byte && byte ≤ 13)

def splitSign : Bytes → Bool × Bytes
  | 45 :: rest => (true, rest)
  | 43 :: rest => (false, rest)
  | text => (false, text)

/-- `std::stoull` in base ten: what follows the digits is ignored, and a minus
sign negates modulo `2 ^ 64`. -/
def stoull (text : Bytes) : Except Exception Nat :=
  let (negative, unsigned) := splitSign (text.dropWhile isSpace)
  let digits := unsigned.takeWhile isDigit
  let value := digitsValue digits
  if digits = [] then throw .invalidArgument
  else if 2 ^ 64 ≤ value then throw .outOfRange
  else return if negative then (2 ^ 64 - value) % 2 ^ 64 else value

structure StreamChunk where
  identity : Bytes
  content : Bytes

def contents (chunks : List StreamChunk) : Bytes :=
  (chunks.map StreamChunk.content).flatten

/-- Why a reader of the stream does not return. A reader that needs a chunk
when none is left waits for it; `negativeSize` stands for a difference of sizes
that would wrap around. -/
inductive Stop
  | blocked
  | exhausted
  | negativeSize
  | failed (e : Exception)
  deriving DecidableEq, Repr

def liftStop {α : Type} : Except Exception α → Except Stop α
  | .ok a => .ok a
  | .error e => .error (.failed e)

def appendTcpMessage (buffer : Bytes) (chunk : StreamChunk) : Bytes :=
  buffer ++ chunk.content

/-- The loops inside `handle_tcp_socket`: chunks are appended, and the test is
made again, until it gives a value. -/
def receiveUntil {α : Type} (test : Bytes → Option α) :
    Option α → Bytes → List StreamChunk → Except Stop (α × Bytes × List StreamChunk)
  | some a, buffer, chunks => .ok (a, buffer, chunks)
  | none, _, [] => .error .blocked
  | none, buffer, chunk :: chunks =>
      let buffer := appendTcpMessage buffer chunk
      receiveUntil test (test buffer) buffer chunks

/-- The locals of `handle_tcp_socket` that live from one pass of its outer loop
to the next, with the queue it appends to and the chunks still unread. -/
structure Reading where
  buffer : Bytes
  headerPos : Option Nat
  hint : Nat
  queue : List Bytes
  chunks : List StreamChunk

/-- `buffer.size() - msg_pos` is not to wrap around. -/
def checkSize (buffer : Bytes) (msgPos : Nat) : Except Stop Unit :=
  if buffer.length < msgPos then throw .negativeSize else return ()

def fullMessage (msgPos msgSize : Nat) (buffer : Bytes) : Option Unit :=
  if buffer.length - msgPos < msgSize then none else some ()

/-- One pass of the outer loop, with the new value of `messages_received`. The
buffer only grows, so the difference of sizes is checked once. -/
def receiveMessage (reading : Reading) : Except Stop (Bool × Reading) := do
  let (headerPos, buffer, chunks) ← receiveUntil (find header · reading.hint)
    reading.headerPos reading.buffer reading.chunks
  let hint := headerPos + headerLength
  let (separatorPos, buffer, chunks) ← receiveUntil (find separator · hint)
    (find separator buffer hint) buffer chunks
  let number ← liftStop (substr buffer (headerPos + headerLength) separatorPos)
  let msgSize ← liftStop (stoull number)
  let msgPos := separatorPos + separatorLength
  checkSize buffer msgPos
  let ((), buffer, chunks) ← receiveUntil (fullMessage msgPos msgSize)
    (fullMessage msgPos msgSize buffer) buffer chunks
  if buffer.length - msgPos = msgSize then
    let message ← liftStop (substrFrom buffer msgPos)
    return (true, ⟨buffer, headerPos, hint, reading.queue ++ [message], chunks⟩)
  else
    let message ← liftStop (substr buffer msgPos msgSize)
    let hint := msgPos + msgSize
    return (false, ⟨buffer, find header buffer hint, hint, reading.queue ++ [message], chunks⟩)

def handleTcpLoop : Nat → Reading → List Bytes × Except Stop (List StreamChunk)
  | 0, reading => (reading.queue, .error .exhausted)
  | fuel + 1, reading =>
      match receiveMessage reading with
      | .error stop => (reading.queue, .error stop)
      | .ok (true, reading) => (reading.queue, .ok reading.chunks)
      | .ok (false, reading) => handleTcpLoop fuel reading

/-- The queue after the call, and the chunks left unread when it returns. The
local buffer is dropped on return. -/
def handleTcpSocket (chunks : List StreamChunk) (queue : List Bytes) :
    List Bytes × Except Stop (List StreamChunk) :=
  handleTcpLoop ((contents chunks).length + 1) ⟨[], none, 0, queue, chunks⟩

structure ReturnPoint where
  queue : List Bytes
  chunks : List StreamChunk

/-- Calls of `handle_tcp_socket` for as long as the socket is readable. -/
def drainTcp : Nat → ReturnPoint → Except Stop (List ReturnPoint)
  | _, ⟨_, []⟩ => .ok []
  | 0, ⟨_, _ :: _⟩ => .error .exhausted
  | fuel + 1, ⟨queue, chunk :: chunks⟩ =>
      match handleTcpSocket (chunk :: chunks) queue with
      | (_, .error stop) => .error stop
      | (queue, .ok chunks) => (drainTcp fuel ⟨queue, chunks⟩).map (⟨queue, chunks⟩ :: ·)

/-- `json_message["command"] == "attach"`, where `operator[]` throws on what is
neither an object nor null. -/
def isAttach : Json → Result Bool
  | .object members =>
      match members.find? fun member => member.1 == literal "command" with
      | some (_, .string command) => .ok (command == literal "attach")
      | _ => .ok false
  | .null => .ok false
  | _ => .error (.exception (.json .typeError))

/-- The bytes that `handle_control_socket` parses. When there is no separator,
`npos + SEPARATOR_LENGTH` wraps around to three. -/
def controlBody (rawMessage : Bytes) : Except Exception Bytes :=
  match find separator rawMessage 0 with
  | some pos => substrFrom rawMessage (pos + separatorLength)
  | none => substrFrom rawMessage 3

/-- What `handle_control_socket` sends on the stream socket, and whether the
initialization sequence follows. -/
structure ControlOutcome where
  sent : List Bytes
  attached : Result Bool

def handleControlSocket (json : JsonLibrary) (tcpId : Bytes) (waitAttach : Bool)
    (message : Bytes) : ControlOutcome :=
  if waitAttach then
    match lift (controlBody message) >>= fun text => liftJson (json.parse text) with
    | .error e => ⟨[], .error e⟩
    | .ok jsonMessage => ⟨[tcpId, message], isAttach jsonMessage⟩
  else ⟨[tcpId, message], .ok false⟩

end XeusZmq.DapFraming
