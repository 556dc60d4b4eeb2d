import XeusZmq.JsonAccess
import XeusZmq.SignatureVerification

/-!
The registration handshake: a kernel sends the ports it has bound to the
registration socket of a client and waits for an acknowledgement.
-/

namespace XeusZmq.Handshake

open XeusZmq.Values
open XeusZmq.Authentication
open XeusZmq.Serializer
open XeusZmq.SignatureVerification
open XeusZmq.Utf8
open XeusZmq.JsonAccess

structure XRegistrationConfiguration where
  transport : Bytes
  ip : Bytes
  signatureScheme : Bytes
  key : Bytes
  kernelId : Bytes

structure XKernelConfiguration where
  transport : Bytes
  ip : Bytes
  signatureScheme : Bytes
  key : Bytes
  controlPort : Bytes
  shellPort : Bytes
  stdinPort : Bytes
  iopubPort : Bytes
  hbPort : Bytes
  deriving DecidableEq, Repr

inductive XConfiguration
  | kernel (conf : XKernelConfiguration)
  | registration (conf : XRegistrationConfiguration)

/-- `fresh` is an `xkernel_configuration` as xeus constructs it. -/
def getKernelConfiguration (fresh : XKernelConfiguration) :
    XConfiguration → XKernelConfiguration
  | .kernel conf => conf
  | .registration conf =>
      { fresh with
        transport := conf.transport
        ip := conf.ip
        signatureScheme := conf.signatureScheme
        key := conf.key }

/-- What `get_socket_port` cuts out of the end point of a bound socket. -/
abbrev Port := {text : Bytes // validUtf8 text = true}

structure BoundPorts where
  control : Port
  shell : Port
  stdin : Port
  iopub : Port
  hb : Port

def updateConfig (ports : BoundPorts) (config : XKernelConfiguration) :
    XKernelConfiguration :=
  { config with
    controlPort := ports.control.val
    shellPort := ports.shell.val
    stdinPort := ports.stdin.val
    iopubPort := ports.iopub.val
    hbPort := ports.hb.val }

/-- The members of the registration, in the order of an object. -/
def connectionInfo (regisConfig : XRegistrationConfiguration)
    (kernelConfig : XKernelConfiguration) : List (Bytes × Bytes) :=
  [(literal "control_port", kernelConfig.controlPort),
    (literal "hb_port", kernelConfig.hbPort),
    (literal "iopub_port", kernelConfig.iopubPort),
    (literal "kernel_id", regisConfig.kernelId),
    (literal "shell_port", kernelConfig.shellPort),
    (literal "stdin_port", kernelConfig.stdinPort)]

/-- The message that `send_connection_info` sends. -/
def connectionInfoMessage (json : JsonLibrary) (auth : XAuthentication)
    (errorHandler : ErrorHandler) (regisConfig : XRegistrationConfiguration)
    (kernelConfig : XKernelConfiguration) : Result Multipart := do
  let msg := stringObject (connectionInfo regisConfig kernelConfig)
  let buffer ← liftJson (json.dump errorHandler msg)
  let sig := auth.signContent buffer
  return serializeZmqId [] [] ++ [sig, buffer]

/-- What `send_connection_info` does with the reply. -/
def checkReply (auth : XAuthentication) (rep : Multipart) : Result Unit := do
  let (_, rep) ← deserializeZmqId rep
  let (repSig, rep) ← pop rep
  let (repContent, _) ← pop rep
  if ← auth.verifyContent repSig repContent then
    return ()
  else
    throw (.exception (.runtimeError "ERROR: Signatures don't match"))

/-- `exchange` is what `recv` leaves in the reply to the message sent, nothing
when it times out. -/
def sendConnectionInfo (json : JsonLibrary) (auth : XAuthentication)
    (errorHandler : ErrorHandler) (regisConfig : XRegistrationConfiguration)
    (kernelConfig : XKernelConfiguration) (exchange : Multipart → Multipart) :
    Result Unit := do
  let wireMsg ← connectionInfoMessage json auth errorHandler regisConfig kernelConfig
  checkReply auth (exchange wireMsg)

/-- The ports in the order in which `wait_for_configuration` reads them. -/
def readPorts (config : XKernelConfiguration) (j : Json) :
    Except JsonException XKernelConfiguration := do
  let controlPort ← stringAt j (literal "control_port")
  let shellPort ← stringAt j (literal "shell_port")
  let stdinPort ← stringAt j (literal "stdin_port")
  let iopubPort ← stringAt j (literal "iopub_port")
  let hbPort ← stringAt j (literal "hb_port")
  return { config with controlPort, shellPort, stdinPort, iopubPort, hbPort }

def ack : Bytes :=
  literal "ACK"

def acknowledgement (ssl : OpenSsl) (hexString : Bytes → Bytes) (key : Bytes)
    (routingIds : List Bytes) : Result Multipart := do
  let auth ← lift (makeXAuthentication ssl hexString (literal "hmac-sha256") key)
  let sig := auth.signContent ack
  return serializeZmqId routingIds [] ++ [sig, ack]

/-- What `wait_for_configuration` does with the frames behind the identities. -/
def answerRegistration (json : JsonLibrary) (ssl : OpenSsl) (hexString : Bytes → Bytes)
    (fresh : XKernelConfiguration) (key : Bytes) (routingIds : List Bytes)
    (wireMsg : Multipart) : Result (XKernelConfiguration × Multipart) := do
  let (_, wireMsg) ← pop wireMsg
  let (content, _) ← pop wireMsg
  let j ← liftJson (json.parse content)
  let config ← liftJson (readPorts { fresh with key } j)
  let wireRep ← acknowledgement ssl hexString key routingIds
  return (config, wireRep)

/-- The configuration returned and the reply sent before. `recv` fails with
`none`. -/
def waitForConfiguration (json : JsonLibrary) (ssl : OpenSsl) (hexString : Bytes → Bytes)
    (fresh : XKernelConfiguration) (key : Bytes) :
    Option Multipart → Result (XKernelConfiguration × Multipart)
  | none => throw (.exception (.runtimeError "Did not receive kernel configuration"))
  | some wireMsg => do
      let (routingIds, wireMsg) ← deserializeZmqId wireMsg
      answerRegistration json ssl hexString fresh key routingIds wireMsg

def sampleConfig (scheme : Bytes) : XRegistrationConfiguration where
  transport := literal "tcp"
  ip := literal "127.0.0.1"
  signatureScheme := scheme
  key := literal "key"
  kernelId := literal "testing_id"

def freshKernel : XKernelConfiguration where
  transport := literal "tcp"
  ip := literal "127.0.0.1"
  signatureScheme := literal "hmac-sha256"
  key := []
  controlPort := []
  shellPort := []
  stdinPort := []
  iopubPort := []
  hbPort := []

end XeusZmq.Handshake
