import XeusZmq.FlatJson
import XeusZmq.Handshake
import XeusZmq.Runs

/-!
Kernels that register with one client, in any number and order: what the client
returns for each of them and what it is answered.
-/

namespace XeusZmq.HandshakeRuns

open XeusZmq.Values
open XeusZmq.Authentication
open XeusZmq.Serializer
open XeusZmq.SignatureVerification
open XeusZmq.Utf8
open XeusZmq.JsonAccess
open XeusZmq.FlatJson
open XeusZmq.Handshake
open XeusZmq.Runs

/-- What a client and its kernels have in common. The authenticator is the one
that a kernel builds from the registration configuration. -/
structure Setup where
  json : JsonLibrary
  ssl : OpenSsl
  hexString : Bytes → Bytes
  fresh : XKernelConfiguration
  errorHandler : ErrorHandler
  config : XRegistrationConfiguration
  auth : XAuthentication
  hauth : makeXAuthentication ssl hexString config.signatureScheme config.key = .ok auth

/-- A ROUTER socket begins the identities that it makes up with a zero byte. -/
abbrev Identity := {id : Bytes // id.head? = some 0}

theorem identity_ne_delimiter (identity : Identity) : identity.val ≠ delimiter := by
  intro h
  have hhead := h ▸ identity.property
  exact absurd hhead (by decide)

structure Kernel where
  identity : Identity
  kernelId : Bytes
  ports : BoundPorts

namespace Setup

variable (setup : Setup)

def regisConfig (kernel : Kernel) : XRegistrationConfiguration :=
  { setup.config with kernelId := kernel.kernelId }

/-- The configuration that the kernel runs with. -/
def kernelConfig (kernel : Kernel) : XKernelConfiguration :=
  updateConfig kernel.ports
    (getKernelConfiguration setup.fresh (.registration (setup.regisConfig kernel)))

def registration (kernel : Kernel) : Result Multipart :=
  connectionInfoMessage setup.json setup.auth setup.errorHandler (setup.regisConfig kernel)
    (setup.kernelConfig kernel)

/-- The kernel's call of `send_connection_info` when `rep` is the reply. -/
def send (kernel : Kernel) (rep : Multipart) : Result Unit :=
  sendConnectionInfo setup.json setup.auth setup.errorHandler (setup.regisConfig kernel)
    (setup.kernelConfig kernel) fun _ => rep

def wait (wireMsg : Multipart) : Result (XKernelConfiguration × Multipart) :=
  waitForConfiguration setup.json setup.ssl setup.hexString setup.fresh setup.config.key
    (some wireMsg)

end Setup

/-- The messages waiting at the client's socket, each behind the identity of its
sender, and what the calls of `wait_for_configuration` have led to. -/
structure Endpoint where
  inbox : List Multipart
  calls : List (Result (XKernelConfiguration × Multipart))

def Endpoint.init : Endpoint where
  inbox := []
  calls := []

/-- Messages of different kernels are received in any order. -/
inductive Event
  | register (kernel : Kernel)
  | wait (position : Nat)

def step (setup : Setup) (s : Endpoint) : Event → Endpoint
  | .register kernel =>
      match setup.registration kernel with
      | .ok wireMsg => { s with inbox := s.inbox ++ [kernel.identity.val :: wireMsg] }
      | .error _ => s
  | .wait position =>
      match s.inbox[position]? with
      | some wireMsg =>
          { inbox := s.inbox.eraseIdx position, calls := s.calls ++ [setup.wait wireMsg] }
      | none => s

def registered (events : List Event) : List Kernel :=
  events.filterMap fun
    | .register kernel => some kernel
    | .wait _ => none

variable {setup : Setup}

/-- The message is the registration of one of the kernels, as the client's socket
receives it. -/
def Registers (setup : Setup) (kernels : List Kernel) (wireMsg : Multipart) : Prop :=
  ∃ kernel ∈ kernels, ∃ sent, setup.registration kernel = .ok sent ∧
    wireMsg = kernel.identity.val :: sent

theorem Registers.mono {kernels more : List Kernel} {wireMsg : Multipart}
    (h : Registers setup kernels wireMsg) : Registers setup (kernels ++ more) wireMsg := by
  obtain ⟨kernel, hmem, hsent⟩ := h
  exact ⟨kernel, List.mem_append_left more hmem, hsent⟩

structure Served (setup : Setup) (kernels : List Kernel) (s : Endpoint) : Prop where
  inbox : ∀ wireMsg ∈ s.inbox, Registers setup kernels wireMsg
  calls : ∀ call ∈ s.calls, ∃ wireMsg, Registers setup kernels wireMsg ∧
    call = setup.wait wireMsg

theorem Served.mono {kernels more : List Kernel} {s : Endpoint}
    (h : Served setup kernels s) : Served setup (kernels ++ more) s := by
  constructor
  · intro wireMsg hmem
    exact (h.inbox wireMsg hmem).mono
  · intro call hmem
    obtain ⟨wireMsg, hregisters, hcall⟩ := h.calls call hmem
    exact ⟨wireMsg, hregisters.mono, hcall⟩

theorem step_served {kernels : List Kernel} {s : Endpoint} (h : Served setup kernels s)
    (event : Event) : Served setup (kernels ++ registered [event]) (step setup s event) := by
  cases event with
  | register kernel =>
      have hmono : Served setup (kernels ++ [kernel]) s := h.mono
      simp only [step]
      split
      · rename_i sent hsent
        refine ⟨?_, hmono.calls⟩
        intro wireMsg hmem
        rcases List.mem_append.mp hmem with hmem | hmem
        · exact hmono.inbox wireMsg hmem
        · obtain rfl := List.mem_singleton.mp hmem
          exact ⟨kernel, by simp [registered], sent, hsent, rfl⟩
      · exact hmono
  | wait position =>
      have hkernels : kernels ++ registered [.wait position] = kernels := by simp [registered]
      rw [hkernels]
      simp only [step]
      split
      · rename_i received hreceived
        have hmem : received ∈ s.inbox := List.mem_of_getElem? hreceived
        constructor
        · intro wireMsg hrest
          exact h.inbox wireMsg (List.mem_of_mem_eraseIdx hrest)
        · intro call hcall
          rcases List.mem_append.mp hcall with hcall | hcall
          · exact h.calls call hcall
          · exact ⟨received, h.inbox received hmem, List.mem_singleton.mp hcall⟩
      · exact h

theorem run_served (setup : Setup) (events : List Event) :
    Served setup (registered events) (run (step setup) .init events) := by
  apply run_induction (P := fun events s => Served setup (registered events) s)
  · exact ⟨by simp [Endpoint.init], by simp [Endpoint.init]⟩
  · intro events event h
    rw [registered, List.filterMap_append]
    exact step_served h event

theorem connectionInfo_sortedKeys (regisConfig : XRegistrationConfiguration)
    (kernelConfig : XKernelConfiguration) :
    SortedKeys (connectionInfo regisConfig kernelConfig) := by
  show List.Pairwise (fun a b => keyBefore a b = true)
    [literal "control_port", literal "hb_port", literal "iopub_port", literal "kernel_id",
      literal "shell_port", literal "stdin_port"]
  decide

theorem connectionInfo_validKeys (regisConfig : XRegistrationConfiguration)
    (kernelConfig : XKernelConfiguration) :
    ValidKeys (connectionInfo regisConfig kernelConfig) := by
  show ∀ key ∈ [literal "control_port", literal "hb_port", literal "iopub_port",
    literal "kernel_id", literal "shell_port", literal "stdin_port"], validUtf8 key = true
  decide

theorem registration_eq_ok {kernel : Kernel} {sent : Multipart} :
    setup.registration kernel = .ok sent ↔
      ∃ buffer, setup.json.dump setup.errorHandler (stringObject
          (connectionInfo (setup.regisConfig kernel) (setup.kernelConfig kernel))) =
        .ok buffer ∧ sent = [delimiter, setup.auth.signContent buffer, buffer] := by
  simp only [Setup.registration, connectionInfoMessage, bind_eq_ok, liftJson_eq_ok]
  constructor
  · rintro ⟨buffer, hdump, hsent⟩
    exact ⟨buffer, hdump, (Except.ok.inj hsent).symm⟩
  · rintro ⟨buffer, hdump, rfl⟩
    exact ⟨buffer, hdump, rfl⟩

/-- The ports survive the way through JSON, whatever becomes of the kernel id. -/
theorem readPorts_repaired (config : XKernelConfiguration) {repair : Bytes → Bytes}
    (hrepair : ∀ text, validUtf8 text = true → repair text = text) (ports : BoundPorts)
    (regisConfig : XRegistrationConfiguration) (kernelConfig : XKernelConfiguration) :
    readPorts config (stringObject
        ((connectionInfo regisConfig (updateConfig ports kernelConfig)).map
          fun member => (member.1, repair member.2))) =
      .ok (updateConfig ports config) := by
  have hport (port : Port) : repair port.val = port.val := hrepair port.val port.property
  simp only [connectionInfo, updateConfig, List.map_cons, List.map_nil, hport]
  rfl

/-- A registration is answered with the ports of the kernel that sent it and
under the identity of this kernel. -/
theorem wait_registration (hjson : RereadsStrings setup.json) {kernel : Kernel}
    {sent : Multipart} (hsent : setup.registration kernel = .ok sent) :
    setup.wait (kernel.identity.val :: sent) =
      (acknowledgement setup.ssl setup.hexString setup.config.key
        [kernel.identity.val] >>= fun wireRep =>
        .ok (updateConfig kernel.ports { setup.fresh with key := setup.config.key },
          wireRep)) := by
  obtain ⟨buffer, hdump, rfl⟩ := registration_eq_ok.mp hsent
  obtain ⟨repair, hrepair, hmembers⟩ := hjson setup.errorHandler
  have hparse := (hmembers _ (connectionInfo_sortedKeys _ _)
    (connectionInfo_validKeys _ _)).2 buffer hdump
  have hidentity : ∀ id ∈ [kernel.identity.val], id ≠ delimiter := by
    intro id hid
    obtain rfl := List.mem_singleton.mp hid
    exact identity_ne_delimiter kernel.identity
  have hids : deserializeZmqId (kernel.identity.val ::
      [delimiter, setup.auth.signContent buffer, buffer]) =
      .ok ([kernel.identity.val], [setup.auth.signContent buffer, buffer]) :=
    deserializeZmqId_delimiter hidentity _ _
  have hports := readPorts_repaired { setup.fresh with key := setup.config.key } hrepair
    kernel.ports (setup.regisConfig kernel)
    (getKernelConfiguration setup.fresh (.registration (setup.regisConfig kernel)))
  simp only [Setup.wait, waitForConfiguration, hids, ok_bind, answerRegistration, pop_cons,
    hparse, liftJson_ok, Setup.kernelConfig, hports]
  rfl

structure Sha256Works (ssl : OpenSsl) (key : Bytes) : Prop where
  macFetch : ssl.macFetch = true
  macCtxNew : ssl.macCtxNew = true
  calls : (ssl.calls (literal "SHA256") key).AllSucceed 1

theorem acknowledgement_eq {ssl : OpenSsl} {key : Bytes} (hsha256 : Sha256Works ssl key)
    (hexString : Bytes → Bytes) (routingIds : List Bytes) :
    acknowledgement ssl hexString key routingIds =
      .ok (routingIds ++
        [delimiter, code ssl hexString (literal "hmac-sha256") key [ack], ack]) := by
  let client : OpensslXAuthentication :=
    { ssl, hexString, key, hashName := literal "SHA256" }
  have hmake : makeXAuthentication ssl hexString (literal "hmac-sha256") key =
      .ok client.toXAuthentication := by
    have hscheme : literal "hmac-sha256" ≠ literal "none" := by decide
    have hlength : ¬ (literal "hmac-sha256").length < 5 := by decide
    simp only [makeXAuthentication, if_neg hscheme, opensslXAuthentication, if_neg hlength,
      hsha256.macFetch, hsha256.macCtxNew, Bool.not_true, Bool.false_eq_true, if_false]
    rfl
  have hsign : client.toXAuthentication.signContent ack =
      code ssl hexString (literal "hmac-sha256") key [ack] :=
    hexSignature_of_allSucceed client [ack] hsha256.calls
  simp only [acknowledgement, hmake, lift, ok_bind, hsign, serializeZmqId, List.nil_append,
    List.append_assoc, List.cons_append]
  rfl

theorem checkReply_eq_ok_iff {auth : XAuthentication} {rep : Multipart} :
    checkReply auth rep = .ok () ↔
      ∃ ids signature content rest, (∀ id ∈ ids, id ≠ delimiter) ∧
        rep = ids ++ delimiter :: signature :: content :: rest ∧
        auth.verifyContent signature content = .ok true := by
  simp only [checkReply, bind_eq_ok]
  constructor
  · rintro ⟨⟨ids, frames⟩, hids, ⟨signature, frames'⟩, hsignature, ⟨content, rest⟩,
      hcontent, accepted, hverify, hreturn⟩
    obtain ⟨-, hdelimiter, rfl⟩ := deserializeZmqId_eq_ok hids
    obtain rfl : frames = signature :: frames' := by
      cases frames
      · simp at hsignature
      · simpa using hsignature
    obtain rfl : frames' = content :: rest := by
      cases frames'
      · simp at hcontent
      · simpa using hcontent
    cases accepted
    · exact absurd hreturn (by simp [throw, throwThe, MonadExceptOf.throw])
    · exact ⟨ids, signature, content, rest, hdelimiter, rfl, hverify⟩
  · rintro ⟨ids, signature, content, rest, hids, rfl, hverify⟩
    exact ⟨_, deserializeZmqId_delimiter hids signature (content :: rest), _, pop_cons _ _,
      _, pop_cons _ _, true, hverify, rfl⟩

def ports (config : XKernelConfiguration) : List Bytes :=
  [config.controlPort, config.shellPort, config.stdinPort, config.iopubPort, config.hbPort]

theorem send_eq {kernel : Kernel} {sent : Multipart}
    (hsent : setup.registration kernel = .ok sent) (rep : Multipart) :
    setup.send kernel rep = checkReply setup.auth rep := by
  rw [Setup.registration] at hsent
  rw [Setup.send, sendConnectionInfo, hsent, ok_bind]

theorem send_eq_ok_iff {kernel : Kernel} {sent : Multipart}
    (hsent : setup.registration kernel = .ok sent) {signature content : Bytes} :
    setup.send kernel [delimiter, signature, content] = .ok () ↔
      setup.auth.verifyContent signature content = .ok true := by
  rw [send_eq hsent, checkReply_eq_ok_iff]
  constructor
  · rintro ⟨ids, signature', content', rest, hids, hrep, hverify⟩
    cases ids with
    | nil =>
        simp only [List.nil_append, List.cons.injEq, true_and] at hrep
        obtain ⟨rfl, rfl, -⟩ := hrep
        exact hverify
    | cons id ids =>
        obtain ⟨rfl, -⟩ := List.cons.inj hrep
        exact absurd rfl (hids delimiter (by simp))
  · intro hverify
    exact ⟨[], signature, content, [], by simp, rfl, hverify⟩

/-- The call returned the ports of a kernel that registered, its acknowledgement is
routed to this kernel, and `send_connection_info` accepts it. -/
def Completes (setup : Setup) (kernels : List Kernel)
    (call : Result (XKernelConfiguration × Multipart)) : Prop :=
  ∃ kernel ∈ kernels, ∃ config rep, call = .ok (config, kernel.identity.val :: rep) ∧
    ports config = ports (setup.kernelConfig kernel) ∧ setup.send kernel rep = .ok ()

/-- Every call of `wait_for_configuration` completes a handshake, whatever kernels
register and in whatever order. -/
def HandshakesComplete (setup : Setup) : Prop :=
  ∀ events, ∀ call ∈ (run (step setup) .init events).calls,
    Completes setup (registered events) call

theorem wait_eq_ok (hjson : RereadsStrings setup.json)
    (hsha256 : Sha256Works setup.ssl setup.config.key) {kernel : Kernel} {sent : Multipart}
    (hsent : setup.registration kernel = .ok sent) :
    setup.wait (kernel.identity.val :: sent) =
      .ok (updateConfig kernel.ports { setup.fresh with key := setup.config.key },
        kernel.identity.val :: [delimiter,
          code setup.ssl setup.hexString (literal "hmac-sha256") setup.config.key [ack],
          ack]) := by
  rw [wait_registration hjson hsent, acknowledgement_eq hsha256]
  rfl

theorem exists_registration (hjson : RereadsStrings setup.json) :
    ∃ kernel sent, setup.registration kernel = .ok sent := by
  let none : Port := ⟨[], rfl⟩
  let kernel : Kernel := ⟨⟨[0], rfl⟩, [], ⟨none, none, none, none, none⟩⟩
  obtain ⟨repair, -, hmembers⟩ := hjson setup.errorHandler
  have hvalid : ValidStrings (connectionInfo (setup.regisConfig kernel)
      (setup.kernelConfig kernel)) := by
    simp [ValidStrings, connectionInfo, Setup.regisConfig, Setup.kernelConfig,
      updateConfig, kernel, none, validUtf8, validFrom]
  obtain ⟨buffer, hdump⟩ := (hmembers _ (connectionInfo_sortedKeys _ _)
    (connectionInfo_validKeys _ _)).1.mpr (Or.inr hvalid)
  exact ⟨kernel, _, registration_eq_ok.mpr ⟨buffer, hdump, rfl⟩⟩

/-- Whether the kernel accepts the acknowledgement is a matter of its authenticator
alone. -/
theorem handshakesComplete_iff_verify (hjson : RereadsStrings setup.json)
    (hsha256 : Sha256Works setup.ssl setup.config.key) :
    HandshakesComplete setup ↔
      setup.auth.verifyContent
        (code setup.ssl setup.hexString (literal "hmac-sha256") setup.config.key [ack])
        ack = .ok true := by
  constructor
  · intro hcomplete
    obtain ⟨kernel, sent, hsent⟩ := exists_registration hjson
    have hcalls : (run (step setup) .init [.register kernel, .wait 0]).calls =
        [setup.wait (kernel.identity.val :: sent)] := by
      simp [step, hsent, Endpoint.init]
    obtain ⟨other, hother, _, rep, hcall, -, haccept⟩ :=
      hcomplete [.register kernel, .wait 0] _ (hcalls ▸ List.mem_singleton_self _)
    obtain rfl : other = kernel := List.mem_singleton.mp hother
    rw [wait_eq_ok hjson hsha256 hsent] at hcall
    simp only [Except.ok.injEq, Prod.mk.injEq, List.cons.injEq] at hcall
    rw [← hcall.2.2] at haccept
    exact (send_eq_ok_iff hsent).mp haccept
  · intro hverify events call hmem
    obtain ⟨wireMsg, ⟨kernel, hkernel, sent, hsent, rfl⟩, rfl⟩ :=
      (run_served setup events).calls call hmem
    exact ⟨kernel, hkernel, _, _, wait_eq_ok hjson hsha256 hsent, rfl,
      (send_eq_ok_iff hsent).mpr hverify⟩

/-- Codes under different digests differ, within the length of the shorter one. -/
def DigestsDiffer (ssl : OpenSsl) (hexString : Bytes → Bytes) (key text : Bytes) : Prop :=
  ∀ digest digest', (ssl.calls digest key).init = true →
    (ssl.calls digest' key).init = true → ssl.hmac digest ≠ ssl.hmac digest' →
    ¬ hexString (ssl.hmac digest key text) <+: hexString (ssl.hmac digest' key text)

/-- Handshakes complete if and only if the scheme is "none" or its digest is the
one under which the client always signs. -/
theorem handshakesComplete_iff (setup : Setup) (hjson : RereadsStrings setup.json)
    (hsha256 : Sha256Works setup.ssl setup.config.key)
    (havailable : setup.config.signatureScheme ≠ literal "none" →
      (setup.ssl.calls (schemeDigest setup.config.signatureScheme)
        setup.config.key).AllSucceed 1)
    (hdiffer : DigestsDiffer setup.ssl setup.hexString setup.config.key ack) :
    HandshakesComplete setup ↔
      setup.config.signatureScheme = literal "none" ∨
        setup.ssl.hmac (schemeDigest setup.config.signatureScheme) =
          setup.ssl.hmac (literal "SHA256") := by
  rw [handshakesComplete_iff_verify hjson hsha256]
  by_cases hscheme : setup.config.signatureScheme = literal "none"
  · have hauth : setup.auth = noXAuthentication := by
      have hmake := setup.hauth
      rw [hscheme] at hmake
      exact (Except.ok.inj hmake).symm
    simp [hscheme, hauth, noXAuthentication]
  · obtain ⟨self, hself, hcalls, hcode⟩ := makeXAuthentication_openssl hscheme setup.hauth
    have hworks := havailable hscheme
    have hverify : setup.auth.verifyContent
        (code setup.ssl setup.hexString (literal "hmac-sha256") setup.config.key [ack]) ack =
          .ok true ↔
        code setup.ssl setup.hexString setup.config.signatureScheme setup.config.key [ack] <+:
          code setup.ssl setup.hexString (literal "hmac-sha256") setup.config.key [ack] := by
      rw [← hcode [ack] (hcalls ▸ hworks), hself]
      exact compareSignature_eq_true_iff
    have hdigest : schemeDigest (literal "hmac-sha256") = literal "SHA256" := by decide
    rw [hverify, code, code, hdigest, List.flatten_singleton, or_iff_right hscheme]
    constructor
    · intro hfront
      by_contra hother
      exact hdiffer _ _ hworks.1 hsha256.calls.1 hother hfront
    · intro hsame
      rw [hsame]

def sha256Setup : Setup where
  json := flatJsonLibrary
  ssl := sha256OpenSsl
  hexString := lowerHex
  fresh := freshKernel
  errorHandler := .strict
  config := sampleConfig (literal "hmac-sha256")
  auth := sha256Authentication
  hauth := rfl

theorem handshakesComplete_sha256 : HandshakesComplete sha256Setup := by
  refine (handshakesComplete_iff sha256Setup flatJsonLibrary_rereadsStrings
    ⟨rfl, rfl, rfl, fun _ _ => rfl, rfl, rfl⟩ (fun _ => ⟨rfl, fun _ _ => rfl, rfl, rfl⟩)
    ?_).mpr (Or.inr rfl)
  intro digest digest' hdigest hdigest' hother
  obtain rfl := eq_of_beq hdigest
  obtain rfl := eq_of_beq hdigest'
  exact absurd rfl hother

/-- OpenSSL with two digests and the codes of the acknowledgement. -/
def md5OpenSsl : OpenSsl :=
  tabledOpenSsl [(literal "MD5", 16), (literal "SHA256", 32)]
    [((literal "MD5", ack),
      [189, 35, 44, 91, 32, 60, 204, 42, 8, 1, 5, 188, 239, 72, 238, 70]),
    ((literal "SHA256", ack),
      [243, 217, 2, 163, 143, 45, 126, 110, 70, 33, 174, 60, 252, 138, 11, 242, 147, 3, 99,
        118, 38, 24, 41, 110, 75, 215, 236, 15, 104, 104, 219, 162])]

def md5Setup : Setup where
  json := flatJsonLibrary
  ssl := md5OpenSsl
  hexString := lowerHex
  fresh := freshKernel
  errorHandler := .strict
  config := sampleConfig (literal "hmac-md5")
  auth := OpensslXAuthentication.toXAuthentication
    { ssl := md5OpenSsl
      hexString := lowerHex
      key := literal "key"
      hashName := literal "MD5" }
  hauth := rfl

theorem not_handshakesComplete_md5 : ¬ HandshakesComplete md5Setup := by
  have hworks : Sha256Works md5OpenSsl (literal "key") :=
    ⟨rfl, rfl, rfl, fun _ _ => rfl, rfl, rfl⟩
  rw [handshakesComplete_iff_verify flatJsonLibrary_rereadsStrings hworks]
  have hverify : md5Setup.auth.verifyContent
      (code md5OpenSsl lowerHex (literal "hmac-sha256") (literal "key") [ack]) ack =
        .ok false := rfl
  exact fun haccept => absurd (hverify.symm.trans haccept) (by simp)

/-- After a handshake the client holds the configuration of the kernel if and only
if the registration leaves transport, ip and scheme at their defaults. -/
theorem configurationsAgree_iff (setup : Setup) (hjson : RereadsStrings setup.json)
    (kernel : Kernel) (sent wireRep : Multipart) (config : XKernelConfiguration)
    (hsent : setup.registration kernel = .ok sent)
    (hwait : setup.wait (kernel.identity.val :: sent) = .ok (config, wireRep)) :
    config = setup.kernelConfig kernel ↔
      setup.config.transport = setup.fresh.transport ∧
      setup.config.ip = setup.fresh.ip ∧
      setup.config.signatureScheme = setup.fresh.signatureScheme := by
  rw [wait_registration hjson hsent] at hwait
  obtain ⟨rep, -, hreturn⟩ := bind_eq_ok.mp hwait
  obtain ⟨rfl, -⟩ := Prod.mk.inj (Except.ok.inj hreturn)
  simp only [updateConfig, Setup.kernelConfig, getKernelConfiguration, Setup.regisConfig,
    XKernelConfiguration.mk.injEq, and_true]
  constructor
  · rintro ⟨htransport, hip, hscheme⟩
    exact ⟨htransport.symm, hip.symm, hscheme.symm⟩
  · rintro ⟨htransport, hip, hscheme⟩
    exact ⟨htransport.symm, hip.symm, hscheme.symm⟩

def samplePort (text : String) (h : validUtf8 (literal text) = true) : Port :=
  ⟨literal text, h⟩

def sampleKernel : Kernel where
  identity := ⟨[0, 1], rfl⟩
  kernelId := literal "testing_id"
  ports :=
    { control := samplePort "5001" (by decide)
      shell := samplePort "5002" (by decide)
      stdin := samplePort "5003" (by decide)
      iopub := samplePort "5004" (by decide)
      hb := samplePort "5005" (by decide) }

theorem configurationsAgree_defaults :
    ∃ config wireRep sent, sha256Setup.registration sampleKernel = .ok sent ∧
      sha256Setup.wait (sampleKernel.identity.val :: sent) = .ok (config, wireRep) ∧
      config = sha256Setup.kernelConfig sampleKernel := by
  refine ⟨_, _, _, rfl, rfl, ?_⟩
  exact (configurationsAgree_iff sha256Setup flatJsonLibrary_rereadsStrings sampleKernel _ _ _
    rfl rfl).mpr ⟨rfl, rfl, rfl⟩

def ipcSetup : Setup :=
  { sha256Setup with
    config := { sampleConfig (literal "hmac-sha256") with transport := literal "ipc" } }

theorem not_configurationsAgree_ipc :
    ∃ config wireRep sent, ipcSetup.registration sampleKernel = .ok sent ∧
      ipcSetup.wait (sampleKernel.identity.val :: sent) = .ok (config, wireRep) ∧
      config ≠ ipcSetup.kernelConfig sampleKernel := by
  refine ⟨_, _, _, rfl, rfl, ?_⟩
  intro hsame
  exact absurd (congrArg XKernelConfiguration.transport hsame) (by decide)

end XeusZmq.HandshakeRuns
