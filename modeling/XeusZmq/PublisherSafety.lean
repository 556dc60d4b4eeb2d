import XeusZmq.PublisherRuns
import XeusZmq.WireRoundTrip
import XeusZmq.Utf8

/-!
Which messages of a peer end the publisher thread: a subscription is answered
with a JSON document that holds the bytes of its topic.
-/

namespace XeusZmq.PublisherSafety

open XeusZmq.Values
open XeusZmq.Authentication
open XeusZmq.Serializer
open XeusZmq.WireRoundTrip
open XeusZmq.ServerLoops
open XeusZmq.FifoPort
open XeusZmq.Runs
open XeusZmq.Publisher
open XeusZmq.PublisherRuns
open XeusZmq.Utf8

variable {config : Config}

/-- `zmq::poll` has failed otherwise than by an interruption. -/
def PollBroken (events : List Event) : Prop :=
  ∃ num ready pipe, .pass (some num) ready pipe ∈ events ∧ num ≠ eintr

/-- A subscription that cannot be answered has arrived. -/
def Unwelcome (config : Config) (events : List Event) : Prop :=
  ∃ wireMsg ∈ peerMessages events, ∃ topic, XPublisher.subscription wireMsg = some topic ∧
    ∃ call f, config.welcomeMessage call topic = .error f

structure Serving (config : Config) (events : List Event) (s : XPublisher) : Prop where
  peers : (∀ f, s.status ≠ .failed f) →
    Relays XPublisher.subscription (peerMessages events) s.peers (welcomes s)
  frames : ∀ topic message, .welcome topic message ∈ s.sent →
    ∃ call, config.welcomeMessage call topic = .ok message
  controller : ∀ stopMsg ∈ s.controller, .requestStop stopMsg ∈ events
  left : s.status = .left → PollBroken events ∨ ∃ stopMsg, .requestStop stopMsg ∈ events
  failed : ∀ f, s.status = .failed f → PollBroken events ∨ Unwelcome config events

theorem PollBroken.append {events : List Event} (h : PollBroken events) (events' : List Event) :
    PollBroken (events ++ events') := by
  obtain ⟨num, ready, pipe, hmem, hnum⟩ := h
  exact ⟨num, ready, pipe, List.mem_append_left _ hmem, hnum⟩

theorem Unwelcome.append {events : List Event} (h : Unwelcome config events)
    (events' : List Event) : Unwelcome config (events ++ events') := by
  obtain ⟨wireMsg, hmem, hunwelcome⟩ := h
  refine ⟨wireMsg, ?_, hunwelcome⟩
  rw [peerMessages, List.filterMap_append]
  exact List.mem_append_left _ hmem

theorem Serving.append {events : List Event} {s : XPublisher} (h : Serving config events s)
    {event : Event} (hpeer : peerMessage event = none) :
    Serving config (events ++ [event]) s where
  peers hrunning := by
    rw [peerMessages_concat, hpeer, Option.toList_none, List.append_nil]
    exact h.peers hrunning
  frames := h.frames
  controller stopMsg hmem := List.mem_append_left _ (h.controller stopMsg hmem)
  left hleft := by
    rcases h.left hleft with hbroken | ⟨stopMsg, hmem⟩
    · exact Or.inl (hbroken.append _)
    · exact Or.inr ⟨stopMsg, List.mem_append_left _ hmem⟩
  failed f hf := (h.failed f hf).imp (·.append _) (·.append _)

theorem Serving.forward {events : List Event} {s : XPublisher} (h : Serving config events s)
    (pipe : Nat) : Serving config events (s.forward pipe) where
  peers hrunning := by
    rw [forward_peers, welcomes_forward]
    exact h.peers (by simpa using hrunning)
  frames topic message hmem := h.frames topic message (welcome_mem_forward.mp hmem)
  controller := by
    rw [forward_controller]
    exact h.controller
  left hleft := h.left (by simpa using hleft)
  failed f hf := h.failed f (by simpa using hf)

theorem serving_peerServed {events : List Event} {s s' : XPublisher}
    (h : Serving config events s) (hstatus : s.status = .running)
    (hserved : PeerServed config s s') : Serving config events s' := by
  have hrunning : ∀ f, s.status ≠ .failed f := by simp [hstatus]
  have hrelays := h.peers hrunning
  cases hserved with
  | nothing => exact h
  | ignored wireMsg rest hpeers hsubscription =>
      rw [hpeers] at hrelays
      have htake := hrelays.take
      rw [hsubscription, Option.toList_none, List.append_nil] at htake
      exact ⟨fun _ => htake, h.frames, h.controller, h.left, h.failed⟩
  | welcomed wireMsg rest call topic message hpeers hsubscription hmessage =>
      rw [hpeers] at hrelays
      have htake := hrelays.take
      rw [hsubscription] at htake
      refine ⟨fun _ => ?_, ?_, h.controller, h.left, h.failed⟩
      · simpa [welcomes] using htake
      · intro topic' message' hmem
        rcases List.mem_append.mp hmem with hmem | hmem
        · exact h.frames topic' message' hmem
        · obtain ⟨rfl, rfl⟩ := Sent.welcome.inj (List.mem_singleton.mp hmem)
          exact ⟨call, hmessage⟩
  | failed wireMsg rest call topic f hpeers hsubscription hmessage =>
      have hmem : wireMsg ∈ peerMessages events :=
        hrelays.mem_arrived (hpeers ▸ List.mem_cons_self)
      have hunwelcome : Unwelcome config events :=
        ⟨wireMsg, hmem, topic, hsubscription, call, f, hmessage⟩
      exact ⟨fun hnot => absurd rfl (hnot f), h.frames, h.controller, by simp,
        fun _ _ => Or.inr hunwelcome⟩

theorem serving_passed {events : List Event} {pollError : Option Nat} {ready : Ready}
    {pipe : Nat} {s s' : XPublisher} (h : Serving config events s)
    (hpassed : Passed config pollError ready pipe s s') :
    Serving config (events ++ [.pass pollError ready pipe]) s' := by
  have hsame : Serving config (events ++ [.pass pollError ready pipe]) s := h.append rfl
  have hfirst : Serving config (events ++ [.pass pollError ready pipe])
      (if ready.listener then s.forward pipe else s) := by
    split_ifs
    · exact hsame.forward pipe
    · exact hsame
  have hfirstStatus := firstBranch_eq XPublisher.status (forward_status pipe) ready.listener s
  cases hpassed with
  | ended => exact hsame
  | pollFailed num status hstatus hpoll hkeep =>
      have hrunning : ∀ f, s.status ≠ .failed f := by simp [hstatus]
      have hbroken : status ≠ .running →
          PollBroken (events ++ [.pass pollError ready pipe]) := fun hne => by
        refine ⟨num, ready, pipe, ?_, fun hintr => hne (hkeep hintr)⟩
        rw [hpoll]
        exact List.mem_concat_self
      refine ⟨fun _ => hsame.peers hrunning, hsame.frames, hsame.controller, fun hleft => ?_,
        fun f hf => ?_⟩
      · exact Or.inl (hbroken (by rintro rfl; exact absurd hleft nofun))
      · exact Or.inl (hbroken (by rintro rfl; exact absurd hf nofun))
  | answered s₁ stopMsg rest hstatus hpoll hs₁ hready hcontroller =>
      rw [← hs₁] at hfirst hfirstStatus
      have hrunning : ∀ f, s₁.status ≠ .failed f := by simp [hfirstStatus, hstatus]
      have hstop : .requestStop stopMsg ∈ events ++ [.pass pollError ready pipe] :=
        hsame.controller stopMsg (hcontroller ▸ List.mem_cons_self)
      refine ⟨fun _ => hfirst.peers hrunning, hfirst.frames, fun stopMsg' hmem => ?_,
        fun _ => Or.inr ⟨stopMsg, hstop⟩, nofun⟩
      exact hsame.controller stopMsg' (hcontroller ▸ List.mem_cons_of_mem _ hmem)
  | served s₁ s₂ hstatus hpoll hs₁ hcontroller hserved =>
      rw [← hs₁] at hfirst hfirstStatus
      exact serving_peerServed hfirst (hfirstStatus.trans hstatus) hserved
  | skipped s₁ hstatus hpoll hs₁ => exact hs₁ ▸ hfirst

theorem run_serving (config : Config) (events : List Event) :
    Serving config events (run config events) := by
  apply run_induction (P := Serving config)
  · exact ⟨fun _ => .initial, nofun, nofun, nofun, nofun⟩
  · intro events event ih
    cases event with
    | publish pipe wireMsg =>
        have hsame : Serving config (events ++ [.publish pipe wireMsg]) (run config events) :=
          ih.append rfl
        exact ⟨hsame.peers, hsame.frames, hsame.controller, hsame.left, hsame.failed⟩
    | requestStop stopMsg =>
        have hsame : Serving config (events ++ [.requestStop stopMsg]) (run config events) :=
          ih.append rfl
        refine ⟨hsame.peers, hsame.frames, ?_, hsame.left, hsame.failed⟩
        intro stopMsg' hmem
        rcases List.mem_append.mp hmem with hmem | hmem
        · exact hsame.controller stopMsg' hmem
        · rw [List.mem_singleton.mp hmem]
          exact List.mem_concat_self
    | peer wireMsg =>
        refine ⟨fun hrunning => ?_, ih.frames, ?_, fun hleft => ?_, fun f hf => ?_⟩
        · rw [peerMessages_concat]
          exact (ih.peers hrunning).arrive wireMsg
        · exact fun stopMsg hmem => List.mem_append_left _ (ih.controller stopMsg hmem)
        · rcases ih.left hleft with hbroken | ⟨stopMsg, hmem⟩
          · exact Or.inl (hbroken.append _)
          · exact Or.inr ⟨stopMsg, List.mem_append_left _ hmem⟩
        · exact (ih.failed f hf).imp (·.append _) (·.append _)
    | pass pollError ready pipe =>
        exact serving_passed ih (pass_passed config pollError ready pipe _)

/-! Everything that waits is dealt with in the end. -/

def everything : Ready :=
  ⟨true, true, true⟩

theorem length_forward (pipe : Nat) (s : XPublisher) :
    (s.forward pipe).listener.length = s.listener.length - 1 := by
  unfold XPublisher.forward
  split
  · rename_i source message rest hreceive
    rw [length_takeFrom (receive_eq_some hreceive)]
    rfl
  · rename_i hreceive
    rw [receive_eq_none hreceive]
    rfl

theorem peerServed_progress {s s' : XPublisher} (hserved : PeerServed config s s')
    (hwelcome : ∀ wireMsg ∈ s.peers, ∀ topic, XPublisher.subscription wireMsg = some topic →
      ∀ call f, config.welcomeMessage call topic ≠ .error f) :
    s'.peers = s.peers.tail ∧ s'.listener = s.listener ∧ s'.controller = s.controller ∧
      s'.status = s.status := by
  cases hserved with
  | nothing hpeers => exact ⟨by rw [hpeers]; rfl, rfl, rfl, rfl⟩
  | ignored wireMsg rest hpeers => exact ⟨by rw [hpeers]; rfl, rfl, rfl, rfl⟩
  | welcomed wireMsg rest call topic message hpeers => exact ⟨by rw [hpeers]; rfl, rfl, rfl, rfl⟩
  | failed wireMsg rest call topic f hpeers hsubscription hmessage =>
      exact absurd hmessage
        (hwelcome wireMsg (hpeers ▸ List.mem_cons_self) topic hsubscription call f)

/-- The thread is running, no stop is requested, and every subscription that
waits can be answered. -/
structure Running (config : Config) (s : XPublisher) : Prop where
  status : s.status = .running
  controller : s.controller = []
  welcome : ∀ wireMsg ∈ s.peers, ∀ topic, XPublisher.subscription wireMsg = some topic →
    ∀ call f, config.welcomeMessage call topic ≠ .error f

def waiting (s : XPublisher) : Nat :=
  s.listener.length + s.peers.length

theorem running_pass {s : XPublisher} (h : Running config s)
    (hwaits : ¬ (s.listener = [] ∧ s.peers = [])) :
    Running config (s.pass config none everything 0) ∧
      waiting (s.pass config none everything 0) < waiting s := by
  have hpass : s.pass config none everything 0 = (s.forward 0).servePeer config := by
    simp [XPublisher.pass, h.status, everything, h.controller]
  obtain ⟨hpeers, hlistener, hcontroller, hstatus⟩ :=
    peerServed_progress (servePeer_served config (s.forward 0)) (by simpa using h.welcome)
  rw [← hpass] at hpeers hlistener hcontroller hstatus
  simp only [forward_peers, forward_controller, forward_status] at hpeers hcontroller hstatus
  refine ⟨⟨hstatus.trans h.status, hcontroller.trans h.controller, fun wireMsg hmem => ?_⟩, ?_⟩
  · exact h.welcome wireMsg (List.mem_of_mem_tail (hpeers ▸ hmem))
  · have hne : s.listener.length + s.peers.length ≠ 0 := by
      simpa [List.length_eq_zero_iff] using hwaits
    rw [waiting, waiting, hlistener, length_forward, hpeers, List.length_tail]
    omega

theorem drains {s : XPublisher} (h : Running config s) :
    ∃ n s', Runs.run (XPublisher.step config) s (List.replicate n (.pass none everything 0)) = s' ∧
      s'.listener = [] ∧ s'.peers = [] := by
  obtain ⟨n, -, hempty⟩ := run_replicate_reaches (XPublisher.step config) (.pass none everything 0)
    (Running config) (fun s => s.listener = [] ∧ s.peers = []) waiting
    (fun _ hs hwaits => running_pass hs hwaits) h
  exact ⟨n, _, rfl, hempty⟩

/-- The thread runs until it is asked to stop, forwards each pipe in order and
unchanged, and welcomes each subscription once. -/
structure Survives (config : Config) (events : List Event) : Prop where
  neverFails : ∀ f, (run config events).status ≠ .failed f
  leaves : (run config events).status = .left → ∃ stopMsg, .requestStop stopMsg ∈ events
  forwards : (ports (run config events)).Relay some (publications events)
  welcomes : Relays XPublisher.subscription (peerMessages events) (run config events).peers
    (welcomes (run config events))
  frames : ∀ topic message, .welcome topic message ∈ (run config events).sent →
    ∃ call, config.welcomeMessage call topic = .ok message
  reaches : (∀ stopMsg, .requestStop stopMsg ∉ events) → ∃ n s',
    run config (events ++ List.replicate n (.pass none everything 0)) = s' ∧
      s'.listener = [] ∧ s'.peers = []

theorem survives {events : List Event} (hpoll : ¬ PollBroken events)
    (hwelcome : ¬ Unwelcome config events) : Survives config events := by
  have hserving := run_serving config events
  have hfailed : ∀ f, (run config events).status ≠ .failed f := fun f hf =>
    (hserving.failed f hf).elim hpoll hwelcome
  have hleft : (run config events).status = .left → ∃ stopMsg, .requestStop stopMsg ∈ events :=
    fun hs => (hserving.left hs).resolve_left hpoll
  have hrelays := hserving.peers hfailed
  refine ⟨hfailed, hleft, run_relay config events, hrelays, hserving.frames, fun hstop => ?_⟩
  have hstatus : (run config events).status = .running := by
    cases hs : (run config events).status with
    | running => rfl
    | left =>
        obtain ⟨stopMsg, hmem⟩ := hleft hs
        exact absurd hmem (hstop stopMsg)
    | failed f => exact absurd hs (hfailed f)
  have hcontroller : (run config events).controller = [] := by
    apply List.eq_nil_iff_forall_not_mem.mpr
    exact fun stopMsg hmem => hstop stopMsg (hserving.controller stopMsg hmem)
  obtain ⟨n, s', hrun, hdrained⟩ := drains ⟨hstatus, hcontroller,
    fun wireMsg hmem topic hsubscription call f hmessage =>
      hwelcome ⟨wireMsg, hrelays.mem_arrived hmem, topic, hsubscription, call, f, hmessage⟩⟩
  refine ⟨n, s', ?_, hdrained⟩
  rw [PublisherRuns.run, Runs.run_append]
  exact hrun

/-! The publisher of a server. -/

/-- `dump` refuses exactly the values that hold a string that is not UTF-8, and
only under the strict handler. -/
def DumpsUtf8 (json : JsonLibrary) : Prop :=
  ∀ errorHandler part, (∃ text, json.dump errorHandler part = .ok text) ↔
    errorHandler ≠ .strict ∨ validJson part = true

def serverConfig (json : JsonLibrary) (auth : XAuthentication) (errorHandler : ErrorHandler)
    (makeHeader : Nat → Json) : Config where
  serializeIopubMsgCb := some (serializeIopub json auth errorHandler)
  makeHeader := makeHeader

theorem welcomeMessage_ok_iff {json : JsonLibrary} (hjson : DumpsUtf8 json)
    (auth : XAuthentication) (errorHandler : ErrorHandler) {makeHeader : Nat → Json}
    (hheader : ∀ call, validJson (makeHeader call) = true) (call : Nat) (topic : Bytes) :
    (∃ message, (serverConfig json auth errorHandler makeHeader).welcomeMessage call topic =
      .ok message) ↔ errorHandler ≠ .strict ∨ validUtf8 topic = true := by
  have hcontent : validJson (.object [(literal "subscription", .string topic)]) =
      validUtf8 topic := by
    have hkey : validUtf8 (literal "subscription") = true := by decide
    simp [validJson, validMembers, hkey]
  rw [← hcontent, ← hjson]
  show (∃ message, serializeIopub json auth errorHandler
    (createXpubMessage (makeHeader call) topic) = .ok message) ↔ _
  simp only [serializeIopub_eq_ok]
  constructor
  · rintro ⟨message, frames, hwrites, -⟩
    exact ⟨frames.content, hwrites.content⟩
  · rintro ⟨content, hdump⟩
    obtain ⟨header, hheader⟩ := (hjson errorHandler (makeHeader call)).mpr (Or.inr (hheader call))
    obtain ⟨empty, hempty⟩ := (hjson errorHandler (.object [])).mpr (Or.inr rfl)
    exact ⟨_, ⟨auth.sign header empty empty content, header, empty, empty, content, []⟩,
      ⟨rfl, hheader, hempty, hempty, hdump, rfl⟩, rfl⟩

/-- In every run in which no more than `inputs` comes from peers and
`zmq::poll` is not broken, the publisher survives. -/
def PeersNeverStop (config : Config) (inputs : List Multipart) : Prop :=
  ∀ events, peerMessages events <+: inputs → ¬ PollBroken events → Survives config events

theorem peerMessages_map_peer (inputs : List Multipart) (n : Nat) :
    peerMessages (inputs.map .peer ++ List.replicate n (.pass none everything 0)) = inputs := by
  have hnone : (List.replicate n (Event.pass none everything 0)).filterMap peerMessage = [] := by
    simp [List.filterMap_replicate, peerMessage]
  have hpeers : (inputs.map Event.peer).filterMap peerMessage = inputs := by
    simp [List.filterMap_map, Function.comp_def, peerMessage]
  rw [peerMessages, List.filterMap_append, hnone, hpeers, List.append_nil]

theorem not_pollBroken (inputs : List Multipart) (n : Nat) :
    ¬ PollBroken (inputs.map .peer ++ List.replicate n (.pass none everything 0)) := by
  rintro ⟨num, ready, pipe, hmem, -⟩
  rcases List.mem_append.mp hmem with hmem | hmem
  · simp at hmem
  · simpa using (List.mem_replicate.mp hmem).2

theorem welcome_of_peersNeverStop {inputs : List Multipart} (h : PeersNeverStop config inputs)
    {wireMsg : Multipart} (hmem : wireMsg ∈ inputs) {topic : Bytes}
    (hsubscription : XPublisher.subscription wireMsg = some topic) :
    ∃ call message, config.welcomeMessage call topic = .ok message := by
  have hrun (n : Nat) :
      Survives config (inputs.map .peer ++ List.replicate n (.pass none everything 0)) :=
    h _ (by rw [peerMessages_map_peer]) (not_pollBroken inputs n)
  have hfirst : Survives config (inputs.map .peer) := by simpa using hrun 0
  obtain ⟨n, s', hs', -, hpeers⟩ := hfirst.reaches (by simp)
  have hwelcomes := (hrun n).welcomes
  rw [peerMessages_map_peer, hs', hpeers] at hwelcomes
  have htopic : topic ∈ welcomes s' := by
    rw [hwelcomes.output_eq]
    exact List.mem_filterMap.mpr ⟨wireMsg, hmem, hsubscription⟩
  obtain ⟨sent, hsent, hwelcome⟩ := List.mem_filterMap.mp htopic
  cases sent with
  | forwarded pipe message => exact absurd hwelcome nofun
  | welcome topic' message =>
      obtain rfl : topic' = topic := Option.some.inj hwelcome
      rw [← hs'] at hsent
      obtain ⟨call, hmessage⟩ := (hrun n).frames topic' message hsent
      exact ⟨call, message, hmessage⟩

/-- A peer can end the publisher if and only if the handler is strict and some
subscription has a topic that is not UTF-8. -/
theorem peersNeverStop_iff (json : JsonLibrary) (hjson : DumpsUtf8 json)
    (auth : XAuthentication) (errorHandler : ErrorHandler) (makeHeader : Nat → Json)
    (hheader : ∀ call, validJson (makeHeader call) = true) (inputs : List Multipart) :
    PeersNeverStop (serverConfig json auth errorHandler makeHeader) inputs ↔
      errorHandler ≠ .strict ∨ ∀ wireMsg ∈ inputs, ∀ topic,
        XPublisher.subscription wireMsg = some topic → validUtf8 topic = true := by
  have hmessage := welcomeMessage_ok_iff hjson auth errorHandler hheader
  constructor
  · intro h
    by_cases hstrict : errorHandler = .strict
    · right
      intro wireMsg hmem topic hsubscription
      obtain ⟨call, hok⟩ := welcome_of_peersNeverStop h hmem hsubscription
      exact ((hmessage call topic).mp hok).resolve_left (not_not_intro hstrict)
    · exact Or.inl hstrict
  · intro hvalid events hinputs hpoll
    apply survives hpoll
    rintro ⟨wireMsg, hmem, topic, hsubscription, call, f, hf⟩
    have hok : errorHandler ≠ .strict ∨ validUtf8 topic = true :=
      hvalid.imp_right fun hutf8 => hutf8 wireMsg (hinputs.subset hmem) topic hsubscription
    obtain ⟨message, hok⟩ := (hmessage call topic).mpr hok
    exact absurd (hok.symm.trans hf) nofun

mutual

/-- The compact text of a value, cut down to texts without control characters
and to numbers that are integers. -/
def dumpText : Json → Bytes
  | .null => literal "null"
  | .boolean value => literal (toString value)
  | .integer value => literal (toString value)
  | .float _ => literal "null"
  | .string text => dumpString text
  | .array elements => literal "[" ++ dumpElements elements ++ literal "]"
  | .object members => literal "\x7b" ++ dumpMembers members ++ literal "\x7d"

def dumpElements : List Json → Bytes
  | [] => []
  | [element] => dumpText element
  | element :: elements => dumpText element ++ literal "," ++ dumpElements elements

def dumpMembers : List (Bytes × Json) → Bytes
  | [] => []
  | [(key, value)] => dumpString key ++ literal ":" ++ dumpText value
  | (key, value) :: members =>
      dumpString key ++ literal ":" ++ dumpText value ++ literal "," ++ dumpMembers members

def dumpString (text : Bytes) : Bytes :=
  let escaped := text.flatMap fun byte =>
    if byte = 34 ∨ byte = 92 then [92, byte] else [byte]
  literal "\"" ++ escaped ++ literal "\""

end

def utf8Library : JsonLibrary where
  dump errorHandler part :=
    if errorHandler = .strict ∧ validJson part = false then .error .typeError
    else .ok (dumpText part)
  parse _ := .error .parseError

theorem utf8Library_dumpsUtf8 : DumpsUtf8 utf8Library := by
  intro errorHandler part
  by_cases hrefused : errorHandler = .strict ∧ validJson part = false
  · simp [utf8Library, hrefused]
  · simp only [utf8Library, if_neg hrefused, Except.ok.injEq, exists_eq', true_iff]
    rw [not_and_or, Bool.not_eq_false] at hrefused
    exact hrefused

def welcomeHeader : Json :=
  .object [(literal "msg_type", .string (literal "iopub_welcome"))]

/-- A subscription to everything, one to a topic, an unsubscription, an empty
frame and a message of two frames. -/
theorem peersNeverStop_utf8 :
    PeersNeverStop (serverConfig utf8Library sha256Authentication .strict fun _ => welcomeHeader)
      [[[1]], [1 :: literal "kernel"], [0 :: literal "kernel"], [[]], [[1], [255]]] := by
  apply (peersNeverStop_iff utf8Library utf8Library_dumpsUtf8 sha256Authentication .strict
    (fun _ => welcomeHeader) (fun _ => by decide) _).mpr
  right
  intro wireMsg hmem topic hsubscription
  simp only [List.mem_cons, List.not_mem_nil, or_false] at hmem
  rcases hmem with rfl | rfl | rfl | rfl | rfl
  · obtain rfl := Option.some.inj hsubscription
    decide
  · obtain rfl := Option.some.inj hsubscription
    decide
  · exact absurd hsubscription nofun
  · exact absurd hsubscription nofun
  · exact absurd hsubscription nofun

theorem not_peersNeverStop :
    ¬ PeersNeverStop (serverConfig utf8Library sha256Authentication .strict fun _ => welcomeHeader)
      [[[1, 255]]] := by
  intro h
  have hsurvives := h [.peer [[1, 255]], .pass none everything 0] (List.prefix_refl _)
    (not_pollBroken [[[1, 255]]] 1)
  exact hsurvives.neverFails _ rfl

end XeusZmq.PublisherSafety
