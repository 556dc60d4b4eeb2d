import XeusZmq.FlatJson
import XeusZmq.PublisherSafety

/-!
Whether the welcome to a subscription reaches the subscriber, which ZeroMQ sends the
messages of which the first frame begins with its topic.
-/

namespace XeusZmq.PublisherWelcome

open XeusZmq.Values
open XeusZmq.Authentication
open XeusZmq.Serializer
open XeusZmq.WireRoundTrip
open XeusZmq.Utf8
open XeusZmq.JsonAccess
open XeusZmq.FlatJson
open XeusZmq.Runs
open XeusZmq.Publisher
open XeusZmq.PublisherRuns
open XeusZmq.PublisherSafety

/-- A socket with these subscriptions is sent the message. -/
def Receives (filters : List Bytes) (wireMsg : Multipart) : Prop :=
  ∃ filter ∈ filters, ∃ first rest, wireMsg = first :: rest ∧ filter <+: first

structure Welcomes (json : JsonLibrary) (auth : XAuthentication) (topic : Bytes)
    (wireMsg : Multipart) : Prop where
  frames : ∃ first rest, wireMsg = first :: delimiter :: rest ∧ topic <+: first
  received : Receives [topic] wireMsg
  decodes : ∃ msg, deserializeIopub json auth wireMsg = .ok msg ∧
    findMember msg.data.content (literal "subscription") = some (.string topic)

/-- In every run, the pass that takes a subscription to the topic sends its welcome. -/
def SubscriberWelcomed (config : Config) (json : JsonLibrary) (auth : XAuthentication)
    (topic : Bytes) : Prop :=
  ∀ events peers (ready : Ready) pipe s, run config events = s → s.status = .running →
    s.peers = [1 :: topic] :: peers → ready.publisher = true →
    (ready.controller = true → s.controller = []) →
    ∃ message, (run config (events ++ [.pass none ready pipe])).sent =
        (if ready.listener then s.forward pipe else s).sent ++ [.welcome topic message] ∧
      Welcomes json auth topic message

/-- Headers as `xeus::make_header` builds them. -/
def StringHeaders (makeHeader : Nat → Json) : Prop :=
  ∀ call, ∃ members : List (Bytes × Bytes), SortedKeys members ∧ ValidKeys members ∧
    ValidStrings members ∧ makeHeader call = stringObject members

section Passes

variable {config : Config} {s : XPublisher} {topic : Bytes} {peers : List Multipart}
  {ready : Ready} {pipe : Nat}

theorem pass_subscription (hstatus : s.status = .running)
    (hpeers : s.peers = [1 :: topic] :: peers) (hready : ready.publisher = true)
    (hcontroller : ready.controller = true → s.controller = []) :
    s.pass config none ready pipe =
      ({ (if ready.listener then s.forward pipe else s) with peers }).welcome config topic := by
  unfold XPublisher.pass
  rw [hstatus]
  simp only
  generalize hfirst : (if ready.listener then s.forward pipe else s) = s₁
  have hpeers₁ : s₁.peers = [1 :: topic] :: peers :=
    hfirst ▸ (firstBranch_eq XPublisher.peers (forward_peers pipe) ready.listener s).trans hpeers
  have hcontroller₁ : s₁.controller = s.controller :=
    hfirst ▸ firstBranch_eq XPublisher.controller (forward_controller pipe) ready.listener s
  rw [← hcontroller₁] at hcontroller
  rw [if_neg (by simpa using hcontroller), if_pos hready, XPublisher.servePeer, hpeers₁]
  rfl

theorem welcome_sent {message : Multipart}
    (hmessage : config.welcomeMessage s.sent.length topic = .ok message) :
    (s.welcome config topic).sent = s.sent ++ [.welcome topic message] := by
  rw [XPublisher.welcome, hmessage]

end Passes

section Messages

variable {json : JsonLibrary} {auth : XAuthentication} {errorHandler : ErrorHandler}
  {makeHeader : Nat → Json} {topic : Bytes}

theorem welcomeMessage_frames {call : Nat} {message : Multipart}
    (h : (serverConfig json auth errorHandler makeHeader).welcomeMessage call topic =
      .ok message) : ∃ rest, message = [] :: delimiter :: rest := by
  obtain ⟨frames, -, hframes⟩ := serializeIopub_eq_ok.mp h
  exact ⟨frames.toMultipart, hframes⟩

/-- An object of valid strings comes back as it was. -/
theorem reparsed_stringObject (hjson : RereadsStrings json) {members : List (Bytes × Bytes)}
    (hsorted : SortedKeys members) (hkeys : ValidKeys members)
    (hstrings : ValidStrings members) :
    Reparsed json errorHandler (stringObject members) (stringObject members) := by
  obtain ⟨repair, hrepair, hreread⟩ := hjson errorHandler
  obtain ⟨hdumps, hparses⟩ := hreread members hsorted hkeys
  obtain ⟨text, htext⟩ := hdumps.mpr (.inr hstrings)
  have hsame : members.map (fun member => (member.1, repair member.2)) = members := by
    conv_rhs => rw [← List.map_id members]
    refine List.map_congr_left fun member hmember => ?_
    rw [hrepair member.2 (hstrings member hmember)]
    rfl
  refine ⟨text, htext, ?_⟩
  rw [hparses text htext, hsame]

theorem reparsed_empty (hjson : RereadsStrings json) :
    Reparsed json errorHandler (.object []) (.object []) :=
  @reparsed_stringObject json errorHandler hjson [] .nil (by simp [ValidKeys])
    (by simp [ValidStrings])

/-- The welcome is built, and decodes to the topic it was asked for. -/
theorem welcomeMessage_decodes (hauth : AcceptsOwnSignatures auth) (hjson : RereadsStrings json)
    (hheader : StringHeaders makeHeader) (htopic : validUtf8 topic = true) (call : Nat) :
    ∃ message, (serverConfig json auth errorHandler makeHeader).welcomeMessage call topic =
        .ok message ∧
      ∃ msg, deserializeIopub json auth message = .ok msg ∧
        findMember msg.data.content (literal "subscription") = some (.string topic) := by
  obtain ⟨members, hsorted, hkeys, hstrings, hmembers⟩ := hheader call
  obtain ⟨header, hheaderDump, hheaderParse⟩ :=
    @reparsed_stringObject json errorHandler hjson members hsorted hkeys hstrings
  obtain ⟨empty, hemptyDump, hemptyParse⟩ := @reparsed_empty json errorHandler hjson
  obtain ⟨content, hcontentDump, hcontentParse⟩ :=
    @reparsed_stringObject json errorHandler hjson [(literal "subscription", topic)]
      (List.pairwise_singleton _ _) (by simpa [ValidKeys] using by decide)
      (by simpa [ValidStrings] using htopic)
  let frames : BaseFrames :=
    ⟨auth.sign header empty empty content, header, empty, empty, content, []⟩
  have hwrites : Writes json auth errorHandler
      (createXpubMessage (makeHeader call) topic).data frames :=
    ⟨rfl, hmembers ▸ hheaderDump, hemptyDump, hemptyDump, hcontentDump, rfl⟩
  have hreads : Reads json auth frames (createXpubMessage (makeHeader call) topic).data :=
    ⟨hmembers ▸ hheaderParse, hemptyParse, hemptyParse, hcontentParse, rfl,
      hauth.verify_sign _ _ _ _⟩
  refine ⟨_, serializeIopub_eq_ok.mpr ⟨frames, hwrites, rfl⟩, _,
    deserializeIopub_topic _ _ hreads, ?_⟩
  simp [createXpubMessage, findMember]

/-- The first frame is empty, whatever the topic. -/
theorem eq_nil_of_welcomed
    (h : SubscriberWelcomed (serverConfig json auth errorHandler makeHeader) json auth topic) :
    topic = [] := by
  obtain ⟨message, hsent, hwelcomes⟩ :=
    h [.peer [1 :: topic]] [] everything 0 _ rfl rfl rfl rfl fun _ => rfl
  have hmem : .welcome topic message ∈ (run (serverConfig json auth errorHandler makeHeader)
      ([.peer [1 :: topic]] ++ [.pass none everything 0])).sent := by
    rw [hsent]
    exact List.mem_concat_self
  obtain ⟨call, hmessage⟩ := (run_serving _ _).frames topic message hmem
  obtain ⟨rest, hframes⟩ := welcomeMessage_frames hmessage
  obtain ⟨first, rest', hfirst, htopic⟩ := hwelcomes.frames
  obtain ⟨rfl, -⟩ := List.cons.inj (hframes.symm.trans hfirst)
  exact List.prefix_nil.mp htopic

end Messages

/-- Only a subscriber to everything is sent its welcome. -/
theorem subscriberWelcomed_iff (ssl : OpenSsl) (hexString : Bytes → Bytes) (scheme key : Bytes)
    (auth : XAuthentication) (hauth : makeXAuthentication ssl hexString scheme key = .ok auth)
    (json : JsonLibrary) (hjson : RereadsStrings json) (errorHandler : ErrorHandler)
    (makeHeader : Nat → Json) (hheader : StringHeaders makeHeader) (topic : Bytes)
    (hutf8 : validUtf8 topic = true) :
    SubscriberWelcomed (serverConfig json auth errorHandler makeHeader) json auth topic ↔
      topic = [] := by
  constructor
  · exact eq_nil_of_welcomed
  · rintro rfl events peers ready pipe s rfl hstatus hpeers hready hcontroller
    have hown := makeXAuthentication_acceptsOwnSignatures hauth
    obtain ⟨message, hmessage, hdecodes⟩ :=
      @welcomeMessage_decodes json auth errorHandler makeHeader [] hown hjson hheader hutf8 _
    obtain ⟨rest, hframes⟩ := welcomeMessage_frames hmessage
    refine ⟨message, ?_, ⟨[], rest, hframes, List.nil_prefix⟩,
      ⟨[], List.mem_singleton_self [], [], delimiter :: rest, hframes, List.nil_prefix⟩,
      hdecodes⟩
    rw [run_append_cons]
    change (XPublisher.pass _ _ _ _ _).sent = _
    rw [pass_subscription hstatus hpeers hready hcontroller]
    exact welcome_sent hmessage

/-- A header with the members that `xeus::make_header` gives it. -/
def sampleHeader : List (Bytes × Bytes) :=
  [(literal "date", literal "2024-01-01T00:00:00.000000Z"), (literal "msg_id", literal "1f2e"),
    (literal "msg_type", literal "iopub_welcome"), (literal "session", []),
    (literal "username", []), (literal "version", literal "5.3")]

theorem stringHeaders_sampleHeader : StringHeaders fun _ => stringObject sampleHeader := by
  intro call
  refine ⟨sampleHeader, ?_, ?_, ?_, rfl⟩
  · rw [SortedKeys]
    decide
  · rw [ValidKeys]
    decide
  · rw [ValidStrings]
    decide

theorem subscriberWelcomed_everything :
    SubscriberWelcomed (serverConfig flatJsonLibrary sha256Authentication .strict
      fun _ => stringObject sampleHeader) flatJsonLibrary sha256Authentication [] :=
  (subscriberWelcomed_iff sha256OpenSsl lowerHex (literal "hmac-sha256") (literal "key")
    sha256Authentication rfl flatJsonLibrary flatJsonLibrary_rereadsStrings .strict _
    stringHeaders_sampleHeader [] rfl).mpr rfl

theorem not_subscriberWelcomed_kernel :
    ¬ SubscriberWelcomed (serverConfig flatJsonLibrary sha256Authentication .strict
      fun _ => stringObject sampleHeader) flatJsonLibrary sha256Authentication
      (literal "kernel") := by
  intro h
  exact absurd (eq_nil_of_welcomed h) (by decide)

end XeusZmq.PublisherWelcome
