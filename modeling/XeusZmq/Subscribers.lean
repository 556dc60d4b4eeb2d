import XeusZmq.Feeds
import XeusZmq.FlatJson
import XeusZmq.IopubClient
import XeusZmq.PublisherSafety
import XeusZmq.RemoteCallRuns

/-!
The clients that subscribe to a server, over connections that last: what is published, from
the threads that publish it through the publisher thread to the iopub threads of the clients.
-/

namespace XeusZmq.Subscribers

open XeusZmq.Values
open XeusZmq.Serializer
open XeusZmq.WireRoundTrip
open XeusZmq.Authentication (noXAuthentication)
open XeusZmq.FifoPort
open XeusZmq.FlatJson
open XeusZmq.Feeds
open XeusZmq.Runs (run_append run_concat run_induction)
open XeusZmq.Publisher
open XeusZmq.PublisherRuns (publications publications_concat forwards ports)
open XeusZmq.PublisherSafety (serverConfig everything)
open XeusZmq.IopubClient (XiopubClient)
open XeusZmq.RemoteCalls
open XeusZmq.RemoteCallRuns (reparseData_eq_some_iff)

/-- The publisher thread with the pipes that its socket has subscribed to and what has been
dropped on them, the XPUB socket with what it sends to the clients that have subscribed, and
the iopub threads of the clients. -/
structure IopubNetwork (κ : Type) where
  publisher : XPublisher
  attached : Nat → Bool
  unheard : List (Nat × Multipart)
  feed : Feed κ Multipart
  clients : κ → XiopubClient

/-- The PUB sockets of the threads that publish, and the XPUB socket. -/
structure Marks (κ : Type) where
  pipes : HighWater Nat
  clients : HighWater κ

inductive Event (κ : Type)
  | attach (pipe : Nat)
  | publish (pipe : Nat) (msg : XPubMessage)
  | subscribe (client : κ)
  | peer (wireMsg : Multipart)
  | requestStop (stopMsg : Multipart)
  | publisherPass (pollError : Option Nat) (ready : Ready) (pipe : Nat)
  | deliver (client : κ)
  | stopClient (client : κ) (stopMsg : Multipart)
  | clientPass (client : κ) (pollError : Option Nat) (iopub controller : Bool)
  | pop (client : κ)

def frames : Sent → Multipart
  | .forwarded _ message => message.wireMsg
  | .welcome _ wireMsg => wireMsg

/-- The pipe from which a message has come that is no welcome. -/
def source : Sent → Option Nat
  | .forwarded pipe _ => some pipe
  | .welcome _ _ => none

section Subscribers

variable {κ : Type} [DecidableEq κ] (session : Session) (makeHeader : Nat → Json)
  (marks : Marks κ)

def config : Publisher.Config :=
  serverConfig session.json session.auth session.serverHandler makeHeader

def decodeIopub : Multipart → Result XPubMessage :=
  deserializeIopub session.json session.auth

def decodedIopub (wireMsg : Multipart) : Option XPubMessage :=
  (decodeIopub session wireMsg).toOption

namespace IopubNetwork

def initial : IopubNetwork κ :=
  ⟨.initial, fun _ => false, [], .initial, fun _ => .initial⟩

/-- What the publisher sends on its public socket goes to all that have subscribed. -/
def publisherStep (event : Publisher.Event) (self : IopubNetwork κ) : IopubNetwork κ :=
  let publisher := self.publisher.step (config session makeHeader) event
  { self with
    publisher
    feed := self.feed.post marks.clients
      ((publisher.sent.drop self.publisher.sent.length).map frames) }

def clientStep (client : κ) (event : IopubClient.Event) (self : IopubNetwork κ) :
    IopubNetwork κ :=
  { self with
    clients := Function.update self.clients client
      ((self.clients client).step (decodeIopub session) event) }

/-- How many messages have come for a pipe. -/
def countOn (pipe : Nat) (self : IopubNetwork κ) : Nat :=
  (on pipe (forwards self.publisher)).length + (on pipe self.publisher.listener).length +
    (on pipe self.unheard).length

/-- A PUB socket sends nothing until the other end has subscribed. -/
def sendOnPipe (pipe : Nat) (wireMsg : Multipart) (self : IopubNetwork κ) : IopubNetwork κ :=
  if self.attached pipe then
    if marks.pipes.Drops pipe (on pipe self.publisher.listener).length (self.countOn pipe) then
      { self with unheard := self.unheard ++ [(pipe, wireMsg)] }
    else self.publisherStep session makeHeader marks (.publish pipe wireMsg)
  else self

/-- `publish` of a server. An exception of the serializer reaches the caller. -/
def publish (pipe : Nat) (msg : XPubMessage) (self : IopubNetwork κ) : IopubNetwork κ :=
  match serializeIopub session.json session.auth session.serverHandler msg with
  | .error _ => self
  | .ok wireMsg => self.sendOnPipe session makeHeader marks pipe wireMsg

/-- The subscription to everything that `xiopub_client` makes. The socket of the server
heeds it and, as it is verbose, passes each on to the publisher thread. -/
def subscribe (client : κ) (self : IopubNetwork κ) : IopubNetwork κ :=
  let self := self.publisherStep session makeHeader marks (.peer [[1]])
  { self with feed := self.feed.join client }

def deliver (client : κ) (self : IopubNetwork κ) : IopubNetwork κ :=
  match self.feed.lane client with
  | [] => self
  | wireMsg :: _ =>
      { self.clientStep session client (.arrive wireMsg) with feed := self.feed.take client }

def step (self : IopubNetwork κ) : Event κ → IopubNetwork κ
  | .attach pipe => { self with attached := Function.update self.attached pipe true }
  | .publish pipe msg => self.publish session makeHeader marks pipe msg
  | .subscribe client => self.subscribe session makeHeader marks client
  | .peer wireMsg => self.publisherStep session makeHeader marks (.peer wireMsg)
  | .requestStop stopMsg => self.publisherStep session makeHeader marks (.requestStop stopMsg)
  | .publisherPass pollError ready pipe =>
      self.publisherStep session makeHeader marks (.pass pollError ready pipe)
  | .deliver client => self.deliver session client
  | .stopClient client stopMsg => self.clientStep session client (.requestStop stopMsg)
  | .clientPass client pollError iopub controller =>
      self.clientStep session client (.pass pollError iopub controller)
  | .pop client => self.clientStep session client .pop

/-- What the publisher has sent, as it decodes. -/
def stream (self : IopubNetwork κ) : List (Option Nat × XPubMessage) :=
  self.publisher.sent.filterMap fun sent =>
    (decodedIopub session (frames sent)).map (source sent, ·)

/-- What has come on a pipe, with what the publisher has not taken. -/
def onPipe (pipe : Nat) (self : IopubNetwork κ) : List XPubMessage :=
  on (some pipe) (self.stream session) ++
    (on pipe self.publisher.listener).filterMap fun message =>
      decodedIopub session message.wireMsg

/-- What has been sent to a client and has not been pushed to its queue. -/
def inTransit (client : κ) (self : IopubNetwork κ) : List XPubMessage :=
  ((self.clients client).iopub ++ self.feed.lane client).filterMap (decodedIopub session)

end IopubNetwork

def run : List (Event κ) → IopubNetwork κ :=
  Runs.run (IopubNetwork.step session makeHeader marks) .initial

/-- The message as it is dumped by the server and parsed by a client. -/
def carriedIopub (msg : XPubMessage) : Option XPubMessage :=
  (reparseData session.json session.serverHandler msg.data).map fun data =>
    { topic := msg.topic, data }

def attaches (pipe : Nat) : Event κ → Bool
  | .attach pipe' => pipe' = pipe
  | _ => false

/-- What a call of `publish` on one pipe publishes. -/
def publishedBy (pipe : Nat) : Event κ → Option XPubMessage
  | .publish pipe' msg => if pipe' = pipe then carriedIopub session msg else none
  | _ => none

def publishedFrom (pipe : Nat) : Bool → List (Event κ) → List XPubMessage
  | _, [] => []
  | attached, event :: events =>
      (if attached then (publishedBy session pipe event).toList else []) ++
        publishedFrom pipe (attached || attaches pipe event) events

/-- What `publish` has been called with on one pipe since it was attached. -/
def published (pipe : Nat) (events : List (Event κ)) : List XPubMessage :=
  publishedFrom session pipe false events

end Subscribers

/-! Messages on the wire. -/

section Wire

variable {session : Session}

theorem decodeIopub_of_serialize {msg : XPubMessage} {wireMsg : Multipart}
    (h : serializeIopub session.json session.auth session.serverHandler msg = .ok wireMsg) :
    ∃ msg', decodeIopub session wireMsg = .ok msg' ∧ carriedIopub session msg = some msg' := by
  obtain ⟨msg', hdecode, htopic, hreparsed⟩ :=
    deserializeIopub_serializeIopub session.accepts session.parsesDumps h
  refine ⟨msg', hdecode, ?_⟩
  rw [carriedIopub, reparseData_eq_some_iff.mpr hreparsed, ← htopic]
  rfl

theorem decodedIopub_of_ok {wireMsg : Multipart} {msg : XPubMessage}
    (h : decodeIopub session wireMsg = .ok msg) : decodedIopub session wireMsg = some msg := by
  rw [decodedIopub, h]
  rfl

theorem decodedIopub_of_error {wireMsg : Multipart} {f : Failure}
    (h : decodeIopub session wireMsg = .error f) : decodedIopub session wireMsg = none := by
  rw [decodedIopub, h]
  rfl

theorem carriedIopub_of_error {msg : XPubMessage} {f : Failure}
    (h : serializeIopub session.json session.auth session.serverHandler msg = .error f) :
    carriedIopub session msg = none := by
  rw [carriedIopub, Option.map_eq_none_iff, Option.eq_none_iff_forall_ne_some]
  intro data hdata
  obtain ⟨⟨header, hheader, -⟩, ⟨parentHeader, hparent, -⟩, ⟨metadata, hmetadata, -⟩,
    ⟨content, hcontent, -⟩, -⟩ := reparseData_eq_some_iff.mp hdata
  let signature := session.auth.sign header parentHeader metadata content
  have hwrites : Writes session.json session.auth session.serverHandler msg.data
      ⟨signature, header, parentHeader, metadata, content, msg.data.buffers⟩ :=
    ⟨rfl, hheader, hparent, hmetadata, hcontent, rfl⟩
  cases h.symm.trans (serializeIopub_eq_ok.mpr ⟨_, hwrites, rfl⟩)

end Wire

/-! Steps of the two kinds of threads. -/

/-- What forwarding sends. -/
theorem sent_forward (pipe : Nat) (s : XPublisher) :
    ∃ more, (s.forward pipe).sent = s.sent ++ more ∧ more.length ≤ 1 := by
  unfold XPublisher.forward
  split
  · exact ⟨_, rfl, Nat.le_refl _⟩
  · exact ⟨[], (List.append_nil _).symm, Nat.zero_le _⟩

theorem sent_pass (config : Publisher.Config) (pollError : Option Nat) (ready : Ready)
    (pipe : Nat) (s : XPublisher) :
    ∃ more, (s.pass config pollError ready pipe).sent = s.sent ++ more ∧ more.length ≤ 2 := by
  have hpassed := PublisherRuns.pass_passed config pollError ready pipe s
  have hfirst : ∃ more, (if ready.listener then s.forward pipe else s).sent = s.sent ++ more ∧
      more.length ≤ 1 := by
    split_ifs
    · exact sent_forward pipe s
    · exact ⟨[], (List.append_nil _).symm, Nat.zero_le _⟩
  obtain ⟨first, hfirst, hle⟩ := hfirst
  generalize s.pass config pollError ready pipe = s' at hpassed
  cases hpassed with
  | ended | pollFailed => exact ⟨[], (List.append_nil _).symm, Nat.zero_le _⟩
  | answered s₁ stopMsg rest hstatus hnone hs₁ | skipped s₁ hstatus hnone hs₁ =>
      rw [← hs₁] at hfirst
      exact ⟨first, hfirst, Nat.le_succ_of_le hle⟩
  | served s₁ s₂ hstatus hnone hs₁ hcontroller hserved =>
      rw [← hs₁] at hfirst
      cases hserved with
      | nothing | ignored | failed => exact ⟨first, hfirst, Nat.le_succ_of_le hle⟩
      | welcomed wireMsg rest call topic message =>
          refine ⟨first ++ [.welcome topic message], ?_, ?_⟩
          · rw [← List.append_assoc, ← hfirst]
          · rw [List.length_append]
            exact Nat.add_le_add_right hle 1

theorem sent_step (config : Publisher.Config) (s : XPublisher) (event : Publisher.Event) :
    ∃ more, (s.step config event).sent = s.sent ++ more ∧ more.length ≤ 2 := by
  cases event with
  | publish | requestStop | peer => exact ⟨[], (List.append_nil _).symm, Nat.zero_le _⟩
  | pass pollError ready pipe => exact sent_pass config pollError ready pipe s

theorem answer_iopub (s : XiopubClient) :
    s.answer.iopub = s.iopub ∧ s.answer.pushed = s.pushed := by
  unfold XiopubClient.answer
  split <;> exact ⟨rfl, rfl⟩

/-- The iopub thread pushes what decodes of what it reads. -/
theorem relays_pass {session : Session} {arrived : List Multipart} {s : XiopubClient}
    (h : Relays (decodedIopub session) arrived s.iopub s.pushed) (pollError : Option Nat)
    (iopub controller : Bool) :
    Relays (decodedIopub session) arrived
      (s.pass (decodeIopub session) pollError iopub controller).iopub
      (s.pass (decodeIopub session) pollError iopub controller).pushed := by
  have hanswer (t : XiopubClient) : (if controller then t.answer else t).iopub = t.iopub ∧
      (if controller then t.answer else t).pushed = t.pushed := by
    split_ifs
    · exact answer_iopub t
    · exact ⟨rfl, rfl⟩
  unfold XiopubClient.pass
  split
  · exact h
  · split
    · rename_i wireMsg rest hiopub
      rw [hiopub] at h
      have htake := h.take
      simp only
      split
      · rename_i e hdecode
        simpa [decodedIopub_of_error hdecode] using htake
      · rename_i u hdecode
        simpa [decodedIopub_of_error hdecode] using htake
      · rename_i msg hdecode
        rw [decodedIopub_of_ok hdecode] at htake
        obtain ⟨hiopub', hpushed'⟩ := hanswer (({ s with iopub := rest } : XiopubClient).push msg)
        rw [hiopub', hpushed']
        exact htake
    · obtain ⟨hiopub', hpushed'⟩ := hanswer s
      rw [hiopub', hpushed']
      exact h
  · exact h

/-! Runs. -/

section Pipes

variable {κ : Type} {session : Session} {marks : Marks κ}

theorem publishedFrom_append (pipe : Nat) (attached : Bool) (front events : List (Event κ)) :
    publishedFrom session pipe attached (front ++ events) =
      publishedFrom session pipe attached front ++
        publishedFrom session pipe (attached || front.any (attaches pipe)) events := by
  induction front generalizing attached with
  | nil => simp [publishedFrom]
  | cons event front ih =>
      simp only [List.cons_append, publishedFrom, ih, List.any_cons, Bool.or_assoc,
        List.append_assoc]

theorem published_concat (pipe : Nat) (events : List (Event κ)) (event : Event κ) :
    published session pipe (events ++ [event]) =
      published session pipe events ++
        if events.any (attaches pipe) then (publishedBy session pipe event).toList else [] := by
  simp [published, publishedFrom_append, publishedFrom]

/-- What has come to the publisher on a pipe, as it decodes. -/
def heardOn (session : Session) (pipe : Nat) (heard : List Publisher.Event) : List XPubMessage :=
  (on pipe (publications heard)).filterMap fun message => decodedIopub session message.wireMsg

theorem heardOn_quiet (pipe : Nat) {heard more : List Publisher.Event}
    (hmore : ∀ event ∈ more, ∀ stopSent, PublisherRuns.publication stopSent event = none) :
    heardOn session pipe (heard ++ more) = heardOn session pipe heard := by
  induction more using List.reverseRecOn with
  | nil => rw [List.append_nil]
  | append_singleton more event ih =>
      have hnone := hmore event List.mem_concat_self
      rw [← ih fun other hmem => hmore other (List.mem_append_left _ hmem), ← List.append_assoc,
        heardOn, publications_concat, hnone, Option.toList_none, List.append_nil]
      rfl

theorem heardOn_publish (pipe pipe' : Nat) (heard : List Publisher.Event) {wireMsg : Multipart}
    {msg : XPubMessage} (h : decodeIopub session wireMsg = .ok msg) :
    heardOn session pipe (heard ++ [.publish pipe' wireMsg]) =
      heardOn session pipe heard ++ if pipe' = pipe then [msg] else [] := by
  rw [heardOn, publications_concat, on_append, List.filterMap_append]
  by_cases hpipe : pipe' = pipe
  · simp [PublisherRuns.publication, hpipe, decodedIopub_of_ok h, heardOn]
  · simp [PublisherRuns.publication, hpipe, on_cons_of_ne hpipe, heardOn]

/-- What has come to the publisher on each pipe is what has been published there since it
was attached, less what has been dropped. -/
structure Heard (session : Session) (marks : Marks κ) (events : List (Event κ))
    (heard : List Publisher.Event) (attached : Nat → Bool) (unheard : List (Nat × Multipart)) :
    Prop where
  attached : ∀ pipe, attached pipe = events.any (attaches pipe)
  serialized : ∀ pipe wireMsg, .publish pipe wireMsg ∈ heard → ∃ msg,
    serializeIopub session.json session.auth session.serverHandler msg = .ok wireMsg
  sublist : ∀ pipe, (heardOn session pipe heard).Sublist (published session pipe events)
  count : ∀ pipe, (heardOn session pipe heard).length + (on pipe unheard).length =
    (published session pipe events).length
  mark : ∀ pipe, on pipe unheard ≠ [] →
    marks.pipes.mark ≠ 0 ∧ marks.pipes.mark ≤ (heardOn session pipe heard).length

theorem heard_initial (session : Session) (marks : Marks κ) :
    Heard session marks [] [] (fun _ => false) [] where
  attached _ := rfl
  serialized _ _ hmem := by cases hmem
  sublist _ := List.Sublist.refl _
  count _ := rfl
  mark _ h := absurd rfl h

variable {events : List (Event κ)} {heard : List Publisher.Event} {attached : Nat → Bool}
  {unheard : List (Nat × Multipart)}

theorem Heard.quiet (h : Heard session marks events heard attached unheard) {event : Event κ}
    (hpublished : ∀ pipe, published session pipe (events ++ [event]) =
      published session pipe events)
    (hattaches : ∀ pipe, attaches pipe event = false) {more : List Publisher.Event}
    (hmore : ∀ event ∈ more, ∀ stopSent, PublisherRuns.publication stopSent event = none) :
    Heard session marks (events ++ [event]) (heard ++ more) attached unheard := by
  refine ⟨fun pipe => ?_, fun pipe wireMsg hmem => ?_, fun pipe => ?_, fun pipe => ?_,
    fun pipe => ?_⟩
  · simp [h.attached pipe, hattaches pipe]
  · rcases List.mem_append.mp hmem with hmem | hmem
    · exact h.serialized pipe wireMsg hmem
    · cases hmore _ hmem false
  · rw [heardOn_quiet pipe hmore, hpublished]
    exact h.sublist pipe
  · rw [heardOn_quiet pipe hmore, hpublished]
    exact h.count pipe
  · rw [heardOn_quiet pipe hmore]
    exact h.mark pipe

theorem publish_of_mem_publications {events : List Publisher.Event} {pipe : Nat}
    {message : Published} (hmem : (pipe, message) ∈ publications events) :
    .publish pipe message.wireMsg ∈ events := by
  induction events using List.reverseRecOn with
  | nil => cases hmem
  | append_singleton events event ih =>
      rw [publications_concat] at hmem
      rcases List.mem_append.mp hmem with hmem | hmem
      · exact List.mem_append_left _ (ih hmem)
      · refine List.mem_append_right _ (List.mem_singleton.mpr ?_)
        cases event with
        | publish pipe' wireMsg =>
            obtain ⟨rfl, rfl⟩ := Prod.mk.inj (Option.some.inj (Option.mem_toList.mp hmem))
            rfl
        | requestStop | peer | pass => cases hmem

theorem Heard.decodes (h : Heard session marks events heard attached unheard) {pipe : Nat}
    {message : Published} (hmem : (pipe, message) ∈ publications heard) :
    ∃ msg, decodeIopub session message.wireMsg = .ok msg := by
  obtain ⟨msg, hserialize⟩ := h.serialized pipe _ (publish_of_mem_publications hmem)
  obtain ⟨msg', hdecode, -⟩ := decodeIopub_of_serialize hserialize
  exact ⟨msg', hdecode⟩

theorem published_quiet {event : Event κ} (hevent : ∀ pipe, publishedBy session pipe event = none)
    (events : List (Event κ)) (pipe : Nat) :
    published session pipe (events ++ [event]) = published session pipe events := by
  rw [published_concat, hevent, Option.toList_none, ite_self, List.append_nil]

theorem Heard.attach (h : Heard session marks events heard attached unheard) (pipe : Nat) :
    Heard session marks (events ++ [.attach pipe]) heard (Function.update attached pipe true)
      unheard := by
  have hpublished := @published_quiet κ session (.attach pipe) (fun _ => rfl) events
  refine ⟨fun other => ?_, h.serialized, fun other => ?_, fun other => ?_, h.mark⟩
  · by_cases hother : other = pipe
    · simp [hother, attaches]
    · simp [Function.update_of_ne hother, h.attached other, attaches, Ne.symm hother]
  · rw [hpublished]
    exact h.sublist other
  · rw [hpublished]
    exact h.count other

variable {pipe : Nat} {msg msg' : XPubMessage} {wireMsg : Multipart}

theorem published_publish (hattached : events.any (attaches pipe) = true)
    (hcarried : carriedIopub session msg = some msg') (other : Nat) :
    published session other (events ++ [.publish pipe msg]) =
      published session other events ++ if pipe = other then [msg'] else [] := by
  rw [published_concat]
  by_cases hother : pipe = other
  · subst hother
    simp [publishedBy, hattached, hcarried]
  · simp [publishedBy, hother]

theorem Heard.publish (h : Heard session marks events heard attached unheard)
    (hattached : attached pipe = true)
    (hserialize : serializeIopub session.json session.auth session.serverHandler msg =
      .ok wireMsg) :
    Heard session marks (events ++ [.publish pipe msg]) (heard ++ [.publish pipe wireMsg])
      attached unheard := by
  obtain ⟨msg', hdecode, hcarried⟩ := decodeIopub_of_serialize hserialize
  have hpublished := published_publish ((h.attached pipe).symm.trans hattached) hcarried
  refine ⟨fun other => ?_, fun other wireMsg' hmem => ?_, fun other => ?_, fun other => ?_,
    fun other hother => ?_⟩
  · simp [h.attached other, attaches]
  · rcases List.mem_append.mp hmem with hmem | hmem
    · exact h.serialized other wireMsg' hmem
    · obtain ⟨-, rfl⟩ := Publisher.Event.publish.inj (List.mem_singleton.mp hmem)
      exact ⟨msg, hserialize⟩
  · rw [heardOn_publish _ _ _ hdecode, hpublished]
    exact (h.sublist other).append (List.Sublist.refl _)
  · have hcount := h.count other
    rw [heardOn_publish _ _ _ hdecode, hpublished, List.length_append, List.length_append]
    omega
  · obtain ⟨hmark, hle⟩ := h.mark other hother
    rw [heardOn_publish _ _ _ hdecode, List.length_append]
    exact ⟨hmark, Nat.le_add_right_of_le hle⟩

theorem Heard.drop (h : Heard session marks events heard attached unheard)
    (hattached : attached pipe = true)
    (hserialize : serializeIopub session.json session.auth session.serverHandler msg =
      .ok wireMsg)
    (hmark : marks.pipes.mark ≠ 0 ∧ marks.pipes.mark ≤ (heardOn session pipe heard).length) :
    Heard session marks (events ++ [.publish pipe msg]) heard attached
      (unheard ++ [(pipe, wireMsg)]) := by
  obtain ⟨msg', -, hcarried⟩ := decodeIopub_of_serialize hserialize
  have hpublished := published_publish ((h.attached pipe).symm.trans hattached) hcarried
  refine ⟨fun other => ?_, h.serialized, fun other => ?_, fun other => ?_, fun other hother => ?_⟩
  · simp [h.attached other, attaches]
  · rw [hpublished]
    exact (h.sublist other).trans (List.sublist_append_left _ _)
  · have hcount := h.count other
    rw [hpublished, on_append, List.length_append, List.length_append]
    by_cases hpipe : pipe = other
    · subst hpipe
      rw [if_pos rfl, on_cons_self, on_nil, List.length_singleton, List.length_singleton]
      omega
    · rw [if_neg hpipe, on_cons_of_ne hpipe, on_nil, List.length_nil, List.length_nil]
      omega
  · by_cases hpipe : pipe = other
    · exact hpipe ▸ hmark
    · rw [on_append, on_cons_of_ne hpipe, on_nil, List.append_nil] at hother
      exact h.mark other hother

end Pipes

section Runs

variable {κ : Type} {session : Session} {makeHeader : Nat → Json} {marks : Marks κ}

/-- Each part of the network takes what the one before it has sent and that has not been
dropped. -/
structure Linked (session : Session) (makeHeader : Nat → Json) (marks : Marks κ)
    (events : List (Event κ)) (heard : List Publisher.Event) (s : IopubNetwork κ) : Prop where
  publisher : s.publisher = PublisherRuns.run (config session makeHeader) heard
  pipes : Heard session marks events heard s.attached s.unheard
  log : s.feed.log = s.publisher.sent.map frames
  follows : s.feed.Follows marks.clients
  clients : ∀ client, Relays (decodedIopub session) (s.feed.taken client)
    (s.clients client).iopub (s.clients client).pushed

variable {events : List (Event κ)} {heard : List Publisher.Event} {s : IopubNetwork κ}

/-- What the publisher sends in one step. -/
theorem feed_publisherStep (event : Publisher.Event) (s : IopubNetwork κ) :
    ∃ more, (s.publisherStep session makeHeader marks event).publisher.sent =
        s.publisher.sent ++ more ∧ more.length ≤ 2 ∧
      (s.publisherStep session makeHeader marks event).feed =
        s.feed.post marks.clients (more.map frames) := by
  obtain ⟨more, hmore, hle⟩ := sent_step (config session makeHeader) s.publisher event
  refine ⟨more, hmore, hle, ?_⟩
  rw [IopubNetwork.publisherStep, hmore, List.drop_left]

/-- A step of the publisher, with what has come to it on the pipes. -/
theorem Linked.publisherStep (h : Linked session makeHeader marks events heard s)
    {event : Event κ} {event' : Publisher.Event}
    (hpipes : Heard session marks (events ++ [event]) (heard ++ [event']) s.attached s.unheard) :
    Linked session makeHeader marks (events ++ [event]) (heard ++ [event'])
      (s.publisherStep session makeHeader marks event') := by
  obtain ⟨more, hsent, -, hfeed⟩ := @feed_publisherStep κ session makeHeader marks event' s
  refine ⟨?_, hpipes, ?_, ?_, fun client => ?_⟩
  · rw [PublisherRuns.run, run_concat]
    exact congrArg (XPublisher.step (config session makeHeader) · event') h.publisher
  · rw [hfeed, hsent, Feed.log_post, h.log, List.map_append]
  · rw [hfeed]
    exact h.follows.post _
  · rw [hfeed, Feed.taken_post]
    exact h.clients client

/-- A step of the publisher in which nothing is published. -/
theorem Linked.quietStep (h : Linked session makeHeader marks events heard s) {event : Event κ}
    {event' : Publisher.Event} (hevent : ∀ pipe, publishedBy session pipe event = none)
    (hattaches : ∀ pipe, attaches pipe event = false)
    (hquiet : ∀ stopSent, PublisherRuns.publication stopSent event' = none) :
    Linked session makeHeader marks (events ++ [event]) (heard ++ [event'])
      (s.publisherStep session makeHeader marks event') :=
  h.publisherStep (h.pipes.quiet (published_quiet hevent events) hattaches
    fun _ hmem => List.mem_singleton.mp hmem ▸ hquiet)

theorem Linked.idle (h : Linked session makeHeader marks events heard s) {event : Event κ}
    (hpublished : ∀ pipe, published session pipe (events ++ [event]) =
      published session pipe events)
    (hattaches : ∀ pipe, attaches pipe event = false) :
    Linked session makeHeader marks (events ++ [event]) heard s := by
  have hpipes := h.pipes.quiet hpublished hattaches (List.forall_mem_nil _)
  rw [List.append_nil] at hpipes
  exact ⟨h.publisher, hpipes, h.log, h.follows, h.clients⟩

/-- What the publisher has forwarded from a pipe, and what waits there. -/
theorem Linked.heardOn_eq (h : Linked session makeHeader marks events heard s) (pipe : Nat) :
    heardOn session pipe heard =
      (on pipe (forwards s.publisher)).filterMap
          (fun message => decodedIopub session message.wireMsg) ++
        (on pipe s.publisher.listener).filterMap
          (fun message => decodedIopub session message.wireMsg) := by
  have hrelay := (PublisherRuns.run_relay (config session makeHeader) heard pipe).arrived_eq
  rw [heardOn, hrelay, List.filterMap_append, ← h.publisher]
  rfl

/-- As many messages as wait on a pipe have come to the publisher. -/
theorem Linked.length_listener (h : Linked session makeHeader marks events heard s) (pipe : Nat) :
    (on pipe s.publisher.listener).length ≤ (heardOn session pipe heard).length := by
  have hdecodes : ∀ message ∈ on pipe s.publisher.listener,
      (decodedIopub session message.wireMsg).isSome := by
    intro message hmem
    rw [h.publisher] at hmem
    have harrived := (PublisherRuns.run_relay (config session makeHeader) heard pipe).mem_arrived
      hmem
    obtain ⟨msg, hdecode⟩ := h.pipes.decodes (mem_on.mp harrived)
    rw [decodedIopub_of_ok hdecode]
    rfl
  rw [h.heardOn_eq pipe, List.length_append, List.filterMap_length_eq_length.mpr hdecodes]
  exact Nat.le_add_left _ _

theorem Linked.publish (h : Linked session makeHeader marks events heard s) (pipe : Nat)
    (msg : XPubMessage) :
    ∃ heard', Linked session makeHeader marks (events ++ [.publish pipe msg]) heard'
      (s.publish session makeHeader marks pipe msg) := by
  unfold IopubNetwork.publish
  cases hserialize : serializeIopub session.json session.auth session.serverHandler msg with
  | error f =>
      refine ⟨heard, h.idle (published_quiet (fun other => ?_) events) fun _ => rfl⟩
      rw [publishedBy, carriedIopub_of_error hserialize, ite_self]
  | ok wireMsg =>
      simp only [IopubNetwork.sendOnPipe]
      split_ifs with hattached hdrops
      · have hpipes := h.pipes.drop hattached hserialize
          ⟨hdrops.1, hdrops.2.1.trans (h.length_listener pipe)⟩
        exact ⟨heard, h.publisher, hpipes, h.log, h.follows, h.clients⟩
      · exact ⟨_, h.publisherStep (h.pipes.publish hattached hserialize)⟩
      · refine ⟨heard, h.idle (fun other => ?_) fun _ => rfl⟩
        rw [published_concat, ← h.pipes.attached other]
        by_cases hother : pipe = other
        · rw [if_neg (hother ▸ hattached), List.append_nil]
        · rw [publishedBy, if_neg hother, Option.toList_none, ite_self, List.append_nil]

variable [DecidableEq κ]

theorem Linked.join (h : Linked session makeHeader marks events heard s) (client : κ) :
    Linked session makeHeader marks events heard { s with feed := s.feed.join client } := by
  refine ⟨h.publisher, h.pipes, (Feed.log_join client s.feed).trans h.log,
    h.follows.join client, fun other => ?_⟩
  rw [Feed.taken_join]
  exact h.clients other

theorem Linked.clientStep (h : Linked session makeHeader marks events heard s) (client : κ)
    {event : IopubClient.Event}
    (hevent : ∀ (arrived : List Multipart) (c : XiopubClient),
      Relays (decodedIopub session) arrived c.iopub c.pushed →
      Relays (decodedIopub session) arrived (c.step (decodeIopub session) event).iopub
        (c.step (decodeIopub session) event).pushed) :
    Linked session makeHeader marks events heard (s.clientStep session client event) := by
  refine ⟨h.publisher, h.pipes, h.log, h.follows, fun other => ?_⟩
  by_cases hother : other = client
  · subst hother
    simp only [IopubNetwork.clientStep, Function.update_self]
    exact hevent _ _ (h.clients other)
  · simp only [IopubNetwork.clientStep, Function.update_of_ne hother]
    exact h.clients other

theorem Linked.deliver (h : Linked session makeHeader marks events heard s) (client : κ) :
    Linked session makeHeader marks events heard (s.deliver session client) := by
  unfold IopubNetwork.deliver
  cases hlane : s.feed.lane client with
  | nil => exact h
  | cons wireMsg rest =>
      refine ⟨h.publisher, h.pipes, (Feed.log_take client s.feed).trans h.log,
        h.follows.take client, fun other => ?_⟩
      have hclient := h.clients other
      simp only [IopubNetwork.clientStep, Feed.take, hlane]
      by_cases hother : other = client
      · subst hother
        rw [Function.update_self, Function.update_self]
        exact hclient.arrive wireMsg
      · rw [Function.update_of_ne hother, Function.update_of_ne hother]
        exact hclient

theorem run_linked (session : Session) (makeHeader : Nat → Json) (marks : Marks κ)
    (events : List (Event κ)) :
    ∃ heard, Linked session makeHeader marks events heard
      (run session makeHeader marks events) := by
  apply run_induction (P := fun (events : List (Event κ)) (s : IopubNetwork κ) =>
    ∃ heard, Linked session makeHeader marks events heard s)
  · exact ⟨[], rfl, heard_initial session marks, rfl, Feed.follows_initial _, fun _ => .initial⟩
  · rintro events event ⟨heard, ih⟩
    have hidle (hpublished : ∀ pipe, publishedBy session pipe event = none)
        (hattaches : ∀ pipe, attaches pipe event = false) :
        Linked session makeHeader marks (events ++ [event]) heard _ :=
      ih.idle (published_quiet hpublished events) hattaches
    cases event with
    | attach pipe =>
        exact ⟨heard, ih.publisher, ih.pipes.attach pipe, ih.log, ih.follows, ih.clients⟩
    | publish pipe msg => exact ih.publish pipe msg
    | subscribe client =>
        have hpeer : Linked session makeHeader marks (events ++ [.subscribe client])
            (heard ++ [.peer [[1]]]) _ :=
          ih.quietStep (fun _ => rfl) (fun _ => rfl) fun _ => rfl
        exact ⟨_, hpeer.join client⟩
    | peer wireMsg => exact ⟨_, ih.quietStep (fun _ => rfl) (fun _ => rfl) fun _ => rfl⟩
    | requestStop stopMsg => exact ⟨_, ih.quietStep (fun _ => rfl) (fun _ => rfl) fun _ => rfl⟩
    | publisherPass pollError ready pipe =>
        exact ⟨_, ih.quietStep (fun _ => rfl) (fun _ => rfl) fun _ => rfl⟩
    | deliver client => exact ⟨heard, (hidle (fun _ => rfl) fun _ => rfl).deliver client⟩
    | stopClient client stopMsg =>
        exact ⟨heard, (hidle (fun _ => rfl) fun _ => rfl).clientStep client fun _ _ h => h⟩
    | clientPass client pollError iopub controller =>
        exact ⟨heard, (hidle (fun _ => rfl) fun _ => rfl).clientStep client
          fun _ _ h => relays_pass h pollError iopub controller⟩
    | pop client =>
        refine ⟨heard, (hidle (fun _ => rfl) fun _ => rfl).clientStep client
          fun arrived c h => ?_⟩
        have hsame : (c.step (decodeIopub session) .pop).iopub = c.iopub ∧
            (c.step (decodeIopub session) .pop).pushed = c.pushed := by
          simp only [XiopubClient.step, XiopubClient.popIopubMessage]
          split <;> exact ⟨rfl, rfl⟩
        rw [hsame.1, hsame.2]
        exact h

end Runs

/-! What is on the stream. -/

section Stream

variable {κ : Type} {session : Session} {makeHeader : Nat → Json} {marks : Marks κ}
  {events : List (Event κ)} {heard : List Publisher.Event} {s : IopubNetwork κ}

theorem on_stream (pipe : Nat) (s : IopubNetwork κ) :
    on (some pipe) (s.stream session) =
      (on pipe (forwards s.publisher)).filterMap fun message =>
        decodedIopub session message.wireMsg := by
  unfold IopubNetwork.stream forwards
  induction s.publisher.sent with
  | nil => rfl
  | cons sent sents ih =>
      cases sent with
      | welcome topic wireMsg =>
          rw [List.filterMap_cons, List.filterMap_cons]
          cases decodedIopub session (frames (.welcome topic wireMsg)) with
          | none => exact ih
          | some msg => exact (on_cons_of_ne (by rintro ⟨⟩) msg _).trans ih
      | forwarded pipe' message =>
          rw [List.filterMap_cons, List.filterMap_cons]
          by_cases hpipe : pipe' = pipe
          · subst hpipe
            simp only [on_cons_self, List.filterMap_cons, frames]
            cases decodedIopub session message.wireMsg with
            | none => exact ih
            | some msg => exact (on_cons_self _ _ _).trans (congrArg (msg :: ·) ih)
          · have hne : some pipe' ≠ some pipe := fun h => hpipe (Option.some.inj h)
            simp only [on_cons_of_ne hpipe, frames]
            cases decodedIopub session message.wireMsg with
            | none => exact ih
            | some msg => exact (on_cons_of_ne hne msg _).trans ih

/-- Everything that the publisher sends has been serialized, the welcomes by itself. -/
theorem Linked.serialized (h : Linked session makeHeader marks events heard s) {sent : Sent}
    (hmem : sent ∈ s.publisher.sent) :
    ∃ msg, serializeIopub session.json session.auth session.serverHandler msg =
        .ok (frames sent) ∧
      (source sent = none → ∃ call topic, msg = createXpubMessage (makeHeader call) topic) := by
  rw [h.publisher] at hmem
  cases sent with
  | forwarded pipe message =>
      have hforward : (pipe, message) ∈ forwards
          (PublisherRuns.run (config session makeHeader) heard) :=
        List.mem_filterMap.mpr ⟨_, hmem, rfl⟩
      obtain ⟨message', hpublished, hsame⟩ := (PublisherRuns.run_relay (config session makeHeader)
        heard pipe).mem_output (mem_on.mpr hforward)
      obtain rfl := Option.some.inj hsame
      obtain ⟨msg, hmsg⟩ :=
        h.pipes.serialized pipe _ (publish_of_mem_publications (mem_on.mp hpublished))
      exact ⟨msg, hmsg, fun hnone => by cases hnone⟩
  | welcome topic wireMsg =>
      have hserving := PublisherSafety.run_serving (config session makeHeader) heard
      obtain ⟨call, hcall⟩ := hserving.frames topic wireMsg hmem
      exact ⟨_, hcall, fun _ => ⟨call, topic, rfl⟩⟩

theorem Linked.decodes (h : Linked session makeHeader marks events heard s) {sent : Sent}
    (hmem : sent ∈ s.publisher.sent) :
    ∃ msg, decodeIopub session (frames sent) = .ok msg ∧
      (source sent = none → ∃ call topic,
        carriedIopub session (createXpubMessage (makeHeader call) topic) = some msg) := by
  obtain ⟨msg, hserialize, hwelcome⟩ := h.serialized hmem
  obtain ⟨msg', hdecode, hcarried⟩ := decodeIopub_of_serialize hserialize
  refine ⟨msg', hdecode, fun hnone => ?_⟩
  obtain ⟨call, topic, rfl⟩ := hwelcome hnone
  exact ⟨call, topic, hcarried⟩

/-- Where all decode, positions are kept. -/
theorem drop_filterMap {α β : Type} {f : α → Option β} {entries : List α}
    (h : ∀ a ∈ entries, (f a).isSome) (n : Nat) :
    (entries.filterMap f).drop n = (entries.drop n).filterMap f := by
  induction entries generalizing n with
  | nil => simp
  | cons a entries ih =>
      obtain ⟨b, hb⟩ := Option.isSome_iff_exists.mp (h a List.mem_cons_self)
      cases n with
      | zero => rfl
      | succ n =>
          rw [List.filterMap_cons_some hb, List.drop_succ_cons, List.drop_succ_cons]
          exact ih (fun a' hmem => h a' (List.mem_cons_of_mem a hmem)) n

theorem Linked.stream_drop (h : Linked session makeHeader marks events heard s) (n : Nat) :
    ((s.stream session).drop n).map Prod.snd =
      (s.feed.log.drop n).filterMap (decodedIopub session) := by
  rw [h.log, IopubNetwork.stream, drop_filterMap, List.map_filterMap, ← List.map_drop,
    List.filterMap_map]
  · refine List.filterMap_congr fun sent _ => ?_
    rw [Function.comp_apply, Option.map_map]
    exact Option.map_id'
  · intro sent hmem
    obtain ⟨msg, hdecode, -⟩ := h.decodes hmem
    rw [decodedIopub_of_ok hdecode]
    rfl

theorem Linked.log_decodes (h : Linked session makeHeader marks events heard s)
    {wireMsg : Multipart} (hmem : wireMsg ∈ s.feed.log) :
    ∃ msg, decodeIopub session wireMsg = .ok msg := by
  rw [h.log] at hmem
  obtain ⟨sent, hsent, rfl⟩ := List.mem_map.mp hmem
  obtain ⟨msg, hdecode, -⟩ := h.decodes hsent
  exact ⟨msg, hdecode⟩

/-- What has been kept for a client decodes. -/
theorem Linked.kept_decodes (h : Linked session makeHeader marks events heard s) {client : κ}
    {n : Nat} (hjoined : s.feed.joined client = some n) {wireMsg : Multipart}
    (hmem : wireMsg ∈ s.feed.kept client) : ∃ msg, decodeIopub session wireMsg = .ok msg :=
  h.log_decodes (List.mem_of_mem_drop ((h.follows.sublist client n hjoined).subset hmem))

/-- What a client has pushed and what is on its way to it. -/
theorem Linked.pushed_append_inTransit (h : Linked session makeHeader marks events heard s)
    (client : κ) :
    (s.clients client).pushed ++ s.inTransit session client =
      (s.feed.kept client).filterMap (decodedIopub session) := by
  rw [IopubNetwork.inTransit, Feed.kept, List.filterMap_append, List.filterMap_append,
    ← List.append_assoc, (h.clients client).output_append]

theorem length_decoded {wireMsgs : List Multipart}
    (h : ∀ wireMsg ∈ wireMsgs, ∃ msg, decodeIopub session wireMsg = .ok msg) :
    (wireMsgs.filterMap (decodedIopub session)).length = wireMsgs.length := by
  refine List.filterMap_length_eq_length.mpr fun wireMsg hmem => ?_
  obtain ⟨msg, hdecode⟩ := h wireMsg hmem
  rw [decodedIopub_of_ok hdecode]
  rfl

/-- What has come for a client is as much as has been sent since it subscribed. -/
theorem Linked.received_count (h : Linked session makeHeader marks events heard s) {client : κ}
    {n : Nat} (hjoined : s.feed.joined client = some n) :
    ((s.clients client).pushed ++ s.inTransit session client).length +
        (s.feed.dropped client).length =
      ((s.stream session).drop n).length := by
  have hlog : (((s.stream session).drop n).map Prod.snd).length = (s.feed.log.drop n).length := by
    rw [h.stream_drop n]
    exact length_decoded fun _ hmem => h.log_decodes (List.mem_of_mem_drop hmem)
  rw [List.length_map] at hlog
  rw [h.pushed_append_inTransit, length_decoded fun _ => h.kept_decodes hjoined, hlog]
  exact h.follows.count client n hjoined

end Stream

/-- Of each pipe, what is on the stream and what the publisher has not taken is what has
been published on it since it was attached, in order, less what its socket has dropped;
anything else on the stream is a welcome. What a client has pushed and what is on its way to
it is the stream from its subscription on, in order, less what has been dropped for it.
Nothing is dropped before more than the mark has come. -/
structure Agrees {κ : Type} [DecidableEq κ] (session : Session) (makeHeader : Nat → Json)
    (marks : Marks κ) (events : List (Event κ)) (s : IopubNetwork κ) : Prop where
  pipes : ∀ pipe, (s.onPipe session pipe).Sublist (published session pipe events)
  pipesCount : ∀ pipe, (s.onPipe session pipe).length + (on pipe s.unheard).length =
    (published session pipe events).length
  pipesMark : ∀ pipe, on pipe s.unheard ≠ [] →
    marks.pipes.mark ≠ 0 ∧ marks.pipes.mark < (published session pipe events).length
  welcomes : ∀ msg ∈ on none (s.stream session), ∃ call topic,
    carriedIopub session (createXpubMessage (makeHeader call) topic) = some msg
  outside : ∀ client, s.feed.joined client = none → (s.clients client).pushed = []
  received : ∀ client n, s.feed.joined client = some n →
    ((s.clients client).pushed ++ s.inTransit session client).Sublist
      (((s.stream session).drop n).map Prod.snd)
  receivedCount : ∀ client n, s.feed.joined client = some n →
    ((s.clients client).pushed ++ s.inTransit session client).length +
        (s.feed.dropped client).length =
      ((s.stream session).drop n).length
  receivedMark : ∀ client n, s.feed.joined client = some n → s.feed.dropped client ≠ [] →
    marks.clients.mark ≠ 0 ∧ marks.clients.mark < ((s.stream session).drop n).length
  agree : ∀ client client' n n', s.feed.joined client = some n →
    s.feed.joined client' = some n' → n ≤ n' → s.feed.dropped client = [] →
      s.feed.dropped client' = [] →
        (s.clients client').pushed ++ s.inTransit session client' <:+
          (s.clients client).pushed ++ s.inTransit session client

section Agreement

variable {κ : Type} [DecidableEq κ] {session : Session} {makeHeader : Nat → Json}
  {marks : Marks κ} {events : List (Event κ)} {heard : List Publisher.Event}
  {s : IopubNetwork κ}

theorem Linked.agrees (h : Linked session makeHeader marks events heard s) :
    Agrees session makeHeader marks events s := by
  have honPipe (pipe : Nat) : s.onPipe session pipe = heardOn session pipe heard := by
    rw [IopubNetwork.onPipe, on_stream, h.heardOn_eq pipe]
  refine ⟨fun pipe => ?_, fun pipe => ?_, fun pipe hdropped => ?_, fun msg hmem => ?_,
    fun client hjoined => ?_, fun client n hjoined => ?_, fun client n => h.received_count,
    fun client n hjoined hdropped => ?_,
    fun client client' n n' hjoined hjoined' hle hnone hnone' => ?_⟩
  · exact honPipe pipe ▸ h.pipes.sublist pipe
  · exact honPipe pipe ▸ h.pipes.count pipe
  · obtain ⟨hmark, hle⟩ := h.pipes.mark pipe hdropped
    have hcount := h.pipes.count pipe
    have hpos := List.length_pos_iff.mpr hdropped
    exact ⟨hmark, by omega⟩
  · obtain ⟨sent, hsent, hentry⟩ := List.mem_filterMap.mp (mem_on.mp hmem)
    obtain ⟨msg', hdecoded, hpair⟩ := Option.map_eq_some_iff.mp hentry
    obtain ⟨hsource, rfl⟩ := Prod.mk.inj hpair
    obtain ⟨msg, hdecode, hwelcome⟩ := h.decodes hsent
    obtain rfl := Option.some.inj (hdecoded.symm.trans (decodedIopub_of_ok hdecode))
    exact hwelcome hsource
  · have hkept := h.pushed_append_inTransit client
    rw [(h.follows.outside client hjoined).1, List.filterMap_nil] at hkept
    exact (List.append_eq_nil_iff.mp hkept).1
  · rw [h.pushed_append_inTransit, h.stream_drop]
    exact (h.follows.sublist client n hjoined).filterMap _
  · obtain ⟨hmark, hle⟩ := h.follows.mark client hdropped
    have hcount := h.received_count hjoined
    have hpos := List.length_pos_iff.mpr hdropped
    rw [h.pushed_append_inTransit, length_decoded fun _ => h.kept_decodes hjoined] at hcount
    exact ⟨hmark, by omega⟩
  · rw [h.pushed_append_inTransit, h.pushed_append_inTransit]
    exact (h.follows.suffix hjoined hjoined' hle hnone hnone').filterMap _

/-! What waits reaches a client in the end. -/

/-- A later state in which nothing more has been published or dropped, and the publisher and
the thread of the client still serve. -/
structure CatchingUp (session : Session) (makeHeader : Nat → Json) (marks : Marks κ)
    (events : List (Event κ)) (client : κ) (n : Nat) (s : IopubNetwork κ) : Prop where
  reached : ∃ more, run session makeHeader marks (events ++ more) = s ∧
    ∀ pipe, published session pipe (events ++ more) = published session pipe events
  publisher : PublisherSafety.Running (config session makeHeader) s.publisher
  status : (s.clients client).status = .running
  joined : s.feed.joined client = some n
  dropped : s.feed.dropped client =
    (run session makeHeader marks events).feed.dropped client
  unheard : s.unheard = (run session makeHeader marks events).unheard

variable {client : κ} {n : Nat}

theorem CatchingUp.step (h : CatchingUp session makeHeader marks events client n s)
    {event : Event κ} (hevent : ∀ pipe, publishedBy session pipe event = none)
    {s' : IopubNetwork κ} (hs' : s.step session makeHeader marks event = s')
    (hpublisher : PublisherSafety.Running (config session makeHeader) s'.publisher)
    (hstatus : (s'.clients client).status = .running)
    (hjoined : s'.feed.joined = s.feed.joined)
    (hdropped : s'.feed.dropped client = s.feed.dropped client)
    (hunheard : s'.unheard = s.unheard) :
    CatchingUp session makeHeader marks events client n s' := by
  obtain ⟨more, hrun, hpublished⟩ := h.reached
  refine ⟨⟨more ++ [event], ?_, fun pipe => ?_⟩, hpublisher, hstatus,
    (congrFun hjoined client).trans h.joined, hdropped.trans h.dropped,
    hunheard.trans h.unheard⟩
  · rw [← List.append_assoc, run, run_concat, ← hs', ← hrun]
    rfl
  · rw [← List.append_assoc, published_quiet hevent, hpublished]

/-- The lane of the client is emptied. -/
theorem CatchingUp.delivers (h : CatchingUp session makeHeader marks events client n s) :
    ∃ s', CatchingUp session makeHeader marks events client n s' ∧
      s'.publisher = s.publisher ∧ s'.feed.lane client = [] := by
  induction hlane : s.feed.lane client generalizing s with
  | nil => exact ⟨s, h, rfl, hlane⟩
  | cons wireMsg rest ih =>
      have hstep : s.step session makeHeader marks (.deliver client) =
          { s.clientStep session client (.arrive wireMsg) with feed := s.feed.take client } := by
        rw [IopubNetwork.step, IopubNetwork.deliver, hlane]
      have hstatus : ((s.clientStep session client (.arrive wireMsg)).clients client).status =
          .running := by
        simp only [IopubNetwork.clientStep, Function.update_self]
        exact h.status
      have hnext := h.step (fun _ => rfl) hstep h.publisher hstatus
        (Feed.joined_take client s.feed) (congrFun (Feed.dropped_take client s.feed) client) rfl
      have hrest : (s.feed.take client).lane client = rest := by
        rw [Feed.lane_take, if_pos rfl, hlane]
        rfl
      obtain ⟨s', hlater, hpublisher, hempty⟩ := ih hnext hrest
      exact ⟨s', hlater, hpublisher, hempty⟩

/-- The thread of the client pushes what it has got. -/
theorem CatchingUp.reads (h : CatchingUp session makeHeader marks events client n s)
    (hlane : s.feed.lane client = []) :
    ∃ s', CatchingUp session makeHeader marks events client n s' ∧
      s'.publisher = s.publisher ∧ s'.feed.lane client = [] ∧
        (s'.clients client).iopub = [] := by
  induction hiopub : (s.clients client).iopub generalizing s with
  | nil => exact ⟨s, h, rfl, hlane, hiopub⟩
  | cons wireMsg rest ih =>
      obtain ⟨more, hrun, -⟩ := h.reached
      obtain ⟨heard, hlinked⟩ := run_linked session makeHeader marks (events ++ more)
      rw [hrun] at hlinked
      have htaken : wireMsg ∈ s.feed.taken client :=
        (hlinked.clients client).mem_arrived (hiopub ▸ List.mem_cons_self)
      obtain ⟨msg, hdecode⟩ := hlinked.kept_decodes h.joined (List.mem_append_left _ htaken)
      have hclient : (s.step session makeHeader marks
          (.clientPass client none true false)).clients client =
            ({ s.clients client with iopub := rest } : XiopubClient).push msg := by
        simp [IopubNetwork.step, IopubNetwork.clientStep, XiopubClient.step, XiopubClient.pass,
          h.status, hiopub, hdecode]
      have hevent (pipe : Nat) :
          publishedBy session pipe (.clientPass client none true false) = none := rfl
      have hnext := h.step hevent rfl h.publisher
        ((congrArg XiopubClient.status hclient).trans h.status) rfl rfl rfl
      obtain ⟨s', hlater, hpublisher, hempty⟩ :=
        ih hnext hlane (congrArg XiopubClient.iopub hclient)
      exact ⟨s', hlater, hpublisher, hempty⟩

/-- In one step the publisher sends two messages at most, and for them there is room. -/
theorem CatchingUp.passes (h : CatchingUp session makeHeader marks events client n s)
    (hmark : marks.clients.mark ≠ 1) (hlane : s.feed.lane client = [])
    (hwaits : ¬ (s.publisher.listener = [] ∧ s.publisher.peers = [])) :
    ∃ s', CatchingUp session makeHeader marks events client n s' ∧
      PublisherSafety.waiting s'.publisher < PublisherSafety.waiting s.publisher := by
  obtain ⟨hrunning, hless⟩ := PublisherSafety.running_pass h.publisher hwaits
  obtain ⟨more, -, hle, hfeed⟩ :=
    @feed_publisherStep κ session makeHeader marks (.pass none everything 0) s
  have hroom : marks.clients.mark = 0 ∨
      (s.feed.lane client).length + (more.map frames).length ≤ marks.clients.mark := by
    rw [hlane, List.length_nil, List.length_map]
    omega
  have hjoined := (congrArg Feed.joined hfeed).trans (Feed.joined_post _ _ _)
  have hdropped := (congrArg (Feed.dropped · client) hfeed).trans (Feed.dropped_post hroom)
  have hevent (pipe : Nat) :
      publishedBy session pipe (.publisherPass none everything 0 : Event κ) = none := rfl
  exact ⟨_, h.step hevent rfl hrunning h.status hjoined hdropped rfl, hless⟩

/-- The publisher forwards what waits, a pass at a time, and each time the lane is emptied and
the thread of the client reads. -/
theorem CatchingUp.ends (h : CatchingUp session makeHeader marks events client n s)
    (hmark : marks.clients.mark ≠ 1) :
    ∃ s', CatchingUp session makeHeader marks events client n s' ∧
      s'.publisher.listener = [] ∧ s'.feed.lane client = [] ∧
        (s'.clients client).iopub = [] := by
  induction hwaiting : PublisherSafety.waiting s.publisher using Nat.strong_induction_on
    generalizing s with
  | _ waiting ih =>
      obtain ⟨s₁, h₁, hpublisher₁, hlane₁⟩ := h.delivers
      obtain ⟨s₂, h₂, hpublisher₂, hlane₂, hiopub₂⟩ := h₁.reads hlane₁
      have hsame : PublisherSafety.waiting s₂.publisher = waiting := by
        rw [hpublisher₂, hpublisher₁, hwaiting]
      by_cases hempty : s₂.publisher.listener = [] ∧ s₂.publisher.peers = []
      · exact ⟨s₂, h₂, hempty.1, hlane₂, hiopub₂⟩
      · obtain ⟨s₃, h₃, hless⟩ := h₂.passes hmark hlane₂ hempty
        exact ih _ (hsame ▸ hless) h₃ rfl

/-- All that has been published and not dropped is on the stream, and the client has all of
it that has not been dropped for it. -/
structure CaughtUp (session : Session) (events : List (Event κ)) (client : κ) (n : Nat)
    (before s : IopubNetwork κ) : Prop where
  pipes : ∀ pipe, (on (some pipe) (s.stream session)).Sublist (published session pipe events)
  pipesCount : ∀ pipe, (on (some pipe) (s.stream session)).length +
      (on pipe before.unheard).length =
    (published session pipe events).length
  pushed : (s.clients client).pushed.Sublist (((s.stream session).drop n).map Prod.snd)
  pushedCount : (s.clients client).pushed.length + (before.feed.dropped client).length =
    ((s.stream session).drop n).length

theorem CatchingUp.caughtUp (h : CatchingUp session makeHeader marks events client n s)
    (hlistener : s.publisher.listener = []) (hlane : s.feed.lane client = [])
    (hiopub : (s.clients client).iopub = []) :
    CaughtUp session events client n (run session makeHeader marks events) s := by
  obtain ⟨more, hrun, hpublished⟩ := h.reached
  obtain ⟨heard, hlinked⟩ := run_linked session makeHeader marks (events ++ more)
  rw [hrun] at hlinked
  have hagrees := hlinked.agrees
  have honPipe (pipe : Nat) : s.onPipe session pipe = on (some pipe) (s.stream session) := by
    rw [IopubNetwork.onPipe, hlistener]
    exact List.append_nil _
  have hnone : s.inTransit session client = [] := by
    rw [IopubNetwork.inTransit, hlane, hiopub]
    rfl
  have hreceived := hagrees.received client n h.joined
  have hcount := hagrees.receivedCount client n h.joined
  rw [hnone, List.append_nil] at hreceived hcount
  refine ⟨fun pipe => ?_, fun pipe => ?_, hreceived, h.dropped ▸ hcount⟩
  · rw [← honPipe, ← hpublished pipe]
    exact hagrees.pipes pipe
  · rw [← honPipe, ← hpublished pipe, ← h.unheard]
    exact hagrees.pipesCount pipe

/-- In every run what reaches the clients that have subscribed is in the order of one stream,
less what the sockets drop at their marks, and as long as the publisher and its own thread
serve, each can still get all that has not been dropped. -/
theorem subscribers_agree (session : Session) (makeHeader : Nat → Json) (marks : Marks κ)
    (events : List (Event κ)) :
    let s := run session makeHeader marks events
    Agrees session makeHeader marks events s ∧
      ∀ client n, s.feed.joined client = some n → marks.clients.mark ≠ 1 →
        PublisherSafety.Running (config session makeHeader) s.publisher →
        (s.clients client).status = .running →
          ∃ more,
            (∀ pipe, published session pipe (events ++ more) = published session pipe events) ∧
            CaughtUp session events client n s
              (run session makeHeader marks (events ++ more)) := by
  intro s
  obtain ⟨heard, hlinked⟩ := run_linked session makeHeader marks events
  refine ⟨hlinked.agrees, fun client n hjoined hmark hpublisher hstatus => ?_⟩
  have hnow : CatchingUp session makeHeader marks events client n s :=
    ⟨⟨[], congrArg _ (List.append_nil _), fun pipe => congrArg _ (List.append_nil _)⟩,
      hpublisher, hstatus, hjoined, rfl, rfl⟩
  obtain ⟨s', hlater, hlistener, hlane, hiopub⟩ := hnow.ends hmark
  obtain ⟨more, hrun, hpublished⟩ := hlater.reached
  exact ⟨more, hpublished, hrun ▸ hlater.caughtUp hlistener hlane hiopub⟩

end Agreement

theorem flatJsonLibrary_parsesDumps : ParsesDumps flatJsonLibrary := by
  intro errorHandler part text hdump
  simp only [flatJsonLibrary] at hdump
  split at hdump
  · split at hdump
    · split_ifs at hdump
      obtain rfl := Except.ok.inj hdump
      exact ⟨_, parse_dumpObject _⟩
    · cases hdump
  · cases hdump

/-- A session in which every part of a message is an object of strings. -/
def flatSession : Session where
  json := flatJsonLibrary
  auth := noXAuthentication
  clientHandler := .strict
  serverHandler := .strict
  parsesDumps := flatJsonLibrary_parsesDumps
  made := noXAuthentication_made

def statusMessage (state : String) : XPubMessage where
  topic := literal "status"
  data := ⟨.object [], .object [], .object [],
    .object [(literal "execution_state", .string (literal state))], []⟩

/-- Both sockets drop a message when they may. -/
def low (mark : Nat) : Marks Bool :=
  ⟨⟨mark, fun _ _ => true⟩, ⟨mark, fun _ _ => true⟩⟩

/-- One client subscribes before and one behind the first of two messages, and another
message comes before the pipe is attached. -/
def lateClient : List (Event Bool) :=
  [.publish 0 (statusMessage "starting"), .attach 0, .attach 1, .subscribe false,
    .publisherPass none everything 0, .publish 0 (statusMessage "busy"),
    .publisherPass none everything 0, .subscribe true, .publish 1 (statusMessage "idle"),
    .publisherPass none everything 1, .deliver true, .clientPass true none true false]

theorem subscribers_agree_lateClient :
    let s := run flatSession (fun _ => .object []) (low 2) lateClient
    (s.clients true).pushed = [statusMessage "idle"] ∧ (s.clients false).pushed = [] ∧
      (s.feed.dropped true).length = 0 ∧ (s.feed.dropped false).length = 2 ∧
      Agrees flatSession (fun _ => .object []) (low 2) lateClient s ∧
      ∃ more, CaughtUp flatSession lateClient false 0 s
        (run flatSession (fun _ => .object []) (low 2) (lateClient ++ more)) := by
  obtain ⟨hagrees, hcatchesUp⟩ :=
    subscribers_agree flatSession (fun _ => .object []) (low 2) lateClient
  refine ⟨rfl, rfl, rfl, rfl, hagrees, ?_⟩
  obtain ⟨more, -, hcaughtUp⟩ := hcatchesUp false 0 rfl (by decide)
    ⟨rfl, rfl, fun wireMsg hmem => by cases hmem⟩ rfl
  exact ⟨more, hcaughtUp⟩

end XeusZmq.Subscribers
