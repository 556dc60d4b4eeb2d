import XeusZmq.RemoteCalls

/-!
What holds in every run of the network, whatever server is in it.
-/

namespace XeusZmq.RemoteCallRuns

open XeusZmq.Values
open XeusZmq.Authentication
open XeusZmq.Serializer
open XeusZmq.WireRoundTrip
open XeusZmq.ServerLoops
open XeusZmq.FifoPort
open XeusZmq.Runs
open XeusZmq.RemoteCalls

/-! Messages on the wire. -/

theorem reparse_eq_some_iff {json : JsonLibrary} {errorHandler : ErrorHandler}
    {part part' : Json} :
    reparse json errorHandler part = some part' ↔ Reparsed json errorHandler part part' := by
  unfold reparse Reparsed
  cases json.dump errorHandler part with
  | error e => simp [Except.toOption]
  | ok text => cases hparse : json.parse text <;> simp [Except.toOption, hparse]

theorem reparseData_eq_some_iff {json : JsonLibrary} {errorHandler : ErrorHandler}
    {data data' : XMessageBaseData} :
    reparseData json errorHandler data = some data' ↔
      ReparsedData json errorHandler data data' := by
  simp only [reparseData, Option.bind_eq_bind, Option.bind_eq_some_iff, reparse_eq_some_iff]
  constructor
  · rintro ⟨header, hheader, parentHeader, hparent, metadata, hmetadata, content, hcontent, hdata⟩
    obtain rfl := Option.some.inj hdata
    exact ⟨hheader, hparent, hmetadata, hcontent, rfl⟩
  · intro h
    refine ⟨_, h.header, _, h.parentHeader, _, h.metadata, _, h.content, ?_⟩
    rw [← h.buffers]
    rfl

section Wire

variable {session : Session}

theorem carried_of_error {errorHandler : ErrorHandler} {msg : XMessage} {f : Failure}
    (identities : List Bytes → List Bytes)
    (h : serialize session.json session.auth errorHandler msg = .error f) :
    carried session.json errorHandler identities msg = none := by
  rw [carried, Option.map_eq_none_iff, Option.eq_none_iff_forall_ne_some]
  intro data hdata
  obtain ⟨⟨header, hheader, -⟩, ⟨parentHeader, hparent, -⟩, ⟨metadata, hmetadata, -⟩,
    ⟨content, hcontent, -⟩, -⟩ := reparseData_eq_some_iff.mp hdata
  let signature := session.auth.sign header parentHeader metadata content
  have hwrites : Writes session.json session.auth errorHandler msg.data
      ⟨signature, header, parentHeader, metadata, content, msg.data.buffers⟩ :=
    ⟨rfl, hheader, hparent, hmetadata, hcontent, rfl⟩
  have hok := serialize_eq_ok.mpr ⟨_, hwrites, rfl⟩
  exact absurd (h.symm.trans hok) nofun

/-- What the frames behind any identities decode to. -/
theorem decode_frames {errorHandler : ErrorHandler} {msg : XMessage}
    {frames : BaseFrames} (h : Writes session.json session.auth errorHandler msg.data frames)
    (identities : List Bytes → List Bytes)
    (hids : ∀ id ∈ identities msg.identities, id ≠ delimiter) :
    ∃ msg', session.decode (identities msg.identities ++ delimiter :: frames.toMultipart) =
        .ok msg' ∧ carried session.json errorHandler identities msg = some msg' := by
  obtain ⟨data', hreads, hreparsed⟩ := Writes.exists_reads session.accepts session.parsesDumps h
  refine ⟨⟨identities msg.identities, data'⟩, deserialize_delimiter hids hreads, ?_⟩
  rw [carried, reparseData_eq_some_iff.mpr hreparsed]
  rfl

theorem decoded_request {errorHandler : ErrorHandler} {msg : XMessage}
    (hids : ∀ id ∈ msg.identities, id ≠ delimiter) (id : RoutingId) :
    ((serialize session.json session.auth errorHandler msg).toOption.bind fun wireMsg =>
        decoded session.decode (id.val :: wireMsg)) =
      carried session.json errorHandler (id.val :: ·) msg := by
  cases hserialize : serialize session.json session.auth errorHandler msg with
  | error f => exact (carried_of_error _ hserialize).symm
  | ok wireMsg =>
      obtain ⟨frames, hwrites, rfl⟩ := serialize_eq_ok.mp hserialize
      obtain ⟨msg', hdecode, hcarried⟩ :=
        decode_frames hwrites (id.val :: ·) fun id' hmem => by
          rcases List.mem_cons.mp hmem with rfl | hmem
          · exact id.ne_delimiter
          · exact hids id' hmem
      rw [hcarried]
      exact decoded_of_ok hdecode

theorem decoded_reply {errorHandler : ErrorHandler} {msg : XMessage}
    (hne : msg.identities ≠ []) (hids : ∀ id ∈ msg.identities, id ≠ delimiter) :
    ((serialize session.json session.auth errorHandler msg).toOption.map fun wireMsg =>
        session.decode wireMsg.tail) =
      (carried session.json errorHandler List.tail msg).map .ok := by
  cases hserialize : serialize session.json session.auth errorHandler msg with
  | error f => rw [carried_of_error _ hserialize]; rfl
  | ok wireMsg =>
      obtain ⟨frames, hwrites, rfl⟩ := serialize_eq_ok.mp hserialize
      obtain ⟨msg', hdecode, hcarried⟩ :=
        decode_frames hwrites List.tail fun id hmem =>
          hids id (List.mem_of_mem_tail hmem)
      rw [hcarried]
      show some (session.decode (msg.identities ++ _).tail) = some (.ok msg')
      rw [List.tail_append_of_ne_nil hne, hdecode]

/-- A reply goes where the call came from. -/
theorem route_reply {errorHandler : ErrorHandler} {channel : Channel} {msg call : XMessage}
    {wireMsg : Multipart} (hids : msg.identities = call.identities)
    (h : serialize session.json session.auth errorHandler msg = .ok wireMsg) :
    route channel wireMsg = (callLine (channel, call)).map fun line => (line, wireMsg.tail) := by
  obtain ⟨frames, -, rfl⟩ := serialize_eq_ok.mp h
  rw [hids, callLine]
  simp only
  cases call.identities with
  | nil =>
      have hdelimiter : ¬ IsRoutingId delimiter := by decide
      simp [route, peerOf, hdelimiter]
  | cons id ids =>
      by_cases hid : IsRoutingId id
      · simp [route, peerOf, hid]
      · simp [route, peerOf, hid]

theorem identities_of_decode {wireMsg : Multipart} {msg : XMessage}
    (h : session.decode wireMsg = .ok msg) :
    (∀ id ∈ msg.identities, id ≠ delimiter) ∧
      ∀ id : RoutingId, msg.identities.head? = some id.val ↔ wireMsg.head? = some id.val := by
  obtain ⟨frames, hids, rfl, -⟩ := deserialize_eq_ok h
  refine ⟨hids, fun id => ?_⟩
  cases msg.identities with
  | nil => simpa using id.ne_delimiter.symm
  | cons first ids => rfl

end Wire

/-! Steps. -/

section Runs

variable {σ ρ : Type} {session : Session} {server : Server session.decode σ ρ}
  {listener : Listener} {water : HighWater Line}

/-- What a client puts on its lane. -/
def upWire (session : Session) : Event ρ → Option (Line × Multipart)
  | .send line msg =>
      (serialize session.json session.auth session.clientHandler msg).toOption.map (line, ·)
  | _ => none

/-- What a message that a listener sends puts on a lane. -/
def downWire (session : Session) (sent : Call) : Option (Line × Multipart) :=
  (serialize session.json session.auth session.serverHandler sent.2).toOption.bind (route sent.1)

/-- All that the listeners send in a list of calls. -/
def spoken (session : Session) (listener : Listener) (past : List Call) : List Call → List Call
  | [] => []
  | call :: calls =>
      performed session (listener past call) ++ spoken session listener (past ++ [call]) calls

theorem spoken_concat (past calls : List Call) (call : Call) :
    spoken session listener past (calls ++ [call]) =
      spoken session listener past calls ++
        performed session (listener (past ++ calls) call) := by
  induction calls generalizing past with
  | nil => simp [spoken]
  | cons first calls ih => simp [spoken, ih]

/-- The network with the lanes to the clients and the server as a listener leaves them. -/
structure Performed (session : Session) (server : Server session.decode σ ρ)
    (water : HighWater Line) (actions : List Action) (s s' : Network σ) : Prop where
  up : s'.up = s.up
  ports : server.ports s'.server = server.ports s.server
  down : ∀ offered, s.down.Carries water offered →
    s'.down.Carries water
      (offered ++ (performed session actions).filterMap (downWire session))

theorem router_down {channel : Channel} {wireMsg : Multipart} {s : Network σ}
    {offered : List (Line × Multipart)} (h : s.down.Carries water offered) :
    (s.router water channel wireMsg).down.Carries water
      (offered ++ (route channel wireMsg).toList) := by
  unfold Network.router
  cases route channel wireMsg with
  | none => simpa using h
  | some entry => exact h.offer entry.1 entry.2

theorem router_up (water : HighWater Line) (channel : Channel) (wireMsg : Multipart)
    (s : Network σ) : (s.router water channel wireMsg).up = s.up := by
  unfold Network.router
  cases route channel wireMsg <;> rfl

theorem router_server (water : HighWater Line) (channel : Channel) (wireMsg : Multipart)
    (s : Network σ) : (s.router water channel wireMsg).server = s.server := by
  unfold Network.router
  cases route channel wireMsg <;> rfl

theorem perform_performed (called : Channel) (actions : List Action) (s : Network σ) :
    Performed session server water actions s (s.perform session server water called actions) := by
  induction actions generalizing s with
  | nil => exact ⟨rfl, rfl, fun offered h => by simpa [performed, Network.perform] using h⟩
  | cons action actions ih =>
      cases action with
      | stop =>
          obtain ⟨hup, hports, hdown⟩ := ih { s with server := server.stop s.server }
          exact ⟨hup, hports.trans (server.ports_stop s.server), hdown⟩
      | send channel msg =>
          rw [Network.perform]
          cases hserialize : serialize session.json session.auth session.serverHandler msg with
          | error f =>
              refine ⟨rfl, server.ports_throws s.server called f, fun offered h => ?_⟩
              simpa [performed, hserialize] using h
          | ok wireMsg =>
              obtain ⟨hup, hports, hdown⟩ := ih (s.router water channel wireMsg)
              rw [router_up] at hup
              rw [router_server] at hports
              refine ⟨hup, hports, fun offered h => ?_⟩
              have hwire : downWire session (channel, msg) = route channel wireMsg := by
                simp [downWire, hserialize, Except.toOption]
              have hsent := hdown _ (router_down h)
              rw [List.append_assoc] at hsent
              simp only [performed, hserialize]
              cases hroute : route channel wireMsg with
              | none => simpa [hwire, hroute] using hsent
              | some entry => simpa [hwire, hroute] using hsent

/-- A step of the loop makes one call at most. -/
theorem calls_pass (s : σ) (kind : ρ) :
    server.calls (server.pass s kind) = server.calls s ∨
      ∃ call, server.calls (server.pass s kind) = server.calls s ++ [call] := by
  have hstep := server.ports_pass s kind
  unfold Server.calls
  generalize server.ports (server.pass s kind) = ports at hstep
  cases hstep with
  | idle => exact Or.inl rfl
  | take channel wireMsg rest hpending =>
      cases hdecode : decoded session.decode wireMsg with
      | none => exact Or.inl (by simp)
      | some msg => exact Or.inr ⟨(channel, msg), by simp⟩

/-! Runs. -/

theorem upWire_concat (events : List (Event ρ)) {event : Event ρ}
    (h : upWire session event = none) :
    (events ++ [event]).filterMap (upWire session) = events.filterMap (upWire session) := by
  rw [filterMap_concat, h, Option.toList_none, List.append_nil]

/-- The lanes and the sockets of the server, each with what has been put into it. -/
structure Linked (session : Session) (server : Server session.decode σ ρ) (listener : Listener)
    (water : HighWater Line) (events : List (Event ρ)) (s : Network σ) : Prop where
  up : s.up.Relay some (events.filterMap (upWire session))
  sockets : (server.ports s.server).Relay (decoded session.decode)
    (s.up.output.map Network.atRouter)
  down : s.down.Carries water
    ((spoken session listener [] (server.calls s.server)).filterMap (downWire session))

theorem linked_send {events : List (Event ρ)} {s : Network σ}
    (h : Linked session server listener water events s) (line : Line) (msg : XMessage) :
    Linked session server listener water (events ++ [.send line msg])
      (s.sendOn session line msg) := by
  unfold Network.sendOn
  cases hserialize : serialize session.json session.auth session.clientHandler msg with
  | error f =>
      refine ⟨?_, h.sockets, h.down⟩
      simpa [List.filterMap_append, upWire, hserialize, Except.toOption] using h.up
  | ok wireMsg =>
      refine ⟨?_, h.sockets, h.down⟩
      simpa [List.filterMap_append, upWire, hserialize, Except.toOption] using h.up.put line wireMsg

theorem linked_deliver {events : List (Event ρ)} {s : Network σ}
    (h : Linked session server listener water events s) (line : Line) :
    Linked session server listener water (events ++ [.deliver line])
      (s.deliver session server line) := by
  have hevents := @upWire_concat ρ session events (.deliver line) rfl
  unfold Network.deliver
  cases hpending : s.up.pending line with
  | nil => exact ⟨hevents ▸ h.up, h.sockets, h.down⟩
  | cons wireMsg rest =>
      refine ⟨hevents ▸ h.up.take line, ?_, ?_⟩
      · rw [server.ports_arrive]
        simp only [Ports.take, hpending, List.map_append, List.map_cons, List.map_nil]
        exact h.sockets.put _ _
      · rw [Server.calls, server.ports_arrive]
        exact h.down

theorem linked_pass {events : List (Event ρ)} {s : Network σ}
    (h : Linked session server listener water events s) (kind : ρ) :
    Linked session server listener water (events ++ [.pass kind])
      (s.pass session server listener water kind) := by
  have hevents := @upWire_concat ρ session events (.pass kind) rfl
  have hserver := (server.ports_pass s.server kind).relay h.sockets
  simp only [Option.toList_none, List.append_nil] at hserver
  unfold Network.pass
  simp only
  rcases @calls_pass σ ρ session server s.server kind with hcalls | ⟨call, hcalls⟩
  · rw [hcalls, List.drop_length]
    exact ⟨hevents ▸ h.up, hserver, hcalls.symm ▸ h.down⟩
  · rw [hcalls, List.drop_left]
    simp only
    obtain ⟨hup, hports, hdown⟩ := @perform_performed σ ρ session server water call.1
      (listener (server.calls s.server) call) { s with server := server.pass s.server kind }
    refine ⟨?_, ?_, ?_⟩
    · rw [hup, hevents]
      exact h.up
    · rw [hup, hports]
      exact hserver
    · have hcalls' : server.calls (Network.perform session server water call.1
          (listener (server.calls s.server) call)
          { s with server := server.pass s.server kind }).server =
            server.calls s.server ++ [call] := by
        rw [← hcalls, Server.calls, hports]
        rfl
      rw [hcalls', spoken_concat, List.filterMap_append]
      exact hdown _ h.down

theorem run_linked (events : List (Event ρ)) :
    Linked session server listener water events
      (Network.run session server listener water events) := by
  apply run_induction (P := Linked session server listener water)
  · refine ⟨Ports.initial_relay some, ?_, ?_⟩
    · show (server.ports server.initial).Relay _ _
      rw [server.ports_initial]
      exact Ports.initial_relay _
    · show Outlets.initial.Carries water ((spoken session listener []
        (server.ports server.initial).output).filterMap (downWire session))
      rw [server.ports_initial]
      exact Outlets.initial_carries water
  · intro events event ih
    cases event with
    | send line msg => exact linked_send ih line msg
    | deliver line => exact linked_deliver ih line
    | pass kind => exact linked_pass ih kind
    | receive line =>
        have hevents := @upWire_concat ρ session events (.receive line) rfl
        exact ⟨hevents ▸ ih.up, ih.sockets, ih.down.take line⟩

/-! What one socket has sent and received. -/

theorem on_upWire (line : Line) (events : List (Event ρ)) :
    on line (events.filterMap (upWire session)) =
      (requests line events).filterMap fun msg =>
        (serialize session.json session.auth session.clientHandler msg).toOption := by
  rw [on, requests, List.filterMap_filterMap, List.filterMap_filterMap]
  refine List.filterMap_congr fun event _ => ?_
  cases event with
  | send line' msg =>
      simp only [upWire]
      by_cases hline : line' = line
      · simp only [hline, if_true, Option.bind_some]
        cases serialize session.json session.auth session.clientHandler msg <;>
          simp [Except.toOption]
      · cases serialize session.json session.auth session.clientHandler msg <;>
          simp [hline, Except.toOption]
  | _ => rfl

theorem on_atRouter (line : Line) (entries : List (Line × Multipart)) :
    (on line.1 (entries.map Network.atRouter)).filter (·.head? = some line.2.val) =
      (on line entries).map (line.2.val :: ·) := by
  induction entries with
  | nil => rfl
  | cons entry entries ih =>
      obtain ⟨⟨channel, id⟩, wireMsg⟩ := entry
      rw [List.map_cons, Network.atRouter]
      by_cases hline : (channel, id) = line
      · subst hline
        rw [on_cons_self, on_cons_self, List.filter_cons]
        simp [ih]
      · rw [on_cons_of_ne hline]
        by_cases hchannel : channel = line.1
        · subst hchannel
          have hid : id.val ≠ line.2.val := fun hid =>
            hline (Prod.ext rfl (Subtype.ext hid))
          rw [on_cons_self, List.filter_cons]
          simp [hid, ih]
        · rw [on_cons_of_ne hchannel, ih]

theorem mem_of_mem_performed {sent : Call} {actions : List Action}
    (h : sent ∈ performed session actions) : .send sent.1 sent.2 ∈ actions := by
  induction actions with
  | nil => cases h
  | cons action actions ih =>
      cases action with
      | stop => exact List.mem_cons_of_mem _ (ih h)
      | send channel msg =>
          rw [performed] at h
          split at h
          · cases h
          · rcases List.mem_cons.mp h with rfl | h
            · exact List.mem_cons_self
            · exact List.mem_cons_of_mem _ (ih h)

/-- What the replies to one call put on a lane. -/
theorem on_performed (hreplies : Replies listener) (line : Line) (past : List Call)
    (call : Call) :
    on line ((performed session (listener past call)).filterMap (downWire session)) =
      (if callLine call = some line then
        (performed session (listener past call)).map Prod.snd else []).filterMap fun reply =>
          (serialize session.json session.auth session.serverHandler reply).toOption.map
            List.tail := by
  have hwire : ∀ sent ∈ performed session (listener past call),
      downWire session sent =
        (serialize session.json session.auth session.serverHandler sent.2).toOption.bind
          fun wireMsg => (callLine call).map fun line => (line, wireMsg.tail) := by
    intro sent hsent
    obtain ⟨hchannel, hids⟩ := hreplies past call sent.1 sent.2 (mem_of_mem_performed hsent)
    rw [downWire]
    cases hserialize : serialize session.json session.auth session.serverHandler sent.2 with
    | error f => rfl
    | ok wireMsg =>
        show route sent.1 wireMsg = _
        rw [route_reply hids hserialize, hchannel]
        rfl
  rw [List.filterMap_congr hwire, on, List.filterMap_filterMap]
  split_ifs with hline
  · rw [List.filterMap_map]
    refine List.filterMap_congr fun sent _ => ?_
    cases hserialize : serialize session.json session.auth session.serverHandler sent.2 <;>
      simp [hserialize, hline, Except.toOption]
  · rw [List.filterMap_nil, List.filterMap_eq_nil_iff]
    intro sent _
    cases hcall : callLine call with
    | none =>
        cases serialize session.json session.auth session.serverHandler sent.2 <;>
          simp [Except.toOption]
    | some line' =>
        have hne : line' ≠ line := fun h => hline (h ▸ hcall)
        cases serialize session.json session.auth session.serverHandler sent.2 <;>
          simp [hne, Except.toOption]

theorem on_spoken (hreplies : Replies listener) (line : Line) (past calls : List Call) :
    on line ((spoken session listener past calls).filterMap (downWire session)) =
      (repliesTo session listener line past calls).filterMap fun reply =>
        (serialize session.json session.auth session.serverHandler reply).toOption.map
          List.tail := by
  induction calls generalizing past with
  | nil => rfl
  | cons call calls ih =>
      rw [spoken, repliesTo, List.filterMap_append, List.filterMap_append, on_append, ih,
        on_performed hreplies]

theorem mem_repliesTo (hreplies : Replies listener) {line : Line} {past calls : List Call}
    {reply : XMessage} (h : reply ∈ repliesTo session listener line past calls) :
    ∃ call ∈ calls, callLine call = some line ∧ reply.identities = call.2.identities := by
  induction calls generalizing past with
  | nil => cases h
  | cons call calls ih =>
      rcases List.mem_append.mp h with h | h
      · split_ifs at h with hline
        · obtain ⟨sent, hsent, rfl⟩ := List.mem_map.mp h
          have hsend := hreplies past call sent.1 sent.2 (mem_of_mem_performed hsent)
          exact ⟨call, List.mem_cons_self, hline, hsend.2⟩
        · cases h
      · obtain ⟨call', hcall', hfound⟩ := ih h
        exact ⟨call', List.mem_cons_of_mem call hcall', hfound⟩

theorem Linked.identities {events : List (Event ρ)} {s : Network σ}
    (h : Linked session server listener water events s) {call : Call}
    (hcall : call ∈ server.calls s.server) : ∀ id ∈ call.2.identities, id ≠ delimiter := by
  obtain ⟨wireMsg, -, hdecoded⟩ := (h.sockets call.1).mem_output (mem_on.mpr hcall)
  unfold decoded at hdecoded
  cases hdecode : session.decode wireMsg with
  | error f =>
      rw [hdecode] at hdecoded
      cases hdecoded
  | ok msg =>
      rw [hdecode] at hdecoded
      obtain rfl := Option.some.inj hdecoded
      exact (identities_of_decode hdecode).1

theorem head?_of_decoded (id : RoutingId) {wireMsg : Multipart} {msg : XMessage}
    (h : decoded session.decode wireMsg = some msg) :
    decide (msg.identities.head? = some id.val) = decide (wireMsg.head? = some id.val) := by
  unfold decoded at h
  cases hdecode : session.decode wireMsg with
  | error f =>
      rw [hdecode] at h
      cases h
  | ok msg' =>
      rw [hdecode] at h
      obtain rfl := Option.some.inj h
      exact decide_eq_decide.mpr ((identities_of_decode hdecode).2 id)

theorem Linked.requests {events : List (Event ρ)} (hids : Deliverable events)
    {s : Network σ} (h : Linked session server listener water events s) (line : Line) :
    callsFrom line (server.calls s.server) ++ s.waiting session server line =
      (requests line events).filterMap
        (carried session.json session.clientHandler (line.2.val :: ·)) := by
  have hsocket := (h.sockets line.1).filter
    (p := fun wireMsg => wireMsg.head? = some line.2.val)
    (q := fun msg => msg.identities.head? = some line.2.val)
    fun _ _ hdecoded => head?_of_decoded line.2 hdecoded
  rw [on_atRouter] at hsocket
  have hlane := (h.up line).arrived_eq
  rw [on_upWire] at hlane
  have hcarried : ∀ msg ∈ RemoteCalls.requests line events,
      ((serialize session.json session.auth session.clientHandler msg).toOption.bind fun wireMsg =>
        decoded session.decode (line.2.val :: wireMsg)) =
      carried session.json session.clientHandler (line.2.val :: ·) msg := by
    intro msg hmsg
    obtain ⟨event, hevent, hsend⟩ := List.mem_filterMap.mp hmsg
    cases event with
    | send line' msg' =>
        simp only at hsend
        split_ifs at hsend
        obtain rfl := Option.some.inj hsend
        exact decoded_request (hids line' msg' hevent) line.2
    | _ => cases hsend
  calc callsFrom line (server.calls s.server) ++ s.waiting session server line
      = ((on line s.up.output ++ s.up.pending line).map (line.2.val :: ·)).filterMap
          (decoded session.decode) := by
        rw [Network.waiting, List.filterMap_append, ← List.append_assoc, List.map_append,
          List.filterMap_append, ← hsocket.output_append]
        rfl
    _ = (RemoteCalls.requests line events).filterMap
          (carried session.json session.clientHandler (line.2.val :: ·)) := by
        rw [← hlane, List.filterMap_map, List.filterMap_filterMap]
        exact List.filterMap_congr hcarried

/-- What has been put on a lane to a client, or dropped, as the client decodes it. -/
theorem Linked.due (hreplies : Replies listener) {events : List (Event ρ)} {s : Network σ}
    (h : Linked session server listener water events s) (line : Line) :
    (on line ((spoken session listener [] (server.calls s.server)).filterMap
        (downWire session))).map session.decode =
      repliesDue session listener line (server.calls s.server) := by
  rw [on_spoken hreplies, repliesDue, List.map_filterMap, List.map_filterMap]
  refine List.filterMap_congr fun reply hreply => ?_
  obtain ⟨call, hcall, hline, hidentities⟩ := mem_repliesTo hreplies hreply
  have hne : reply.identities ≠ [] := by
    rw [hidentities]
    intro hnil
    rw [callLine, hnil] at hline
    cases hline
  have hids : ∀ id ∈ reply.identities, id ≠ delimiter := hidentities ▸ h.identities hcall
  rw [Option.map_map]
  exact decoded_reply hne hids

theorem received_append (line : Line) (s : Network σ) :
    s.received session line ++ (s.down.lanes.pending line).map session.decode =
      (s.down.kept line).map session.decode :=
  List.map_append.symm

theorem length_received (line : Line) (s : Network σ) :
    (s.received session line).length + (s.down.lanes.pending line).length =
      (s.down.kept line).length := by
  rw [Network.received, List.length_map, Outlets.kept, List.length_append]

theorem run_conserves (hreplies : Replies listener) {events : List (Event ρ)}
    (hids : Deliverable events) :
    Conserves session server listener water events
      (Network.run session server listener water events) := by
  have h : Linked session server listener water events _ := run_linked events
  refine ⟨h.requests hids, fun line => ?_, fun line => ?_, fun line hline => ?_⟩
  · rw [received_append, ← h.due hreplies line]
    exact (h.down.sublist line).map _
  · rw [length_received, ← h.due hreplies line, List.length_map]
    exact h.down.count line
  · have hcount := h.down.count line
    obtain ⟨hmark, hkept⟩ := h.down.mark line hline
    have hdropped := List.length_pos_iff.mpr hline
    rw [← h.due hreplies line, List.length_map, ← hcount, Outlets.count]
    exact ⟨hmark, by omega⟩

end Runs

end XeusZmq.RemoteCallRuns
