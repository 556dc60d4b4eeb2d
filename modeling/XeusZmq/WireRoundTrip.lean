import XeusZmq.Serializer

namespace XeusZmq.WireRoundTrip

open XeusZmq.Values
open XeusZmq.Authentication
open XeusZmq.Serializer

/-- Every text that `dump` produces is one that `parse` accepts. -/
def ParsesDumps (json : JsonLibrary) : Prop :=
  ∀ errorHandler part text, json.dump errorHandler part = .ok text →
    ∃ part', json.parse text = .ok part'

def Reparsed (json : JsonLibrary) (errorHandler : ErrorHandler) (part part' : Json) : Prop :=
  ∃ text, json.dump errorHandler part = .ok text ∧ json.parse text = .ok part'

/-- A parsed value can be dumped under every handler, and parses back. -/
def RoundTripsParsed (json : JsonLibrary) : Prop :=
  ∀ text part, json.parse text = .ok part →
    ∀ errorHandler, Reparsed json errorHandler part part

/-- The four parts of `data'` are those of `data` dumped and parsed, and the
buffers are the same. -/
structure ReparsedData (json : JsonLibrary) (errorHandler : ErrorHandler)
    (data data' : XMessageBaseData) : Prop where
  header : Reparsed json errorHandler data.header data'.header
  parentHeader : Reparsed json errorHandler data.parentHeader data'.parentHeader
  metadata : Reparsed json errorHandler data.metadata data'.metadata
  content : Reparsed json errorHandler data.content data'.content
  buffers : data'.buffers = data.buffers

theorem Reparsed.unique {json : JsonLibrary} {errorHandler : ErrorHandler}
    {part part₁ part₂ : Json} (h₁ : Reparsed json errorHandler part part₁)
    (h₂ : Reparsed json errorHandler part part₂) : part₁ = part₂ := by
  obtain ⟨text₁, hdump₁, hparse₁⟩ := h₁
  obtain ⟨text₂, hdump₂, hparse₂⟩ := h₂
  obtain rfl : text₁ = text₂ := Except.ok.inj (hdump₁.symm.trans hdump₂)
  exact Except.ok.inj (hparse₁.symm.trans hparse₂)

theorem ReparsedData.unique {json : JsonLibrary} {errorHandler : ErrorHandler}
    {data data₁ data₂ : XMessageBaseData} (h₁ : ReparsedData json errorHandler data data₁)
    (h₂ : ReparsedData json errorHandler data data₂) : data₁ = data₂ := by
  have hheader := h₁.header.unique h₂.header
  have hparent := h₁.parentHeader.unique h₂.parentHeader
  have hmetadata := h₁.metadata.unique h₂.metadata
  have hcontent := h₁.content.unique h₂.content
  have hbuffers := h₁.buffers.trans h₂.buffers.symm
  cases data₁
  cases data₂
  simp_all

theorem Writes.exists_reads {json : JsonLibrary} {auth : XAuthentication}
    {errorHandler : ErrorHandler} {data : XMessageBaseData} {frames : BaseFrames}
    (hauth : AcceptsOwnSignatures auth) (hjson : ParsesDumps json)
    (h : Writes json auth errorHandler data frames) :
    ∃ data', Reads json auth frames data' ∧ ReparsedData json errorHandler data data' := by
  obtain ⟨header, hheader⟩ := hjson _ _ _ h.header
  obtain ⟨parentHeader, hparent⟩ := hjson _ _ _ h.parentHeader
  obtain ⟨metadata, hmetadata⟩ := hjson _ _ _ h.metadata
  obtain ⟨content, hcontent⟩ := hjson _ _ _ h.content
  refine ⟨⟨header, parentHeader, metadata, content, frames.buffers⟩, ?_, ?_⟩
  · refine ⟨hheader, hparent, hmetadata, hcontent, rfl, ?_⟩
    rw [h.signature]
    exact hauth.verify_sign _ _ _ _
  · exact ⟨⟨_, h.header, hheader⟩, ⟨_, h.parentHeader, hparent⟩,
      ⟨_, h.metadata, hmetadata⟩, ⟨_, h.content, hcontent⟩, h.buffers⟩

theorem Reads.exists_writes {json : JsonLibrary} {auth : XAuthentication}
    {data : XMessageBaseData} {frames : BaseFrames}
    (hauth : AcceptsOwnSignatures auth) (hjson : RoundTripsParsed json)
    (errorHandler : ErrorHandler) (h : Reads json auth frames data) :
    ∃ frames', Writes json auth errorHandler data frames' ∧
      Reads json auth frames' data := by
  obtain ⟨header, hheader, hheader'⟩ := hjson _ _ h.header errorHandler
  obtain ⟨parentHeader, hparent, hparent'⟩ := hjson _ _ h.parentHeader errorHandler
  obtain ⟨metadata, hmetadata, hmetadata'⟩ := hjson _ _ h.metadata errorHandler
  obtain ⟨content, hcontent, hcontent'⟩ := hjson _ _ h.content errorHandler
  let frames' : BaseFrames :=
    ⟨auth.sign header parentHeader metadata content, header, parentHeader, metadata,
      content, data.buffers⟩
  refine ⟨frames', ⟨rfl, hheader, hparent, hmetadata, hcontent, rfl⟩, ?_⟩
  exact ⟨hheader', hparent', hmetadata', hcontent', rfl, hauth.verify_sign _ _ _ _⟩

theorem serialize_eq_ok {json : JsonLibrary} {auth : XAuthentication}
    {errorHandler : ErrorHandler} {msg : XMessage} {wireMsg : Multipart} :
    serialize json auth errorHandler msg = .ok wireMsg ↔
      ∃ frames, Writes json auth errorHandler msg.data frames ∧
        wireMsg = msg.identities ++ delimiter :: frames.toMultipart := by
  simp [serialize, serializeMessageBase_eq_ok, serializeZmqId]

theorem serializeIopub_eq_ok {json : JsonLibrary} {auth : XAuthentication}
    {errorHandler : ErrorHandler} {msg : XPubMessage} {wireMsg : Multipart} :
    serializeIopub json auth errorHandler msg = .ok wireMsg ↔
      ∃ frames, Writes json auth errorHandler msg.data frames ∧
        wireMsg = msg.topic :: delimiter :: frames.toMultipart := by
  simp [serializeIopub, serializeMessageBase_eq_ok, serializeTopic]

theorem deserialize_delimiter {json : JsonLibrary} {auth : XAuthentication}
    {ids : List Bytes} (hids : ∀ id ∈ ids, id ≠ delimiter) {frames : BaseFrames}
    {data : XMessageBaseData} (h : Reads json auth frames data) :
    deserialize json auth (ids ++ delimiter :: frames.toMultipart) =
      .ok { identities := ids, data } := by
  rw [BaseFrames.toMultipart_cons]
  rw [deserialize, deserializeZmqId_delimiter hids, ok_bind]
  simp only [← BaseFrames.toMultipart_cons]
  rw [deserializeMessageBase_toMultipart.mpr h]
  rfl

theorem deserialize_eq_ok {json : JsonLibrary} {auth : XAuthentication}
    {wireMsg : Multipart} {msg : XMessage}
    (h : deserialize json auth wireMsg = .ok msg) :
    ∃ frames, (∀ id ∈ msg.identities, id ≠ delimiter) ∧
      wireMsg = msg.identities ++ delimiter :: frames.toMultipart ∧
      Reads json auth frames msg.data := by
  obtain ⟨⟨ids, rest⟩, hids, hdata⟩ := bind_eq_ok.mp h
  obtain ⟨data, hbase, hreturn⟩ := bind_eq_ok.mp hdata
  obtain rfl := Except.ok.inj hreturn
  obtain ⟨-, hne, rfl⟩ := deserializeZmqId_eq_ok hids
  obtain ⟨frames, rfl, hreads⟩ := deserializeMessageBase_eq_ok hbase
  exact ⟨frames, hne, rfl, hreads⟩

theorem deserializeIopub_topic {json : JsonLibrary} {auth : XAuthentication}
    (topic second : Bytes) {frames : BaseFrames} {data : XMessageBaseData}
    (h : Reads json auth frames data) :
    deserializeIopub json auth (topic :: second :: frames.toMultipart) =
      .ok { topic, data } := by
  simp only [deserializeIopub, deserializeTopic, pop_cons, ok_bind, pure, Except.pure]
  rw [deserializeMessageBase_toMultipart.mpr h]
  rfl

theorem deserializeIopub_eq_ok {json : JsonLibrary} {auth : XAuthentication}
    {wireMsg : Multipart} {msg : XPubMessage}
    (h : deserializeIopub json auth wireMsg = .ok msg) :
    ∃ second frames, wireMsg = msg.topic :: second :: frames.toMultipart ∧
      Reads json auth frames msg.data := by
  match wireMsg with
  | [] | [_] => simp [deserializeIopub, deserializeTopic] at h
  | topic :: second :: rest =>
      change (deserializeMessageBase json auth rest >>= fun data =>
        pure { topic, data }) = .ok msg at h
      obtain ⟨data, hbase, hreturn⟩ := bind_eq_ok.mp h
      obtain rfl := Except.ok.inj hreturn
      obtain ⟨frames, rfl, hreads⟩ := deserializeMessageBase_eq_ok hbase
      exact ⟨second, frames, rfl, hreads⟩

theorem deserialize_serialize {json : JsonLibrary} {auth : XAuthentication}
    (hauth : AcceptsOwnSignatures auth) (hjson : ParsesDumps json)
    {errorHandler : ErrorHandler} {msg : XMessage} {wireMsg : Multipart}
    (hids : ∀ id ∈ msg.identities, id ≠ delimiter)
    (h : serialize json auth errorHandler msg = .ok wireMsg) :
    ∃ msg', deserialize json auth wireMsg = .ok msg' ∧
      msg'.identities = msg.identities ∧
      ReparsedData json errorHandler msg.data msg'.data := by
  obtain ⟨frames, hwrites, rfl⟩ := serialize_eq_ok.mp h
  obtain ⟨data', hreads, hreparsed⟩ := Writes.exists_reads hauth hjson hwrites
  exact ⟨⟨msg.identities, data'⟩, deserialize_delimiter hids hreads, rfl, hreparsed⟩

theorem deserializeIopub_serializeIopub {json : JsonLibrary} {auth : XAuthentication}
    (hauth : AcceptsOwnSignatures auth) (hjson : ParsesDumps json)
    {errorHandler : ErrorHandler} {msg : XPubMessage} {wireMsg : Multipart}
    (h : serializeIopub json auth errorHandler msg = .ok wireMsg) :
    ∃ msg', deserializeIopub json auth wireMsg = .ok msg' ∧
      msg'.topic = msg.topic ∧ ReparsedData json errorHandler msg.data msg'.data := by
  obtain ⟨frames, hwrites, rfl⟩ := serializeIopub_eq_ok.mp h
  obtain ⟨data', hreads, hreparsed⟩ := Writes.exists_reads hauth hjson hwrites
  exact ⟨⟨msg.topic, data'⟩, deserializeIopub_topic _ _ hreads, rfl, hreparsed⟩

theorem reserialize_deserialize {json : JsonLibrary} {auth : XAuthentication}
    (hauth : AcceptsOwnSignatures auth) (hjson : RoundTripsParsed json)
    (errorHandler : ErrorHandler) (wireMsg : Multipart) :
    (deserialize json auth wireMsg >>= serialize json auth errorHandler >>=
      deserialize json auth) = deserialize json auth wireMsg := by
  cases hmsg : deserialize json auth wireMsg with
  | error e => simp
  | ok msg =>
      obtain ⟨frames, hids, -, hreads⟩ := deserialize_eq_ok hmsg
      obtain ⟨frames', hwrites, hreads'⟩ :=
        Reads.exists_writes hauth hjson errorHandler hreads
      have hserialize := serialize_eq_ok.mpr ⟨frames', hwrites, rfl⟩
      rw [ok_bind, hserialize, ok_bind]
      exact deserialize_delimiter hids hreads'

theorem reserializeIopub_deserializeIopub {json : JsonLibrary} {auth : XAuthentication}
    (hauth : AcceptsOwnSignatures auth) (hjson : RoundTripsParsed json)
    (errorHandler : ErrorHandler) (wireMsg : Multipart) :
    (deserializeIopub json auth wireMsg >>= serializeIopub json auth errorHandler >>=
      deserializeIopub json auth) = deserializeIopub json auth wireMsg := by
  cases hmsg : deserializeIopub json auth wireMsg with
  | error e => simp
  | ok msg =>
      obtain ⟨second, frames, -, hreads⟩ := deserializeIopub_eq_ok hmsg
      obtain ⟨frames', hwrites, hreads'⟩ :=
        Reads.exists_writes hauth hjson errorHandler hreads
      have hserialize := serializeIopub_eq_ok.mpr ⟨frames', hwrites, rfl⟩
      rw [ok_bind, hserialize, ok_bind]
      exact deserializeIopub_topic _ _ hreads'

/-- The wire round trip under every authenticator that `make_xauthentication`
builds: decoding what was encoded gives the same identities or topic, the same
buffers, and the parts as `nlohmann` reparses them; decoding again after
encoding a decoded message changes nothing. -/
theorem wire_round_trip (ssl : OpenSsl) (hexString : Bytes → Bytes) (scheme key : Bytes)
    (auth : XAuthentication)
    (hauth : makeXAuthentication ssl hexString scheme key = .ok auth)
    (json : JsonLibrary) (hdump : ParsesDumps json) (errorHandler : ErrorHandler) :
    (∀ msg wireMsg, (∀ id ∈ msg.identities, id ≠ delimiter) →
      serialize json auth errorHandler msg = .ok wireMsg →
      ∃ msg', deserialize json auth wireMsg = .ok msg' ∧
        msg'.identities = msg.identities ∧
        ReparsedData json errorHandler msg.data msg'.data ∧
        (ReparsedData json errorHandler msg.data msg.data → msg' = msg)) ∧
    (∀ msg wireMsg, serializeIopub json auth errorHandler msg = .ok wireMsg →
      ∃ msg', deserializeIopub json auth wireMsg = .ok msg' ∧
        msg'.topic = msg.topic ∧
        ReparsedData json errorHandler msg.data msg'.data ∧
        (ReparsedData json errorHandler msg.data msg.data → msg' = msg)) ∧
    (RoundTripsParsed json → ∀ wireMsg,
      (deserialize json auth wireMsg >>= serialize json auth errorHandler >>=
        deserialize json auth) = deserialize json auth wireMsg ∧
      (deserializeIopub json auth wireMsg >>= serializeIopub json auth errorHandler >>=
        deserializeIopub json auth) = deserializeIopub json auth wireMsg) := by
  have hown := makeXAuthentication_acceptsOwnSignatures hauth
  refine ⟨?_, ?_, ?_⟩
  · intro msg wireMsg hids hserialize
    obtain ⟨msg', hmsg', hid, hreparsed⟩ :=
      deserialize_serialize hown hdump hids hserialize
    refine ⟨msg', hmsg', hid, hreparsed, ?_⟩
    intro hsame
    have hdata := hreparsed.unique hsame
    cases msg
    cases msg'
    simp_all
  · intro msg wireMsg hserialize
    obtain ⟨msg', hmsg', htopic, hreparsed⟩ :=
      deserializeIopub_serializeIopub hown hdump hserialize
    refine ⟨msg', hmsg', htopic, hreparsed, ?_⟩
    intro hsame
    have hdata := hreparsed.unique hsame
    cases msg
    cases msg'
    simp_all
  · intro hjson wireMsg
    exact ⟨reserialize_deserialize hown hjson errorHandler wireMsg,
      reserializeIopub_deserializeIopub hown hjson errorHandler wireMsg⟩

/-- The conversions of `nl::json` cut down to the empty object. -/
def emptyObjectLibrary : JsonLibrary where
  dump _ part :=
    match part with
    | .object [] => .ok (literal "{}")
    | _ => .error .typeError
  parse text :=
    if text = literal "{}" then .ok (.object []) else .error .parseError

theorem emptyObjectLibrary_parsesDumps : ParsesDumps emptyObjectLibrary := by
  intro errorHandler part text hdump
  simp only [emptyObjectLibrary] at hdump ⊢
  split at hdump
  · obtain rfl := Except.ok.inj hdump
    exact ⟨_, if_pos rfl⟩
  · simp at hdump

/-- The message with two identities, one of them empty, four empty objects and
an empty buffer comes back unchanged under "hmac-sha256". -/
theorem wire_round_trip_emptyObjects :
    let auth := (sha256Authentication : XAuthentication)
    let data : XMessageBaseData :=
      ⟨.object [], .object [], .object [], .object [], [[], [1, 2]]⟩
    let msg : XMessage := ⟨[[], literal "client"], data⟩
    ∃ wireMsg msg', serialize emptyObjectLibrary auth .strict msg = .ok wireMsg ∧
      deserialize emptyObjectLibrary auth wireMsg = .ok msg' ∧ msg' = msg := by
  intro auth data msg
  have hauth : makeXAuthentication sha256OpenSsl lowerHex (literal "hmac-sha256")
      (literal "key") = .ok auth := rfl
  have hround := wire_round_trip sha256OpenSsl lowerHex _ _ auth hauth emptyObjectLibrary
    emptyObjectLibrary_parsesDumps .strict
  have hempty : Reparsed emptyObjectLibrary .strict (.object []) (.object []) :=
    ⟨literal "{}", rfl, rfl⟩
  obtain ⟨msg', hmsg', -, -, hsame⟩ := hround.1 msg _ (by decide) rfl
  exact ⟨_, msg', rfl, hmsg', hsame ⟨hempty, hempty, hempty, hempty, rfl⟩⟩

end XeusZmq.WireRoundTrip
