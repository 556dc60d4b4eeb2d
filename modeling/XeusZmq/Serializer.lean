import XeusZmq.Authentication

/-!
The wire format of `xzmq_serializer`: identities up to a delimiter frame (or a
topic followed by it), a signature, the four JSON parts and the raw buffers.
-/

namespace XeusZmq.Serializer

open XeusZmq.Values
open XeusZmq.Authentication

def delimiter : Bytes :=
  literal "<IDS|MSG>"

def isDelimiter (frame : Bytes) : Bool :=
  if frame.length ≠ delimiter.length then false
  else frame == delimiter

@[simp] theorem isDelimiter_eq_true_iff {frame : Bytes} :
    isDelimiter frame = true ↔ frame = delimiter := by
  unfold isDelimiter
  split
  · rename_i hlength
    simp only [Bool.false_eq_true, false_iff]
    rintro rfl
    exact hlength rfl
  · simp

theorem isDelimiter_eq_false {frame : Bytes} (h : frame ≠ delimiter) :
    isDelimiter frame = false := by
  rw [← Bool.not_eq_true, isDelimiter_eq_true_iff]
  exact h

def parseZmqMessage (json : JsonLibrary) (msg : Bytes) : Result Json :=
  liftJson (json.parse msg)

def writeZmqMessage (json : JsonLibrary) (errorHandler : ErrorHandler)
    (part : Json) : Result Bytes :=
  liftJson (json.dump errorHandler part)

/-- The five frames and the buffers that follow the delimiter. The parts are
dumped before anything is appended to the message. -/
def serializeMessageBase (json : JsonLibrary) (auth : XAuthentication)
    (errorHandler : ErrorHandler) (msg : XMessageBaseData) (wireMsg : Multipart) :
    Result Multipart := do
  let header ← writeZmqMessage json errorHandler msg.header
  let parentHeader ← writeZmqMessage json errorHandler msg.parentHeader
  let metadata ← writeZmqMessage json errorHandler msg.metadata
  let content ← writeZmqMessage json errorHandler msg.content
  let signature := auth.sign header parentHeader metadata content
  return wireMsg ++ [signature, header, parentHeader, metadata, content] ++ msg.buffers

/-- The rest of a message after its delimiter; every frame is consumed. -/
def deserializeMessageBase (json : JsonLibrary) (auth : XAuthentication)
    (wireMsg : Multipart) : Result XMessageBaseData := do
  let (signature, wireMsg) ← pop wireMsg
  let (header, wireMsg) ← pop wireMsg
  let (parentHeader, wireMsg) ← pop wireMsg
  let (metadata, wireMsg) ← pop wireMsg
  let (content, wireMsg) ← pop wireMsg
  let data : XMessageBaseData :=
    { header := ← parseZmqMessage json header
      parentHeader := ← parseZmqMessage json parentHeader
      metadata := ← parseZmqMessage json metadata
      content := ← parseZmqMessage json content
      buffers := wireMsg }
  if ← auth.verify signature header parentHeader metadata content then
    return data
  else
    throw (.exception (.runtimeError "ERROR: Signatures don't match"))

def serializeTopic (msg : XPubMessage) (wireMsg : Multipart) : Multipart :=
  wireMsg ++ [msg.topic, delimiter]

/-- Pops the topic and one more frame, which it does not look at. -/
def deserializeTopic (wireMsg : Multipart) : Result (Bytes × Multipart) := do
  let (topic, wireMsg) ← pop wireMsg
  let (_, wireMsg) ← pop wireMsg
  return (topic, wireMsg)

def serializeZmqId (ids : List Bytes) (wireMsg : Multipart) : Multipart :=
  wireMsg ++ ids ++ [delimiter]

/-- The loop of `deserialize_zmq_id`: `frame` is the frame popped last. -/
def zmqIdLoop (zmqId : List Bytes) (frame : Bytes) : Multipart → List Bytes × Multipart
  | [] => (zmqId, [])
  | next :: rest =>
      if isDelimiter frame then (zmqId, next :: rest)
      else zmqIdLoop (zmqId ++ [frame]) next rest

def deserializeZmqId (wireMsg : Multipart) : Result (List Bytes × Multipart) := do
  let (frame, wireMsg) ← pop wireMsg
  let (zmqId, wireMsg) := zmqIdLoop [] frame wireMsg
  if wireMsg.length = 0 then
    throw (.exception (.runtimeError "ERROR: Delimiter not present in message"))
  else
    return (zmqId, wireMsg)

def serialize (json : JsonLibrary) (auth : XAuthentication) (errorHandler : ErrorHandler)
    (msg : XMessage) : Result Multipart :=
  serializeMessageBase json auth errorHandler msg.data (serializeZmqId msg.identities [])

def deserialize (json : JsonLibrary) (auth : XAuthentication) (wireMsg : Multipart) :
    Result XMessage := do
  let (zmqId, wireMsg) ← deserializeZmqId wireMsg
  let data ← deserializeMessageBase json auth wireMsg
  return { identities := zmqId, data }

def serializeIopub (json : JsonLibrary) (auth : XAuthentication)
    (errorHandler : ErrorHandler) (msg : XPubMessage) : Result Multipart :=
  serializeMessageBase json auth errorHandler msg.data (serializeTopic msg [])

def deserializeIopub (json : JsonLibrary) (auth : XAuthentication)
    (wireMsg : Multipart) : Result XPubMessage := do
  let (topic, wireMsg) ← deserializeTopic wireMsg
  let data ← deserializeMessageBase json auth wireMsg
  return { topic, data }

theorem pop_ne_exception (wireMsg : Multipart) (e : Exception) :
    pop wireMsg ≠ .error (.exception e) := by
  cases wireMsg <;> simp

theorem parseZmqMessage_ne_zmqError (json : JsonLibrary) (msg : Bytes) (num : Nat) :
    parseZmqMessage json msg ≠ .error (.exception (.zmqError num)) := by
  unfold parseZmqMessage
  cases json.parse msg <;> simp

/-- Decoding throws its own errors or those of `nl::json`, never one of ZeroMQ. -/
theorem deserialize_ne_zmqError (json : JsonLibrary) {auth : XAuthentication}
    (hverify : ∀ signature header parentHeader metadata content e,
      auth.verify signature header parentHeader metadata content ≠ .error (.exception e))
    (wireMsg : Multipart) (num : Nat) :
    deserialize json auth wireMsg ≠ .error (.exception (.zmqError num)) := by
  refine bind_ne_error ?_ fun ⟨_, wireMsg⟩ => bind_ne_error ?_ fun _ => nofun
  · refine bind_ne_error (pop_ne_exception _ _) fun _ => ?_
    simp only
    split <;> simp [throw, throwThe, MonadExceptOf.throw, pure, Except.pure]
  · refine bind_ne_error (pop_ne_exception _ _) fun _ => ?_
    refine bind_ne_error (pop_ne_exception _ _) fun _ => ?_
    refine bind_ne_error (pop_ne_exception _ _) fun _ => ?_
    refine bind_ne_error (pop_ne_exception _ _) fun _ => ?_
    refine bind_ne_error (pop_ne_exception _ _) fun _ => ?_
    refine bind_ne_error (parseZmqMessage_ne_zmqError _ _ _) fun _ => ?_
    refine bind_ne_error (parseZmqMessage_ne_zmqError _ _ _) fun _ => ?_
    refine bind_ne_error (parseZmqMessage_ne_zmqError _ _ _) fun _ => ?_
    refine bind_ne_error (parseZmqMessage_ne_zmqError _ _ _) fun _ => ?_
    refine bind_ne_error (hverify _ _ _ _ _ _) fun _ => ?_
    split <;> simp [throw, throwThe, MonadExceptOf.throw, pure, Except.pure]

theorem zmqIdLoop_delimiter {ids : List Bytes} (hids : ∀ id ∈ ids, id ≠ delimiter)
    (zmqId : List Bytes) (next : Bytes) (rest : Multipart) :
    ∀ {frame wireMsg}, frame :: wireMsg = ids ++ delimiter :: next :: rest →
      zmqIdLoop zmqId frame wireMsg = (zmqId ++ ids, next :: rest) := by
  induction ids generalizing zmqId with
  | nil =>
      intro frame wireMsg heq
      obtain ⟨rfl, rfl⟩ := List.cons.inj heq
      simp [zmqIdLoop]
  | cons id ids ih =>
      intro frame wireMsg heq
      obtain ⟨rfl, hwire⟩ := List.cons.inj heq
      change wireMsg = ids ++ delimiter :: next :: rest at hwire
      have hid : isDelimiter frame = false :=
        isDelimiter_eq_false (hids frame (by simp))
      have htail : ∀ id ∈ ids, id ≠ delimiter := by
        intro id hmem
        exact hids id (by simp [hmem])
      obtain ⟨head, tail, hcons⟩ :
          ∃ head tail, ids ++ delimiter :: next :: rest = head :: tail := by
        cases ids <;> simp
      rw [hwire, hcons, zmqIdLoop, hid, if_neg Bool.false_ne_true]
      rw [ih htail (zmqId ++ [frame]) hcons.symm]
      simp

theorem deserializeZmqId_delimiter {ids : List Bytes}
    (hids : ∀ id ∈ ids, id ≠ delimiter) (next : Bytes) (rest : Multipart) :
    deserializeZmqId (ids ++ delimiter :: next :: rest) =
      .ok (ids, next :: rest) := by
  obtain ⟨frame, wireMsg, hcons⟩ :
      ∃ frame wireMsg, ids ++ delimiter :: next :: rest = frame :: wireMsg := by
    cases ids <;> simp
  have hloop := zmqIdLoop_delimiter hids [] next rest hcons.symm
  simp only [deserializeZmqId, hcons, pop_cons, ok_bind, hloop]
  rfl

theorem zmqIdLoop_eq {zmqId ids : List Bytes} {next : Bytes} {rest : Multipart} :
    ∀ {frame wireMsg}, zmqIdLoop zmqId frame wireMsg = (ids, next :: rest) →
      ∃ front, ids = zmqId ++ front ∧ (∀ id ∈ front, id ≠ delimiter) ∧
        frame :: wireMsg = front ++ delimiter :: next :: rest := by
  intro frame wireMsg
  induction wireMsg generalizing zmqId frame with
  | nil => simp [zmqIdLoop]
  | cons head tail ih =>
      intro hloop
      unfold zmqIdLoop at hloop
      split at hloop
      · rename_i hframe
        obtain ⟨rfl, htail⟩ := Prod.mk.inj hloop
        obtain rfl := isDelimiter_eq_true_iff.mp hframe
        exact ⟨[], by simp, by simp, by simp [htail]⟩
      · rename_i hframe
        obtain ⟨front, rfl, hfront, htail⟩ := ih hloop
        refine ⟨frame :: front, by simp, ?_, by simp [htail]⟩
        intro id hmem
        rcases List.mem_cons.mp hmem with rfl | hmem
        · simpa using hframe
        · exact hfront id hmem

theorem deserializeZmqId_eq_ok {wireMsg : Multipart} {ids : List Bytes} {rest : Multipart}
    (h : deserializeZmqId wireMsg = .ok (ids, rest)) :
    rest ≠ [] ∧ (∀ id ∈ ids, id ≠ delimiter) ∧
      wireMsg = ids ++ delimiter :: rest := by
  cases wireMsg with
  | nil => simp [deserializeZmqId] at h
  | cons frame wireMsg =>
      simp only [deserializeZmqId, pop_cons, ok_bind] at h
      split at h
      · simp [throw, throwThe, MonadExceptOf.throw] at h
      · rename_i hlength
        have hloop : zmqIdLoop [] frame wireMsg = (ids, rest) := Except.ok.inj h
        rw [hloop] at hlength
        cases rest with
        | nil => simp at hlength
        | cons next rest =>
            obtain ⟨front, hids, hfront, hwire⟩ := zmqIdLoop_eq hloop
            obtain rfl : ids = front := by simpa using hids
            exact ⟨by simp, hfront, hwire⟩

structure BaseFrames where
  signature : Bytes
  header : Bytes
  parentHeader : Bytes
  metadata : Bytes
  content : Bytes
  buffers : List Bytes

def BaseFrames.toMultipart (frames : BaseFrames) : Multipart :=
  [frames.signature, frames.header, frames.parentHeader, frames.metadata,
    frames.content] ++ frames.buffers

theorem BaseFrames.toMultipart_cons (frames : BaseFrames) :
    frames.toMultipart = frames.signature :: frames.header :: frames.parentHeader ::
      frames.metadata :: frames.content :: frames.buffers := rfl

/-- The texts of the frames are those dumped for `data` and the signature is
the one computed over them. -/
structure Writes (json : JsonLibrary) (auth : XAuthentication)
    (errorHandler : ErrorHandler) (data : XMessageBaseData) (frames : BaseFrames) :
    Prop where
  signature : frames.signature =
    auth.sign frames.header frames.parentHeader frames.metadata frames.content
  header : json.dump errorHandler data.header = .ok frames.header
  parentHeader : json.dump errorHandler data.parentHeader = .ok frames.parentHeader
  metadata : json.dump errorHandler data.metadata = .ok frames.metadata
  content : json.dump errorHandler data.content = .ok frames.content
  buffers : frames.buffers = data.buffers

theorem serializeMessageBase_eq_ok {json : JsonLibrary} {auth : XAuthentication}
    {errorHandler : ErrorHandler} {data : XMessageBaseData} {front wireMsg : Multipart} :
    serializeMessageBase json auth errorHandler data front = .ok wireMsg ↔
      ∃ frames, Writes json auth errorHandler data frames ∧
        wireMsg = front ++ frames.toMultipart := by
  simp only [serializeMessageBase, writeZmqMessage, bind_eq_ok, liftJson_eq_ok]
  constructor
  · rintro ⟨header, hheader, parentHeader, hparent, metadata, hmetadata,
      content, hcontent, hwire⟩
    let signature := auth.sign header parentHeader metadata content
    refine ⟨⟨signature, header, parentHeader, metadata, content, data.buffers⟩,
      ⟨rfl, hheader, hparent, hmetadata, hcontent, rfl⟩, ?_⟩
    rw [← Except.ok.inj hwire, BaseFrames.toMultipart, List.append_assoc]
  · rintro ⟨frames, hwrites, rfl⟩
    refine ⟨_, hwrites.header, _, hwrites.parentHeader, _, hwrites.metadata,
      _, hwrites.content, ?_⟩
    rw [← hwrites.signature, ← hwrites.buffers, List.append_assoc]
    rfl

/-- The frames parse as the parts of `data` and their signature verifies. -/
structure Reads (json : JsonLibrary) (auth : XAuthentication) (frames : BaseFrames)
    (data : XMessageBaseData) : Prop where
  header : json.parse frames.header = .ok data.header
  parentHeader : json.parse frames.parentHeader = .ok data.parentHeader
  metadata : json.parse frames.metadata = .ok data.metadata
  content : json.parse frames.content = .ok data.content
  buffers : data.buffers = frames.buffers
  verify : auth.verify frames.signature frames.header frames.parentHeader
    frames.metadata frames.content = .ok true

theorem deserializeMessageBase_toMultipart {json : JsonLibrary} {auth : XAuthentication}
    {frames : BaseFrames} {data : XMessageBaseData} :
    deserializeMessageBase json auth frames.toMultipart = .ok data ↔
      Reads json auth frames data := by
  simp only [deserializeMessageBase, BaseFrames.toMultipart_cons, pop_cons, ok_bind,
    parseZmqMessage, bind_eq_ok, liftJson_eq_ok]
  constructor
  · rintro ⟨header, hheader, parentHeader, hparent, metadata, hmetadata,
      content, hcontent, verified, hverify, hreturn⟩
    split at hreturn
    · rename_i htrue
      obtain rfl := htrue
      obtain rfl := Except.ok.inj hreturn
      exact ⟨hheader, hparent, hmetadata, hcontent, rfl, hverify⟩
    · simp [throw, throwThe, MonadExceptOf.throw] at hreturn
  · rintro ⟨hheader, hparent, hmetadata, hcontent, hbuffers, hverify⟩
    refine ⟨_, hheader, _, hparent, _, hmetadata, _, hcontent, true, hverify, ?_⟩
    rw [if_pos rfl, ← hbuffers]
    rfl

theorem deserializeMessageBase_eq_ok {json : JsonLibrary} {auth : XAuthentication}
    {wireMsg : Multipart} {data : XMessageBaseData}
    (h : deserializeMessageBase json auth wireMsg = .ok data) :
    ∃ frames : BaseFrames, wireMsg = frames.toMultipart ∧ Reads json auth frames data := by
  match wireMsg with
  | [] | [_] | [_, _] | [_, _, _] | [_, _, _, _] =>
      simp [deserializeMessageBase] at h
  | signature :: header :: parentHeader :: metadata :: content :: buffers =>
      let frames : BaseFrames :=
        ⟨signature, header, parentHeader, metadata, content, buffers⟩
      exact ⟨frames, rfl, deserializeMessageBase_toMultipart.mp h⟩

end XeusZmq.Serializer
