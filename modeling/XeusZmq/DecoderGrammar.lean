import XeusZmq.MissingFrames

/-!
Which messages the decoders accept. The identities of a shell message end at the first
delimiter; the topic of an iopub message is followed by a frame that is not looked at.
-/

namespace XeusZmq.DecoderGrammar

open XeusZmq.Values
open XeusZmq.Authentication
open XeusZmq.Serializer
open XeusZmq.WireRoundTrip
open XeusZmq.MissingFrames

/-! The identities. -/

/-- The loop of `deserialize_zmq_id` with its two conditions and its `pop`, for at most
`fuel` tests of the conditions. -/
def zmqIdWhile : Nat → List Bytes → Bytes → Multipart → Option (Result (List Bytes × Multipart))
  | 0, _, _, _ => none
  | fuel + 1, zmqId, frame, wireMsg =>
      if !isDelimiter frame && wireMsg.length != 0 then
        match pop wireMsg with
        | .ok (next, rest) => zmqIdWhile fuel (zmqId ++ [frame]) next rest
        | .error f => some (.error f)
      else some (.ok (zmqId, wireMsg))

theorem zmqIdWhile_eq {fuel : Nat} {wireMsg : Multipart} (hfuel : wireMsg.length < fuel)
    (zmqId : List Bytes) (frame : Bytes) :
    zmqIdWhile fuel zmqId frame wireMsg = some (.ok (zmqIdLoop zmqId frame wireMsg)) := by
  induction wireMsg generalizing fuel zmqId frame with
  | nil =>
      obtain ⟨fuel, rfl⟩ := Nat.exists_eq_succ_of_ne_zero (Nat.ne_of_gt hfuel)
      simp [zmqIdWhile, zmqIdLoop]
  | cons next rest ih =>
      obtain ⟨fuel, rfl⟩ := Nat.exists_eq_succ_of_ne_zero (Nat.ne_zero_of_lt hfuel)
      have hrest : rest.length < fuel := Nat.lt_of_succ_lt_succ hfuel
      rw [zmqIdWhile, zmqIdLoop]
      cases hframe : isDelimiter frame with
      | true => simp
      | false => simpa using ih hrest (zmqId ++ [frame]) next

/-- The identities, a delimiter behind them, and something behind that. -/
def Splits (wireMsg : Multipart) (ids : List Bytes) (rest : Multipart) : Prop :=
  wireMsg = ids ++ delimiter :: rest ∧ (∀ id ∈ ids, id ≠ delimiter) ∧ rest ≠ []

/-- What is accepted is what splits, everything else is refused in the same words, and the
loop ends after at most one test for each frame, without a `pop` that finds none. -/
structure ParsesIdentities (frame : Bytes) (wireMsg : Multipart) : Prop where
  accepts : ∀ ids rest, deserializeZmqId (frame :: wireMsg) = .ok (ids, rest) ↔
    Splits (frame :: wireMsg) ids rest
  refuses : delimiter ∉ (frame :: wireMsg).dropLast ↔
    deserializeZmqId (frame :: wireMsg) =
      .error (.exception (.runtimeError "ERROR: Delimiter not present in message"))
  splitsOrRefused : (∃ ids rest, Splits (frame :: wireMsg) ids rest) ∨
    delimiter ∉ (frame :: wireMsg).dropLast
  terminates : ∀ fuel, wireMsg.length < fuel →
    zmqIdWhile fuel [] frame wireMsg = some (.ok (zmqIdLoop [] frame wireMsg))

theorem splits_of_mem {wireMsg : Multipart} (h : delimiter ∈ wireMsg.dropLast) :
    ∃ ids rest, Splits wireMsg ids rest := by
  obtain ⟨ids, front, hfront, hids⟩ := List.eq_append_cons_of_mem h
  have hne : wireMsg ≠ [] := by
    rintro rfl
    simp at h
  refine ⟨ids, front ++ [wireMsg.getLast hne], ?_, ?_, by simp⟩
  · rw [← List.cons_append, ← List.append_assoc, ← hfront, List.dropLast_append_getLast]
  · rintro id hid rfl
    exact hids hid

theorem mem_dropLast_of_splits {wireMsg : Multipart} {ids : List Bytes} {rest : Multipart}
    (h : Splits wireMsg ids rest) : delimiter ∈ wireMsg.dropLast := by
  obtain ⟨rfl, -, hrest⟩ := h
  rw [List.dropLast_append_of_ne_nil (by simp), List.dropLast_cons_of_ne_nil hrest]
  simp

theorem deserializeZmqId_eq_ok_iff_splits {wireMsg : Multipart} {ids : List Bytes}
    {rest : Multipart} :
    deserializeZmqId wireMsg = .ok (ids, rest) ↔ Splits wireMsg ids rest := by
  rw [deserializeZmqId_eq_ok_iff]
  exact ⟨fun ⟨hrest, hids, heq⟩ => ⟨heq, hids, hrest⟩, fun ⟨heq, hids, hrest⟩ => ⟨hrest, hids, heq⟩⟩

theorem deserializeZmqId_cons (frame : Bytes) (wireMsg : Multipart) :
    (∃ ids rest, deserializeZmqId (frame :: wireMsg) = .ok (ids, rest)) ∨
      deserializeZmqId (frame :: wireMsg) =
        .error (.exception (.runtimeError "ERROR: Delimiter not present in message")) := by
  rw [deserializeZmqId, pop_cons, ok_bind]
  simp only
  split
  · exact .inr rfl
  · exact .inl ⟨_, _, rfl⟩

theorem parsesIdentities (frame : Bytes) (wireMsg : Multipart) :
    ParsesIdentities frame wireMsg := by
  have hrefused : delimiter ∉ (frame :: wireMsg).dropLast ↔
      deserializeZmqId (frame :: wireMsg) =
        .error (.exception (.runtimeError "ERROR: Delimiter not present in message")) := by
    constructor
    · intro hmem
      rcases deserializeZmqId_cons frame wireMsg with ⟨ids, rest, hok⟩ | herror
      · have hsplits := deserializeZmqId_eq_ok_iff_splits.mp hok
        exact absurd (mem_dropLast_of_splits hsplits) hmem
      · exact herror
    · intro herror hmem
      obtain ⟨ids, rest, hsplits⟩ := splits_of_mem hmem
      rw [deserializeZmqId_eq_ok_iff_splits.mpr hsplits] at herror
      cases herror
  refine ⟨fun ids rest => deserializeZmqId_eq_ok_iff_splits, hrefused, ?_, ?_⟩
  · exact (Classical.em _).imp_left splits_of_mem
  · exact fun fuel hfuel => zmqIdWhile_eq hfuel [] frame

/-- Every list of frames is parsed by its grammar, and the decoder undoes the encoder,
whatever follows. -/
theorem identityGrammar (frame : Bytes) (wireMsg : Multipart) :
    ParsesIdentities frame wireMsg ∧
      ∀ ids rest, (∀ id ∈ ids, id ≠ delimiter) → rest ≠ [] →
        deserializeZmqId (serializeZmqId ids [] ++ rest) = .ok (ids, rest) := by
  refine ⟨parsesIdentities frame wireMsg, fun ids rest hids hrest => ?_⟩
  rw [deserializeZmqId_eq_ok_iff_splits]
  exact ⟨by simp [serializeZmqId], hids, hrest⟩

/-! The topic. -/

section Topic

variable {json : JsonLibrary} {auth : XAuthentication} {frames : BaseFrames}

def verdict (auth : XAuthentication) (frames : BaseFrames) : Result Bool :=
  auth.verify frames.signature frames.header frames.parentHeader frames.metadata frames.content

theorem deserializeMessageBase_of_partsParse (h : PartsParse json frames) :
    ∃ data : XMessageBaseData, data.buffers = frames.buffers ∧
      deserializeMessageBase json auth frames.toMultipart =
        verdict auth frames >>= fun verified =>
          if verified then .ok data
          else .error (.exception (.runtimeError "ERROR: Signatures don't match")) := by
  obtain ⟨⟨header, hheader⟩, ⟨parentHeader, hparent⟩, ⟨metadata, hmetadata⟩, content, hcontent⟩ := h
  refine ⟨⟨header, parentHeader, metadata, content, frames.buffers⟩, rfl, ?_⟩
  rw [BaseFrames.toMultipart_cons]
  simp only [deserializeMessageBase, pop_cons, ok_bind, parseZmqMessage, hheader, hparent,
    hmetadata, hcontent, liftJson_ok]
  rfl

theorem deserializeMessageBase_of_not_partsParse (h : ¬ PartsParse json frames) :
    ∃ e, deserializeMessageBase json auth frames.toMultipart = .error (.exception e) := by
  rw [BaseFrames.toMultipart_cons]
  simp only [deserializeMessageBase, pop_cons, ok_bind, parseZmqMessage]
  rcases hheader : json.parse frames.header with e | header
  · exact ⟨.json e, rfl⟩
  rcases hparent : json.parse frames.parentHeader with e | parentHeader
  · exact ⟨.json e, rfl⟩
  rcases hmetadata : json.parse frames.metadata with e | metadata
  · exact ⟨.json e, rfl⟩
  rcases hcontent : json.parse frames.content with e | content
  · exact ⟨.json e, rfl⟩
  exact absurd ⟨⟨_, hheader⟩, ⟨_, hparent⟩, ⟨_, hmetadata⟩, _, hcontent⟩ h

theorem deserializeIopub_cons (topic second : Bytes) :
    deserializeIopub json auth (topic :: second :: frames.toMultipart) =
      deserializeMessageBase json auth frames.toMultipart >>= fun data => .ok { topic, data } :=
  rfl

/-- What is accepted is what the encoder can have written, up to the texts of the parts. -/
structure AcceptsOwnFormat (json : JsonLibrary) (auth : XAuthentication) (topic second : Bytes)
    (frames : BaseFrames) : Prop where
  accepts :
    (∃ msg, deserializeIopub json auth (topic :: second :: frames.toMultipart) = .ok msg) ↔
      second = delimiter ∧ PartsParse json frames ∧ verdict auth frames = .ok true
  returns : ∀ msg,
    deserializeIopub json auth (topic :: second :: frames.toMultipart) = .ok msg →
      msg.topic = topic ∧ msg.data.buffers = frames.buffers
  refuses : second ≠ delimiter → ∃ e,
    deserializeIopub json auth (topic :: second :: frames.toMultipart) = .error (.exception e)

/-- The frames behind the second are refused for themselves. -/
def Refused (json : JsonLibrary) (auth : XAuthentication) (frames : BaseFrames) : Prop :=
  PartsParse json frames →
    verdict auth frames = .ok false ∨ ∃ e, verdict auth frames = .error (.exception e)

theorem deserializeIopub_of_refused (h : Refused json auth frames) (topic second : Bytes) :
    ∃ e, deserializeIopub json auth (topic :: second :: frames.toMultipart) =
      .error (.exception e) := by
  rw [deserializeIopub_cons]
  by_cases hparts : PartsParse json frames
  · obtain ⟨data, -, hbase⟩ := @deserializeMessageBase_of_partsParse json auth frames hparts
    rw [hbase]
    rcases h hparts with hfalse | ⟨e, herror⟩
    · rw [hfalse]
      exact ⟨_, rfl⟩
    · rw [herror]
      exact ⟨e, rfl⟩
  · obtain ⟨e, hbase⟩ := @deserializeMessageBase_of_not_partsParse json auth frames hparts
    rw [hbase]
    exact ⟨e, rfl⟩

/-- The second frame alone decides nothing. -/
theorem deserializeIopub_accepts_iff (topic second : Bytes) :
    (∃ msg, deserializeIopub json auth (topic :: second :: frames.toMultipart) = .ok msg) ↔
      PartsParse json frames ∧ verdict auth frames = .ok true := by
  rw [deserializeIopub_cons]
  by_cases hparts : PartsParse json frames
  · obtain ⟨data, -, hbase⟩ := @deserializeMessageBase_of_partsParse json auth frames hparts
    rw [hbase]
    rcases verdict auth frames with f | verified
    · simp
    · cases verified <;> simp [hparts]
  · obtain ⟨e, hbase⟩ := @deserializeMessageBase_of_not_partsParse json auth frames hparts
    rw [hbase]
    simp [hparts]

theorem refused_of_error {topic second : Bytes} {e : Exception}
    (h : deserializeIopub json auth (topic :: second :: frames.toMultipart) =
      .error (.exception e)) : Refused json auth frames := by
  intro hparts
  obtain ⟨data, -, hbase⟩ := @deserializeMessageBase_of_partsParse json auth frames hparts
  rw [deserializeIopub_cons, hbase] at h
  cases hverdict : verdict auth frames with
  | ok verified =>
      cases verified with
      | true =>
          rw [hverdict] at h
          cases h
      | false => exact .inl rfl
  | error f =>
      rw [hverdict] at h
      cases h
      exact .inr ⟨e, rfl⟩

theorem acceptsOwnFormat_iff (json : JsonLibrary) (auth : XAuthentication)
    (topic second : Bytes) (frames : BaseFrames) :
    AcceptsOwnFormat json auth topic second frames ↔
      second = delimiter ∨ Refused json auth frames := by
  constructor
  · intro h
    by_cases hsecond : second = delimiter
    · exact .inl hsecond
    · obtain ⟨e, herror⟩ := h.refuses hsecond
      exact .inr (refused_of_error herror)
  · intro h
    have hreturns : ∀ msg,
        deserializeIopub json auth (topic :: second :: frames.toMultipart) = .ok msg →
          msg.topic = topic ∧ msg.data.buffers = frames.buffers := by
      intro msg hmsg
      obtain ⟨second', frames', hwire, hreads⟩ := deserializeIopub_eq_ok hmsg
      obtain ⟨htopic, hrest⟩ := List.cons.inj hwire
      have hframes := (List.cons.inj hrest).2
      rw [BaseFrames.toMultipart_cons, BaseFrames.toMultipart_cons] at hframes
      simp only [List.cons.injEq] at hframes
      exact ⟨htopic.symm, hreads.buffers.trans hframes.2.2.2.2.2.symm⟩
    rcases h with rfl | hrefused
    · refine ⟨?_, hreturns, fun hne => absurd rfl hne⟩
      rw [deserializeIopub_accepts_iff, eq_self, true_and]
    · refine ⟨iff_of_false ?_ ?_, hreturns, ?_⟩
      · rintro ⟨msg, hmsg⟩
        obtain ⟨e, herror⟩ := deserializeIopub_of_refused hrefused topic second
        rw [hmsg] at herror
        cases herror
      · rintro ⟨-, hparts, htrue⟩
        rcases hrefused hparts with hfalse | ⟨e, herror⟩
        · rw [htrue] at hfalse
          cases hfalse
        · rw [htrue] at herror
          cases herror
      · exact fun _ => deserializeIopub_of_refused hrefused topic second

end Topic

/-- Under the scheme `none` a message is accepted whose delimiter is missing: the frame
that stands there is not looked at. -/
theorem not_acceptsOwnFormat_shifted :
    ¬ AcceptsOwnFormat emptyObjectLibrary noXAuthentication (literal "topic") (literal "other")
      ⟨[], literal "{}", literal "{}", literal "{}", literal "{}", []⟩ := by
  intro h
  have hparse : ∃ part, emptyObjectLibrary.parse (literal "{}") = .ok part := ⟨.object [], rfl⟩
  have hsecond := (h.accepts.mp ((deserializeIopub_accepts_iff _ _).mpr
    ⟨⟨hparse, hparse, hparse, hparse⟩, rfl⟩)).1
  exact absurd hsecond (by decide)

end XeusZmq.DecoderGrammar
