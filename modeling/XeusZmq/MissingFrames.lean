import XeusZmq.FlatJson
import XeusZmq.Handshake

/-!
Which multipart messages make a decoder pop a frame that is not there.
-/

namespace XeusZmq.MissingFrames

open XeusZmq.Values
open XeusZmq.Authentication
open XeusZmq.Serializer
open XeusZmq.WireRoundTrip
open XeusZmq.FlatJson
open XeusZmq.Handshake

/-- The call does not end in one of the steps `bad` that are left undefined. -/
def Avoids {α : Type} (bad : Undefined → Prop) (result : Result α) : Prop :=
  ∀ u, bad u → result ≠ .error (.undefined u)

def NeverPopsEmpty {α : Type} (result : Result α) : Prop :=
  Avoids (· = .popEmpty) result

def ReturnsOrThrows {α : Type} (result : Result α) : Prop :=
  (∃ a, result = .ok a) ∨ ∃ e, result = .error (.exception e)

theorem returnsOrThrows_iff {α : Type} {result : Result α} :
    ReturnsOrThrows result ↔ Avoids (fun _ => True) result := by
  unfold ReturnsOrThrows Avoids
  match result with
  | .ok a => simp
  | .error (.exception e) => simp
  | .error (.undefined u) => simp

@[simp] theorem avoids_ok {α : Type} (bad : Undefined → Prop) (a : α) :
    Avoids bad (.ok a : Result α) := by
  intro u _
  simp

@[simp] theorem avoids_exception {α : Type} (bad : Undefined → Prop) (e : Exception) :
    Avoids bad (.error (.exception e) : Result α) := by
  intro u _
  simp

@[simp] theorem avoids_undefined {α : Type} (bad : Undefined → Prop) (u : Undefined) :
    Avoids bad (.error (.undefined u) : Result α) ↔ ¬ bad u := by
  constructor
  · intro havoids hbad
    exact havoids u hbad rfl
  · rintro hgood v hbad hsame
    obtain rfl : u = v := by simpa using hsame
    exact hgood hbad

/-- The last step of a decoder that checks a signature. -/
@[simp] theorem avoids_verdict {α : Type} (bad : Undefined → Prop) (accepted : Bool) (a : α)
    (e : Exception) :
    Avoids bad (if accepted = true then pure a else throw (.exception e) : Result α) := by
  cases accepted
  · exact avoids_exception bad e
  · exact avoids_ok bad a

theorem avoids_bind {α β : Type} {bad : Undefined → Prop} {x : Result α}
    {f : α → Result β} :
    Avoids bad (x >>= f) ↔ Avoids bad x ∧ ∀ a, x = .ok a → Avoids bad (f a) := by
  cases x with
  | ok a => simp
  | error failure => simp [Avoids]

@[simp] theorem avoids_liftJson {α : Type} (bad : Undefined → Prop)
    (x : Except JsonException α) : Avoids bad (liftJson x) := by
  cases x <;> simp

@[simp] theorem avoids_lift {α : Type} (bad : Undefined → Prop) (x : Except Exception α) :
    Avoids bad (lift x) := by
  cases x <;> simp [lift]

theorem avoids_pop {bad : Undefined → Prop} {wireMsg : Multipart} :
    Avoids bad (pop wireMsg) ↔ (bad .popEmpty → wireMsg ≠ []) := by
  cases wireMsg <;> simp

theorem avoids_compareSignature {bad : Undefined → Prop} {hexSig signature : Bytes} :
    Avoids bad (compareSignature hexSig signature) ↔
      (bad .outOfBoundsRead → hexSig.length ≤ signature.length) := by
  rw [compareSignature_eq]
  split
  · rename_i hshort
    rw [avoids_undefined]
    exact imp_congr_right fun _ => (iff_false_intro (Nat.not_le.mpr hshort)).symm
  · rename_i hlong
    simp [Nat.not_lt.mp hlong]

theorem avoids_verify {ssl : OpenSsl} {hexString : Bytes → Bytes} {scheme key : Bytes}
    {auth : XAuthentication} (hauth : makeXAuthentication ssl hexString scheme key = .ok auth)
    {bad : Undefined → Prop} {signature header parentHeader metadata content : Bytes} :
    Avoids bad (auth.verify signature header parentHeader metadata content) ↔
      (bad .outOfBoundsRead →
        (auth.sign header parentHeader metadata content).length ≤ signature.length) := by
  rcases makeXAuthentication_cases hauth with ⟨rfl, -⟩ | ⟨self, -, -, rfl⟩
  · simp [noXAuthentication]
  · exact avoids_compareSignature

theorem avoids_verifyContent {ssl : OpenSsl} {hexString : Bytes → Bytes}
    {scheme key : Bytes} {auth : XAuthentication}
    (hauth : makeXAuthentication ssl hexString scheme key = .ok auth)
    {bad : Undefined → Prop} {signature content : Bytes} :
    Avoids bad (auth.verifyContent signature content) ↔
      (bad .outOfBoundsRead → (auth.signContent content).length ≤ signature.length) := by
  rcases makeXAuthentication_cases hauth with ⟨rfl, -⟩ | ⟨self, -, -, rfl⟩
  · simp [noXAuthentication]
  · exact avoids_compareSignature

theorem deserializeZmqId_eq_ok_iff {wireMsg : Multipart} {ids : List Bytes}
    {rest : Multipart} :
    deserializeZmqId wireMsg = .ok (ids, rest) ↔
      rest ≠ [] ∧ (∀ id ∈ ids, id ≠ delimiter) ∧ wireMsg = ids ++ delimiter :: rest := by
  constructor
  · exact deserializeZmqId_eq_ok
  · rintro ⟨hrest, hids, rfl⟩
    obtain ⟨next, rest, rfl⟩ := List.exists_cons_of_ne_nil hrest
    exact deserializeZmqId_delimiter hids next rest

theorem avoids_deserializeZmqId {bad : Undefined → Prop} {wireMsg : Multipart} :
    Avoids bad (deserializeZmqId wireMsg) ↔ (bad .popEmpty → wireMsg ≠ []) := by
  rw [deserializeZmqId, avoids_bind, avoids_pop, and_iff_left]
  intro popped _
  simp only
  split <;> simp [throw, throwThe, MonadExceptOf.throw, pure, Except.pure]

/-- The message is not empty, and unless the search for the delimiter fails at
least `count` frames follow it. The search fails when no frame but the last one
is a delimiter. -/
def HasBehindDelimiter (count : Nat) (wireMsg : Multipart) : Prop :=
  wireMsg ≠ [] ∧ ∀ ids rest, (∀ id ∈ ids, id ≠ delimiter) →
    wireMsg = ids ++ delimiter :: rest → rest ≠ [] → count ≤ rest.length

theorem hasBehindDelimiter_iff {count : Nat} {wireMsg : Multipart} :
    HasBehindDelimiter count wireMsg ↔
      wireMsg ≠ [] ∧ ∀ ids rest, deserializeZmqId wireMsg = .ok (ids, rest) →
        count ≤ rest.length := by
  simp only [HasBehindDelimiter, deserializeZmqId_eq_ok_iff]
  constructor
  · rintro ⟨hwire, hcount⟩
    exact ⟨hwire, fun ids rest ⟨hrest, hids, heq⟩ => hcount ids rest hids heq hrest⟩
  · rintro ⟨hwire, hcount⟩
    exact ⟨hwire, fun ids rest hids heq hrest => hcount ids rest ⟨hrest, hids, heq⟩⟩

/-- A decoder that reads what follows the identities. -/
theorem avoids_deserializeZmqId_bind {α : Type} {bad : Undefined → Prop} {count : Nat}
    {decode : List Bytes × Multipart → Result α} {readable : Multipart → Prop}
    (hdecode : ∀ ids rest, Avoids bad (decode (ids, rest)) ↔
      (bad .popEmpty → count ≤ rest.length) ∧ (bad .outOfBoundsRead → readable rest))
    (wireMsg : Multipart) :
    Avoids bad (deserializeZmqId wireMsg >>= decode) ↔
      (bad .popEmpty → HasBehindDelimiter count wireMsg) ∧
        (bad .outOfBoundsRead → ∀ ids rest,
          deserializeZmqId wireMsg = .ok (ids, rest) → readable rest) := by
  rw [avoids_bind, avoids_deserializeZmqId, hasBehindDelimiter_iff]
  constructor
  · rintro ⟨hwire, hrest⟩
    constructor
    · intro hbad
      refine ⟨hwire hbad, ?_⟩
      intro ids rest hids
      exact ((hdecode ids rest).mp (hrest _ hids)).1 hbad
    · intro hbad ids rest hids
      exact ((hdecode ids rest).mp (hrest _ hids)).2 hbad
  · rintro ⟨hcount, hreadable⟩
    refine ⟨fun hbad => (hcount hbad).1, ?_⟩
    rintro ⟨ids, rest⟩ hids
    rw [hdecode]
    exact ⟨fun hbad => (hcount hbad).2 ids rest hids,
      fun hbad => hreadable hbad ids rest hids⟩

def PartsParse (json : JsonLibrary) (frames : BaseFrames) : Prop :=
  (∃ part, json.parse frames.header = .ok part) ∧
  (∃ part, json.parse frames.parentHeader = .ok part) ∧
  (∃ part, json.parse frames.metadata = .ok part) ∧
  ∃ part, json.parse frames.content = .ok part

/-- The signature frame, when it is compared, is as long as the code. -/
def SignatureReadable (json : JsonLibrary) (auth : XAuthentication)
    (wireMsg : Multipart) : Prop :=
  ∀ frames : BaseFrames, wireMsg = frames.toMultipart → PartsParse json frames →
    (auth.sign frames.header frames.parentHeader frames.metadata frames.content).length ≤
      frames.signature.length

theorem signatureReadable_of_length {json : JsonLibrary} {auth : XAuthentication}
    {wireMsg : Multipart} (hlength : wireMsg.length < 5) :
    SignatureReadable json auth wireMsg := by
  rintro frames rfl
  simp only [BaseFrames.toMultipart_cons, List.length_cons] at hlength
  omega

theorem avoids_deserializeMessageBase {ssl : OpenSsl} {hexString : Bytes → Bytes}
    {scheme key : Bytes} {auth : XAuthentication}
    (hauth : makeXAuthentication ssl hexString scheme key = .ok auth) (json : JsonLibrary)
    {bad : Undefined → Prop} (wireMsg : Multipart) :
    Avoids bad (deserializeMessageBase json auth wireMsg) ↔
      (bad .popEmpty → 5 ≤ wireMsg.length) ∧
        (bad .outOfBoundsRead → SignatureReadable json auth wireMsg) := by
  match wireMsg with
  | [] | [_] | [_, _] | [_, _, _] | [_, _, _, _] =>
      have hreadable (frames : Multipart) (hlength : frames.length < 5) :
          SignatureReadable json auth frames := signatureReadable_of_length hlength
      simp [deserializeMessageBase, hreadable]
  | signature :: header :: parentHeader :: metadata :: content :: buffers =>
      simp only [deserializeMessageBase, pop_cons, ok_bind, avoids_bind, parseZmqMessage,
        avoids_liftJson, true_and, liftJson_eq_ok, avoids_verify hauth, avoids_verdict,
        implies_true, and_true]
      constructor
      · intro hcompared
        refine ⟨fun _ => by simp, ?_⟩
        rintro hbad frames hframes ⟨⟨_, hheader⟩, ⟨_, hparent⟩, ⟨_, hmetadata⟩, ⟨_, hcontent⟩⟩
        rw [BaseFrames.toMultipart_cons] at hframes
        obtain ⟨rfl, rfl, rfl, rfl, rfl, -⟩ := by simpa only [List.cons.injEq] using hframes
        exact hcompared _ hheader _ hparent _ hmetadata _ hcontent hbad
      · rintro ⟨-, hreadable⟩ _ hheader _ hparent _ hmetadata _ hcontent hbad
        let frames : BaseFrames :=
          ⟨signature, header, parentHeader, metadata, content, buffers⟩
        exact hreadable hbad frames rfl
          ⟨⟨_, hheader⟩, ⟨_, hparent⟩, ⟨_, hmetadata⟩, ⟨_, hcontent⟩⟩

theorem avoids_deserialize {ssl : OpenSsl} {hexString : Bytes → Bytes}
    {scheme key : Bytes} {auth : XAuthentication}
    (hauth : makeXAuthentication ssl hexString scheme key = .ok auth) (json : JsonLibrary)
    {bad : Undefined → Prop} (wireMsg : Multipart) :
    Avoids bad (deserialize json auth wireMsg) ↔
      (bad .popEmpty → HasBehindDelimiter 5 wireMsg) ∧
        (bad .outOfBoundsRead → ∀ ids rest, deserializeZmqId wireMsg = .ok (ids, rest) →
          SignatureReadable json auth rest) := by
  apply avoids_deserializeZmqId_bind
  intro ids rest
  simp only [avoids_bind, avoids_deserializeMessageBase hauth, pure, Except.pure, avoids_ok,
    implies_true, and_true]

theorem avoids_deserializeIopub {ssl : OpenSsl} {hexString : Bytes → Bytes}
    {scheme key : Bytes} {auth : XAuthentication}
    (hauth : makeXAuthentication ssl hexString scheme key = .ok auth) (json : JsonLibrary)
    {bad : Undefined → Prop} (wireMsg : Multipart) :
    Avoids bad (deserializeIopub json auth wireMsg) ↔
      (bad .popEmpty → 7 ≤ wireMsg.length) ∧
        (bad .outOfBoundsRead → SignatureReadable json auth (wireMsg.drop 2)) := by
  match wireMsg with
  | [] | [_] =>
      have hreadable : SignatureReadable json auth [] :=
        signatureReadable_of_length (by decide)
      simp [deserializeIopub, deserializeTopic, hreadable]
  | topic :: second :: rest =>
      have htopic : deserializeTopic (topic :: second :: rest) = .ok (topic, rest) := rfl
      simp only [deserializeIopub, htopic, ok_bind, avoids_bind,
        avoids_deserializeMessageBase hauth, pure, Except.pure, avoids_ok, implies_true,
        and_true, List.length_cons, List.drop_succ_cons, List.drop_zero]
      rw [show 7 ≤ rest.length + 1 + 1 ↔ 5 ≤ rest.length by omega]

theorem avoids_answerRegistration (json : JsonLibrary) (ssl : OpenSsl)
    (hexString : Bytes → Bytes) (fresh : XKernelConfiguration) (key : Bytes)
    (routingIds : List Bytes) {bad : Undefined → Prop} (wireMsg : Multipart) :
    Avoids bad (answerRegistration json ssl hexString fresh key routingIds wireMsg) ↔
      (bad .popEmpty → 2 ≤ wireMsg.length) := by
  match wireMsg with
  | [] | [_] => simp [answerRegistration]
  | signature :: content :: rest =>
      simp [answerRegistration, acknowledgement, avoids_bind, -bind_pure_comp,
        pure, Except.pure]

theorem avoids_waitForConfiguration (json : JsonLibrary) (ssl : OpenSsl)
    (hexString : Bytes → Bytes) (fresh : XKernelConfiguration) (key : Bytes)
    {bad : Undefined → Prop} (received : Option Multipart) :
    Avoids bad (waitForConfiguration json ssl hexString fresh key received) ↔
      ∀ wireMsg, received = some wireMsg → bad .popEmpty → HasBehindDelimiter 2 wireMsg := by
  cases received with
  | none => simp [waitForConfiguration, throw, throwThe, MonadExceptOf.throw]
  | some wireMsg =>
      have hdecode :
          Avoids bad (waitForConfiguration json ssl hexString fresh key (some wireMsg)) ↔
            (bad .popEmpty → HasBehindDelimiter 2 wireMsg) ∧
              (bad .outOfBoundsRead → ∀ ids rest,
                deserializeZmqId wireMsg = .ok (ids, rest) → True) := by
        apply avoids_deserializeZmqId_bind
        intro ids rest
        rw [implies_true, and_true]
        exact avoids_answerRegistration json ssl hexString fresh key ids rest
      simpa using hdecode

def ReplyReadable (auth : XAuthentication) (rep : Multipart) : Prop :=
  ∀ signature content rest, rep = signature :: content :: rest →
    (auth.signContent content).length ≤ signature.length

theorem avoids_checkReply {ssl : OpenSsl} {hexString : Bytes → Bytes}
    {scheme key : Bytes} {auth : XAuthentication}
    (hauth : makeXAuthentication ssl hexString scheme key = .ok auth)
    {bad : Undefined → Prop} (rep : Multipart) :
    Avoids bad (checkReply auth rep) ↔
      (bad .popEmpty → HasBehindDelimiter 2 rep) ∧
        (bad .outOfBoundsRead → ∀ ids rest, deserializeZmqId rep = .ok (ids, rest) →
          ReplyReadable auth rest) := by
  apply avoids_deserializeZmqId_bind
  intro ids rest
  match rest with
  | [] | [_] => simp [ReplyReadable]
  | signature :: content :: rest =>
      simp only [pop_cons, ok_bind, avoids_bind, avoids_verifyContent hauth, avoids_verdict,
        implies_true, and_true]
      constructor
      · intro hcompared
        refine ⟨fun _ => by simp, ?_⟩
        rintro hbad _ _ _ ⟨⟩
        exact hcompared hbad
      · rintro ⟨-, hreadable⟩ hbad
        exact hreadable hbad _ _ _ rfl

theorem avoids_sendConnectionInfo {ssl : OpenSsl} {hexString : Bytes → Bytes}
    {scheme key : Bytes} {auth : XAuthentication}
    (hauth : makeXAuthentication ssl hexString scheme key = .ok auth) (json : JsonLibrary)
    (errorHandler : ErrorHandler) (regisConfig : XRegistrationConfiguration)
    (kernelConfig : XKernelConfiguration) (exchange : Multipart → Multipart)
    {bad : Undefined → Prop} :
    Avoids bad (sendConnectionInfo json auth errorHandler regisConfig kernelConfig exchange) ↔
      ∀ wireMsg,
        connectionInfoMessage json auth errorHandler regisConfig kernelConfig = .ok wireMsg →
        (bad .popEmpty → HasBehindDelimiter 2 (exchange wireMsg)) ∧
          (bad .outOfBoundsRead → ∀ ids rest,
            deserializeZmqId (exchange wireMsg) = .ok (ids, rest) →
            ReplyReadable auth rest) := by
  have hmessage : Avoids bad
      (connectionInfoMessage json auth errorHandler regisConfig kernelConfig) := by
    simp [connectionInfoMessage, avoids_bind, -bind_pure_comp, pure, Except.pure]
  rw [sendConnectionInfo, avoids_bind, and_iff_right hmessage]
  simp only [avoids_checkReply hauth]

/-- `enough` decides whether a frame that is missing is popped, and together
with `readable` whether the call returns or throws. -/
structure DecodesWhen {α : Type} (result : Result α) (enough readable : Prop) : Prop where
  neverPopsEmpty_iff : NeverPopsEmpty result ↔ enough
  returnsOrThrows_iff : ReturnsOrThrows result ↔ enough ∧ readable

theorem decodesWhen_of_avoids {α : Type} {result : Result α} {enough readable : Prop}
    (havoids : ∀ bad : Undefined → Prop, Avoids bad result ↔
      (bad .popEmpty → enough) ∧ (bad .outOfBoundsRead → readable)) :
    DecodesWhen result enough readable := by
  constructor
  · rw [NeverPopsEmpty]
    simpa using havoids (· = .popEmpty)
  · simpa [returnsOrThrows_iff] using havoids fun _ => True

/-- For each of the four decoders, the messages on which it pops only frames
that are there, and those on which it returns or throws. -/
theorem decodesWhen (ssl : OpenSsl) (hexString : Bytes → Bytes) (scheme key : Bytes)
    (auth : XAuthentication) (hauth : makeXAuthentication ssl hexString scheme key = .ok auth)
    (json : JsonLibrary) (errorHandler : ErrorHandler) (fresh : XKernelConfiguration)
    (regisConfig : XRegistrationConfiguration) (kernelConfig : XKernelConfiguration) :
    (∀ wireMsg, DecodesWhen (deserialize json auth wireMsg)
      (HasBehindDelimiter 5 wireMsg)
      (∀ ids rest, deserializeZmqId wireMsg = .ok (ids, rest) →
        SignatureReadable json auth rest)) ∧
    (∀ wireMsg, DecodesWhen (deserializeIopub json auth wireMsg)
      (7 ≤ wireMsg.length)
      (SignatureReadable json auth (wireMsg.drop 2))) ∧
    (∀ received, DecodesWhen (waitForConfiguration json ssl hexString fresh key received)
      (∀ wireMsg, received = some wireMsg → HasBehindDelimiter 2 wireMsg)
      True) ∧
    ∀ exchange, DecodesWhen
      (sendConnectionInfo json auth errorHandler regisConfig kernelConfig exchange)
      (∀ wireMsg,
        connectionInfoMessage json auth errorHandler regisConfig kernelConfig = .ok wireMsg →
        HasBehindDelimiter 2 (exchange wireMsg))
      (∀ wireMsg,
        connectionInfoMessage json auth errorHandler regisConfig kernelConfig = .ok wireMsg →
        ∀ ids rest, deserializeZmqId (exchange wireMsg) = .ok (ids, rest) →
          ReplyReadable auth rest) := by
  refine ⟨?_, ?_, ?_, ?_⟩
  · intro wireMsg
    exact decodesWhen_of_avoids fun bad => avoids_deserialize hauth json wireMsg
  · intro wireMsg
    exact decodesWhen_of_avoids fun bad => avoids_deserializeIopub hauth json wireMsg
  · intro received
    apply decodesWhen_of_avoids
    intro bad
    rw [avoids_waitForConfiguration, implies_true, and_true]
    exact ⟨fun h hbad wireMsg hreceived => h wireMsg hreceived hbad,
      fun h wireMsg hreceived hbad => h hbad wireMsg hreceived⟩
  · intro exchange
    apply decodesWhen_of_avoids
    intro bad
    rw [avoids_sendConnectionInfo hauth]
    constructor
    · intro h
      exact ⟨fun hbad wireMsg hmessage => (h wireMsg hmessage).1 hbad,
        fun hbad wireMsg hmessage => (h wireMsg hmessage).2 hbad⟩
    · rintro ⟨henough, hreadable⟩ wireMsg hmessage
      exact ⟨fun hbad => henough hbad wireMsg hmessage,
        fun hbad => hreadable hbad wireMsg hmessage⟩

/-- A message of three frames, the last one behind a delimiter, throws. -/
theorem decodesWhen_lateDelimiter :
    ReturnsOrThrows
      (deserialize emptyObjectLibrary sha256Authentication [[1], [2], delimiter]) := by
  have hauth : makeXAuthentication sha256OpenSsl lowerHex (literal "hmac-sha256")
      (literal "key") = .ok sha256Authentication := rfl
  have hdecodes := (decodesWhen sha256OpenSsl lowerHex _ _ _ hauth emptyObjectLibrary .strict
    freshKernel (sampleConfig (literal "hmac-sha256")) freshKernel).1 [[1], [2], delimiter]
  rw [hdecodes.returnsOrThrows_iff, hasBehindDelimiter_iff]
  have hids : ∀ ids rest, deserializeZmqId [[1], [2], delimiter] ≠ .ok (ids, rest) := by
    intro ids rest
    rw [show deserializeZmqId [[1], [2], delimiter] = .error (.exception (.runtimeError
      "ERROR: Delimiter not present in message")) from rfl]
    simp
  exact ⟨⟨by simp, fun ids rest h => absurd h (hids ids rest)⟩,
    fun ids rest h => absurd h (hids ids rest)⟩

/-- A message cut behind its delimiter, one cut behind its topic, a registration
without its content, and a registration that is not answered. -/
theorem not_neverPopsEmpty :
    ¬ NeverPopsEmpty (deserialize emptyObjectLibrary sha256Authentication [delimiter, []]) ∧
    ¬ NeverPopsEmpty (deserializeIopub emptyObjectLibrary sha256Authentication [[]]) ∧
    ¬ NeverPopsEmpty (waitForConfiguration flatJsonLibrary sha256OpenSsl lowerHex
      freshKernel (literal "key") (some [[0, 1], delimiter, []])) ∧
    ¬ NeverPopsEmpty (sendConnectionInfo flatJsonLibrary sha256Authentication .strict
      (sampleConfig (literal "hmac-sha256")) freshKernel fun _ => []) := by
  refine ⟨?_, ?_, ?_, ?_⟩ <;> exact fun hnever => hnever .popEmpty rfl rfl

end XeusZmq.MissingFrames
