import XeusZmq.FlatJson
import XeusZmq.SignatureVerification

/-!
What a signature says about the frames it is sent with: the code is computed over
their concatenation, yet it fixes each of them.
-/

namespace XeusZmq.SignatureBinding

open XeusZmq.Values
open XeusZmq.Authentication
open XeusZmq.Serializer
open XeusZmq.WireRoundTrip
open XeusZmq.SignatureVerification
open XeusZmq.JsonAccess
open XeusZmq.FlatJson

def brace : UInt8 := 123

def IsObject (part : Json) : Prop :=
  ∃ members, part = .object members

/-- The text of an object ends where its last brace closes: nothing shorter parses,
and nothing that goes on with another brace. -/
structure DelimitsObjects (json : JsonLibrary) : Prop where
  opens : ∀ {errorHandler part text}, IsObject part →
    json.dump errorHandler part = .ok text → ∃ rest, text = brace :: rest
  shortest : ∀ {errorHandler part text front part'}, IsObject part →
    json.dump errorHandler part = .ok text → front <+: text →
    json.parse front = .ok part' → front = text
  longest : ∀ {errorHandler part text rest part'}, IsObject part →
    json.dump errorHandler part = .ok text →
    json.parse (text ++ brace :: rest) ≠ .ok part'

/-- The first of two sequences of texts begins with that of an object and goes on
with a brace: the second begins with the same text if its first text parses. -/
theorem DelimitsObjects.cancel {json : JsonLibrary} (hjson : DelimitsObjects json)
    {errorHandler : ErrorHandler} {part part' : Json} {text text' rest rest' : Bytes}
    (hobject : IsObject part) (hdump : json.dump errorHandler part = .ok text)
    (hparse : json.parse text' = .ok part') (hrest : ∃ tail, rest = brace :: tail)
    (hsame : text' ++ rest' = text ++ rest) : text' = text ∧ rest' = rest := by
  obtain ⟨tail, rfl⟩ := hrest
  obtain rfl : text' = text := by
    rcases List.append_eq_append_iff.mp hsame with ⟨more, rfl, -⟩ | ⟨more, rfl, hmore⟩
    · exact hjson.shortest hobject hdump (List.prefix_append _ _) hparse
    · cases more with
      | nil => exact List.append_nil text
      | cons byte more =>
          obtain ⟨rfl, -⟩ := List.cons.inj hmore
          exact absurd hparse (hjson.longest hobject hdump)
  exact ⟨rfl, List.append_cancel_left hsame⟩

/-- The bytes that are signed. -/
def signedText (frames : BaseFrames) : Bytes :=
  [frames.header, frames.parentHeader, frames.metadata, frames.content].flatten

structure ObjectParts (data : XMessageBaseData) : Prop where
  header : IsObject data.header
  parentHeader : IsObject data.parentHeader
  metadata : IsObject data.metadata
  content : IsObject data.content

/-- Frames that parse cannot move the boundaries between dumped objects. -/
theorem frames_eq_of_signedText_eq {json : JsonLibrary} {auth auth' : XAuthentication}
    (hjson : DelimitsObjects json) {errorHandler : ErrorHandler}
    {data data' : XMessageBaseData} {frames frames' : BaseFrames}
    (hobjects : ObjectParts data) (hwrites : Writes json auth errorHandler data frames)
    (hreads : Reads json auth' frames' data')
    (hsame : signedText frames' = signedText frames) :
    frames'.header = frames.header ∧ frames'.parentHeader = frames.parentHeader ∧
      frames'.metadata = frames.metadata ∧ frames'.content = frames.content := by
  simp only [signedText, List.flatten_cons, List.flatten_nil, List.append_nil] at hsame
  obtain ⟨contentTail, hcontent⟩ := hjson.opens hobjects.content hwrites.content
  obtain ⟨metadataTail, hmetadata⟩ := hjson.opens hobjects.metadata hwrites.metadata
  obtain ⟨parentTail, hparent⟩ := hjson.opens hobjects.parentHeader hwrites.parentHeader
  obtain ⟨hheader', hsame⟩ := hjson.cancel hobjects.header hwrites.header hreads.header
    ⟨_, by rw [hparent]; rfl⟩ hsame
  obtain ⟨hparent', hsame⟩ := hjson.cancel hobjects.parentHeader hwrites.parentHeader
    hreads.parentHeader ⟨_, by rw [hmetadata]; rfl⟩ hsame
  obtain ⟨hmetadata', hcontent'⟩ := hjson.cancel hobjects.metadata hwrites.metadata
    hreads.metadata ⟨_, hcontent⟩ hsame
  exact ⟨hheader', hparent', hmetadata', hcontent'⟩

/-- The frame that the decoder takes for the signature. -/
def SignatureFrame (wireMsg : Multipart) (signature : Bytes) : Prop :=
  ∃ ids rest, (∀ id ∈ ids, id ≠ delimiter) ∧ wireMsg = ids ++ delimiter :: signature :: rest

theorem SignatureFrame.unique {wireMsg : Multipart} {signature signature' : Bytes}
    (h : SignatureFrame wireMsg signature) (h' : SignatureFrame wireMsg signature') :
    signature = signature' := by
  obtain ⟨ids, rest, hids, rfl⟩ := h
  obtain ⟨ids', rest', hids', hsame⟩ := h'
  have hdecode := deserializeZmqId_delimiter hids signature rest
  rw [hsame, deserializeZmqId_delimiter hids' signature' rest'] at hdecode
  simp only [Except.ok.injEq, Prod.mk.injEq, List.cons.injEq] at hdecode
  exact hdecode.2.1.symm

/-- No other text has the code of this one. -/
def CollisionFree (ssl : OpenSsl) (scheme key text : Bytes) : Prop :=
  ∀ other, ssl.hmac (schemeDigest scheme) key other = ssl.hmac (schemeDigest scheme) key text →
    other = text

/-- The hex form of a code begins with that of another only if the code does. -/
def ReflectsFront (hexString : Bytes → Bytes) : Prop :=
  ∀ {a b}, hexString a <+: hexString b → a <+: b

/-- Whatever decodes with the signature of a message of objects has parts that are
the `same` as those of the message. -/
def BindsParts (ssl : OpenSsl) (scheme key : Bytes) (json : JsonLibrary)
    (auth : XAuthentication) (errorHandler : ErrorHandler) (same : Json → Json → Prop) :
    Prop :=
  ∀ (msg : XMessage) (frames : BaseFrames), ObjectParts msg.data →
    serialize json auth errorHandler msg =
      .ok (msg.identities ++ delimiter :: frames.toMultipart) →
    CollisionFree ssl scheme key (signedText frames) →
    ∀ wireMsg msg', SignatureFrame wireMsg frames.signature →
      deserialize json auth wireMsg = .ok msg' →
      same msg.data.header msg'.data.header ∧
      same msg.data.parentHeader msg'.data.parentHeader ∧
      same msg.data.metadata msg'.data.metadata ∧
      same msg.data.content msg'.data.content

theorem signedText_eq_of_verify {ssl : OpenSsl} {hexString : Bytes → Bytes}
    {scheme key : Bytes} {auth : XAuthentication} (hscheme : scheme ≠ literal "none")
    (hauth : makeXAuthentication ssl hexString scheme key = .ok auth)
    (havailable : (ssl.calls (schemeDigest scheme) key).AllSucceed 4)
    (hhex : ReflectsFront hexString) {frames frames' : BaseFrames}
    (hcollision : CollisionFree ssl scheme key (signedText frames))
    (hverify : auth.verify
      (auth.sign frames.header frames.parentHeader frames.metadata frames.content)
      frames'.header frames'.parentHeader frames'.metadata frames'.content = .ok true) :
    signedText frames' = signedText frames := by
  obtain ⟨self, rfl, hcalls, hcode⟩ := makeXAuthentication_openssl hscheme hauth
  have hfront := compareSignature_eq_true_iff.mp hverify
  have hcode' (frames : BaseFrames) : self.toXAuthentication.sign frames.header
      frames.parentHeader frames.metadata frames.content =
      hexString (ssl.hmac (schemeDigest scheme) key (signedText frames)) :=
    hcode [frames.header, frames.parentHeader, frames.metadata, frames.content]
      (hcalls ▸ havailable)
  have hhmac := hhex (show hexString (ssl.hmac (schemeDigest scheme) key
      (signedText frames')) <+: hexString (ssl.hmac (schemeDigest scheme) key
        (signedText frames)) by
    rw [← hcode', ← hcode']
    exact hfront)
  exact hcollision _ (hhmac.eq_of_length (by rw [ssl.hmac_length, ssl.hmac_length]))

/-- A signature binds the four parts up to what dumping and parsing does to them. -/
theorem bindsParts_reparsed (ssl : OpenSsl) (hexString : Bytes → Bytes)
    (scheme key : Bytes) (auth : XAuthentication) (hscheme : scheme ≠ literal "none")
    (hauth : makeXAuthentication ssl hexString scheme key = .ok auth)
    (havailable : (ssl.calls (schemeDigest scheme) key).AllSucceed 4)
    (hhex : ReflectsFront hexString) (json : JsonLibrary) (hjson : DelimitsObjects json)
    (errorHandler : ErrorHandler) :
    BindsParts ssl scheme key json auth errorHandler fun part part' =>
      Reparsed json errorHandler part part' ∧
        (Reparsed json errorHandler part part → part' = part) := by
  intro msg frames hobjects hserialize hcollision wireMsg msg' hsignature hdeserialize
  obtain ⟨frames₁, hwrites, hframes⟩ := serialize_eq_ok.mp hserialize
  obtain rfl : frames = frames₁ := by
    have hsame := List.append_cancel_left hframes
    simp only [BaseFrames.toMultipart_cons, List.cons.injEq, true_and] at hsame
    cases frames
    cases frames₁
    simp_all
  obtain ⟨frames', hids, rfl, hreads⟩ := deserialize_eq_ok hdeserialize
  have hframe : SignatureFrame (msg'.identities ++ delimiter :: frames'.toMultipart)
      frames'.signature := ⟨_, _, hids, rfl⟩
  have hverify := hreads.verify
  rw [hframe.unique hsignature, hwrites.signature] at hverify
  have hsame := signedText_eq_of_verify hscheme hauth havailable hhex hcollision hverify
  obtain ⟨hheader, hparent, hmetadata, hcontent⟩ :=
    frames_eq_of_signedText_eq hjson hobjects hwrites hreads hsame
  have hpart {part part' : Json} {text text' : Bytes} (htext : text' = text)
      (hdump : json.dump errorHandler part = .ok text)
      (hparse : json.parse text' = .ok part') :
      Reparsed json errorHandler part part' ∧
        (Reparsed json errorHandler part part → part' = part) := by
    have hreparsed : Reparsed json errorHandler part part' := ⟨text, hdump, htext ▸ hparse⟩
    exact ⟨hreparsed, hreparsed.unique⟩
  exact ⟨hpart hheader hwrites.header hreads.header,
    hpart hparent hwrites.parentHeader hreads.parentHeader,
    hpart hmetadata hwrites.metadata hreads.metadata,
    hpart hcontent hwrites.content hreads.content⟩

def hexDigit (n : UInt8) : UInt8 :=
  if n < 10 then 48 + n else 87 + n

def hexValue (digit : UInt8) : UInt8 :=
  if digit < 58 then digit - 48 else digit - 87

theorem lowerHex_cons (byte : UInt8) (bytes : Bytes) :
    lowerHex (byte :: bytes) =
      hexDigit (byte / 16) :: hexDigit (byte % 16) :: lowerHex bytes := rfl

theorem hexValue_hexDigit (byte : UInt8) :
    hexValue (hexDigit (byte / 16)) * 16 + hexValue (hexDigit (byte % 16)) = byte := by
  have hall : ∀ n : Fin 256, hexValue (hexDigit (UInt8.ofFin n / 16)) * 16 +
      hexValue (hexDigit (UInt8.ofFin n % 16)) = UInt8.ofFin n := by decide +kernel
  exact hall byte.toFin

theorem lowerHex_reflectsFront : ReflectsFront lowerHex := by
  intro a
  induction a with
  | nil => exact fun _ => List.nil_prefix
  | cons byte a ih =>
      intro b hfront
      cases b with
      | nil => simp [lowerHex] at hfront
      | cons byte' b =>
          rw [lowerHex_cons, lowerHex_cons, List.cons_prefix_cons,
            List.cons_prefix_cons] at hfront
          obtain ⟨hhigh, hlow, hrest⟩ := hfront
          have hbyte : byte = byte' := by
            rw [← hexValue_hexDigit byte, hhigh, hlow, hexValue_hexDigit]
          exact List.cons_prefix_cons.mpr ⟨hbyte, ih hrest⟩

theorem dump_eq_dumpObject {errorHandler : ErrorHandler} {part : Json} {text : Bytes}
    (hdump : flatJsonLibrary.dump errorHandler part = .ok text) :
    ∃ members, text = dumpObject members := by
  simp only [flatJsonLibrary] at hdump
  split at hdump
  · split at hdump
    · split at hdump
      · simp at hdump
      · exact ⟨_, (Except.ok.inj hdump).symm⟩
    · simp at hdump
  · simp at hdump

theorem parse_eq_ok {text : Bytes} {part : Json}
    (hparse : flatJsonLibrary.parse text = .ok part) :
    ∃ reader, Reader.init.readAll text = some reader ∧ reader.phase = .closed := by
  simp only [flatJsonLibrary] at hparse
  split at hparse
  · rename_i reader hread
    split at hparse
    · rename_i hclosed
      exact ⟨reader, hread, hclosed⟩
    · simp at hparse
  · simp at hparse

/-- A text that parses has no longer text that parses. -/
theorem readAll_append_of_parse {text rest : Bytes} {part : Json}
    (hparse : flatJsonLibrary.parse text = .ok part) (hrest : rest ≠ []) :
    Reader.init.readAll (text ++ rest) = none := by
  obtain ⟨reader, hread, hclosed⟩ := parse_eq_ok hparse
  rw [Reader.readAll_append, hread, Option.bind_some, Reader.readAll_closed hclosed hrest]

theorem flatJsonLibrary_delimitsObjects : DelimitsObjects flatJsonLibrary := by
  constructor
  · intro errorHandler part text _ hdump
    obtain ⟨members, rfl⟩ := dump_eq_dumpObject hdump
    exact ⟨_, rfl⟩
  · rintro errorHandler part text front part' _ hdump ⟨rest, rfl⟩ hparse
    obtain ⟨members, hmembers⟩ := dump_eq_dumpObject hdump
    by_contra hshort
    have hrest : rest ≠ [] := by
      rintro rfl
      exact hshort (List.append_nil front).symm
    obtain ⟨reader, hread, -⟩ := Reader.readAll_dumpObject members
    rw [← hmembers, readAll_append_of_parse hparse hrest] at hread
    simp at hread
  · intro errorHandler part text rest part' _ hdump hparse
    obtain ⟨members, rfl⟩ := dump_eq_dumpObject hdump
    obtain ⟨reader, hread, -⟩ := parse_eq_ok hparse
    rw [readAll_append_of_parse (parse_dumpObject members) (by simp)] at hread
    simp at hread

def stringParts (header parentHeader metadata content : List (Bytes × Bytes))
    (buffers : List Bytes) : XMessageBaseData where
  header := stringObject header
  parentHeader := stringObject parentHeader
  metadata := stringObject metadata
  content := stringObject content
  buffers := buffers

theorem stringParts_objectParts (header parentHeader metadata content : List (Bytes × Bytes))
    (buffers : List Bytes) :
    ObjectParts (stringParts header parentHeader metadata content buffers) :=
  ⟨⟨_, rfl⟩, ⟨_, rfl⟩, ⟨_, rfl⟩, ⟨_, rfl⟩⟩

def msgId : List (Bytes × Bytes) := [(literal "msg_id", literal "1")]

def parentId : List (Bytes × Bytes) := [(literal "msg_id", literal "0")]

def cellId : List (Bytes × Bytes) := [(literal "id", literal "a")]

def cellCode : List (Bytes × Bytes) := [(literal "code", literal "x")]

/-- The character that stands for bytes that are not UTF-8. -/
def replaced : List (Bytes × Bytes) := [(literal "x", [0xEF, 0xBF, 0xBD])]

def distinctText : Bytes :=
  dumpObject msgId ++ dumpObject parentId ++ dumpObject cellId ++ dumpObject cellCode

def replacedText : Bytes :=
  literal "{}{}{}" ++ dumpObject replaced

/-- OpenSSL with the codes of two texts. -/
def twoCodesOpenSsl : OpenSsl :=
  tabledOpenSsl [(literal "SHA256", 32)]
    [((literal "SHA256", distinctText),
      [18, 35, 68, 75, 53, 69, 49, 167, 209, 82, 170, 194, 134, 57, 208, 119, 60, 229, 165, 236,
        9, 205, 126, 23, 117, 5, 230, 14, 100, 132, 128, 126]),
    ((literal "SHA256", replacedText),
      [21, 10, 219, 150, 154, 5, 158, 78, 150, 104, 140, 212, 207, 224, 11, 97, 65, 168, 67,
        219, 63, 102, 44, 184, 6, 158, 12, 74, 182, 252, 35, 6])]

def twoCodesAuthentication : XAuthentication :=
  OpensslXAuthentication.toXAuthentication
    { ssl := twoCodesOpenSsl
      hexString := lowerHex
      key := literal "key"
      hashName := literal "SHA256" }

theorem twoCodesOpenSsl_hmac {text : Bytes} (hdistinct : text ≠ distinctText)
    (hreplaced : text ≠ replacedText) :
    twoCodesOpenSsl.hmac (literal "SHA256") (literal "key") text = List.replicate 32 0 := by
  have hsize : ([(literal "SHA256", 32)] : List (Bytes × Nat)).lookup (literal "SHA256") =
      some 32 := rfl
  rw [twoCodesOpenSsl, tabledOpenSsl_hmac_of_lookup, hsize, Option.getD_some]
  simp [List.lookup_eq_none_iff, hdistinct, hreplaced]

theorem twoCodesOpenSsl_collisionFree {text : Bytes}
    (htext : text = distinctText ∨ text = replacedText) :
    CollisionFree twoCodesOpenSsl (literal "hmac-sha256") (literal "key") text := by
  intro other hsame
  rw [show schemeDigest (literal "hmac-sha256") = literal "SHA256" by decide] at hsame
  by_cases hdistinct : other = distinctText
  · subst hdistinct
    rcases htext with rfl | rfl
    · rfl
    · exact absurd hsame (by decide)
  · by_cases hreplaced : other = replacedText
    · subst hreplaced
      rcases htext with rfl | rfl
      · exact absurd hsame (by decide)
      · rfl
    · rw [twoCodesOpenSsl_hmac hdistinct hreplaced] at hsame
      rcases htext with rfl | rfl <;> exact absurd hsame (by decide)

theorem makeXAuthentication_twoCodes :
    makeXAuthentication twoCodesOpenSsl lowerHex (literal "hmac-sha256") (literal "key") =
      .ok twoCodesAuthentication := rfl

def stringFrames (header parentHeader metadata content : List (Bytes × Bytes))
    (buffers : List Bytes) : BaseFrames where
  signature := twoCodesAuthentication.sign (dumpObject header) (dumpObject parentHeader)
    (dumpObject metadata) (dumpObject content)
  header := dumpObject header
  parentHeader := dumpObject parentHeader
  metadata := dumpObject metadata
  content := dumpObject content
  buffers := buffers

theorem stringFrames_reads (header parentHeader metadata content : List (Bytes × Bytes))
    (buffers : List Bytes) :
    Reads flatJsonLibrary twoCodesAuthentication
      (stringFrames header parentHeader metadata content buffers)
      (stringParts header parentHeader metadata content buffers) :=
  ⟨parse_dumpObject _, parse_dumpObject _, parse_dumpObject _, parse_dumpObject _, rfl,
    (makeXAuthentication_acceptsOwnSignatures makeXAuthentication_twoCodes).verify_sign _ _ _ _⟩

theorem stringFrames_serialize {errorHandler : ErrorHandler}
    {header parentHeader metadata content content' : List (Bytes × Bytes)}
    (hheader : flatJsonLibrary.dump errorHandler (stringObject header) = .ok (dumpObject header))
    (hparent : flatJsonLibrary.dump errorHandler (stringObject parentHeader) =
      .ok (dumpObject parentHeader))
    (hmetadata : flatJsonLibrary.dump errorHandler (stringObject metadata) =
      .ok (dumpObject metadata))
    (hcontent : flatJsonLibrary.dump errorHandler (stringObject content) =
      .ok (dumpObject content')) :
    serialize flatJsonLibrary twoCodesAuthentication errorHandler
        ⟨[], stringParts header parentHeader metadata content []⟩ =
      .ok (delimiter ::
        (stringFrames header parentHeader metadata content' []).toMultipart) :=
  serialize_eq_ok.mpr ⟨stringFrames header parentHeader metadata content' [],
    ⟨rfl, hheader, hparent, hmetadata, hcontent, rfl⟩, rfl⟩

/-- With other identities and a buffer, the frames of a message of four different objects
decode to these objects. -/
theorem bindsParts_reparsed_distinctParts :
    ∃ msg', deserialize flatJsonLibrary twoCodesAuthentication
        ([literal "other"] ++
          delimiter :: (stringFrames msgId parentId cellId cellCode [[1, 2]]).toMultipart) =
          .ok msg' ∧
      msg'.data.header = stringObject msgId ∧ msg'.data.parentHeader = stringObject parentId ∧
      msg'.data.metadata = stringObject cellId ∧ msg'.data.content = stringObject cellCode := by
  have hbinds := bindsParts_reparsed twoCodesOpenSsl lowerHex _ _ _ (by decide)
    makeXAuthentication_twoCodes ⟨rfl, fun _ _ => rfl, rfl, rfl⟩ lowerHex_reflectsFront
    flatJsonLibrary flatJsonLibrary_delimitsObjects .strict
  have hids : ∀ id ∈ [literal "other"], id ≠ delimiter := by decide
  have hdecode := deserialize_delimiter hids
    (stringFrames_reads msgId parentId cellId cellCode [[1, 2]])
  obtain ⟨hheader, hparent, hmetadata, hcontent⟩ := hbinds
    ⟨[], stringParts msgId parentId cellId cellCode []⟩
    (stringFrames msgId parentId cellId cellCode []) (stringParts_objectParts _ _ _ _ _)
    (stringFrames_serialize rfl rfl rfl rfl)
    (twoCodesOpenSsl_collisionFree (Or.inl rfl)) _ _ ⟨_, _, hids, rfl⟩ hdecode
  exact ⟨_, hdecode, hheader.2 ⟨_, rfl, rfl⟩, hparent.2 ⟨_, rfl, rfl⟩,
    hmetadata.2 ⟨_, rfl, rfl⟩, hcontent.2 ⟨_, rfl, rfl⟩⟩

/-- A string that is not UTF-8 is replaced before it is signed, so that not even the
message itself comes back. -/
theorem not_bindsParts_replaced :
    DelimitsObjects flatJsonLibrary ∧
    ¬ BindsParts twoCodesOpenSsl (literal "hmac-sha256") (literal "key") flatJsonLibrary
      twoCodesAuthentication .replace fun part part' => part' = part := by
  refine ⟨flatJsonLibrary_delimitsObjects, ?_⟩
  intro hbinds
  have hids : ∀ id ∈ ([] : List Bytes), id ≠ delimiter := by simp
  have hdecode := deserialize_delimiter hids (stringFrames_reads [] [] [] replaced [])
  obtain ⟨-, -, -, hcontent⟩ := hbinds
    ⟨[], stringParts [] [] [] [(literal "x", [0xFF])] []⟩
    (stringFrames [] [] [] replaced []) (stringParts_objectParts _ _ _ _ _)
    (stringFrames_serialize rfl rfl rfl rfl)
    (twoCodesOpenSsl_collisionFree (Or.inr rfl)) _ _ ⟨[], _, hids, rfl⟩ hdecode
  simp [stringParts, stringObject, replaced] at hcontent

end XeusZmq.SignatureBinding
