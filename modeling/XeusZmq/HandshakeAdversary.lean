import XeusZmq.HandshakeRuns

/-!
What a reply to a registration proves to the kernel when it comes from somebody
who has no key.
-/

namespace XeusZmq.HandshakeAdversary

open XeusZmq.Values
open XeusZmq.Authentication
open XeusZmq.Serializer
open XeusZmq.SignatureVerification
open XeusZmq.FlatJson
open XeusZmq.Handshake
open XeusZmq.HandshakeRuns

variable {setup : Setup}

/-- The code of a text under the scheme of the kernel. -/
def codeOf (setup : Setup) (text : Bytes) : Bytes :=
  code setup.ssl setup.hexString setup.config.signatureScheme setup.config.key [text]

/-- A client that holds the key has answered the message. -/
def Answered (setup : Setup) (wireMsg : Multipart) : Prop :=
  ∃ config wireRep, setup.wait wireMsg = .ok (config, wireRep)

/-- A client that holds the key has answered a message with this registration. -/
def Acknowledged (setup : Setup) (registration : Bytes) (delivered : List Multipart) :
    Prop :=
  ∃ wireMsg ∈ delivered, Answered setup wireMsg ∧
    ∃ ids signature rest, (∀ id ∈ ids, id ≠ delimiter) ∧
      wireMsg = ids ++ delimiter :: signature :: registration :: rest

/-- The texts whose codes holders of the key have sent: the registration of the
kernel, and "ACK" as soon as a client has answered any message. -/
inductive Signed (setup : Setup) (registration : Bytes) (delivered : List Multipart) :
    Bytes → Prop
  | registration : Signed setup registration delivered registration
  | ack (wireMsg : Multipart) (hmem : wireMsg ∈ delivered)
      (hanswered : Answered setup wireMsg) : Signed setup registration delivered ack

/-- Whoever composed the message had seen the code of every text that it carries
together with its code. -/
def Unforged (setup : Setup) (signed : Bytes → Prop) (rep : Multipart) : Prop :=
  ∀ signature ∈ rep, ∀ text ∈ rep, codeOf setup text <+: signature → signed text

/-- The reply holds the text behind a frame that begins with its code. -/
def Carries (setup : Setup) (rep : Multipart) (text : Bytes) : Prop :=
  ∃ ids signature rest, (∀ id ∈ ids, id ≠ delimiter) ∧
    rep = ids ++ delimiter :: signature :: text :: rest ∧
    codeOf setup text <+: signature

theorem verifyContent_eq_true_iff (hscheme : setup.config.signatureScheme ≠ literal "none")
    (havailable : (setup.ssl.calls (schemeDigest setup.config.signatureScheme)
      setup.config.key).AllSucceed 1) {signature content : Bytes} :
    setup.auth.verifyContent signature content = .ok true ↔
      codeOf setup content <+: signature := by
  obtain ⟨self, hself, hcalls, hcode⟩ := makeXAuthentication_openssl hscheme setup.hauth
  rw [codeOf, ← hcode [content] (hcalls ▸ havailable), hself]
  exact compareSignature_eq_true_iff

theorem send_eq_ok_iff_carries (hscheme : setup.config.signatureScheme ≠ literal "none")
    (havailable : (setup.ssl.calls (schemeDigest setup.config.signatureScheme)
      setup.config.key).AllSucceed 1) {kernel : Kernel} {sent rep : Multipart}
    (hsent : setup.registration kernel = .ok sent) :
    setup.send kernel rep = .ok () ↔ ∃ text, Carries setup rep text := by
  rw [send_eq hsent, checkReply_eq_ok_iff]
  simp only [verifyContent_eq_true_iff hscheme havailable, Carries]
  constructor
  · rintro ⟨ids, signature, content, rest, hids, hrep, hfront⟩
    exact ⟨content, ids, signature, rest, hids, hrep, hfront⟩
  · rintro ⟨content, ids, signature, rest, hids, hrep, hfront⟩
    exact ⟨ids, signature, content, rest, hids, hrep, hfront⟩

theorem Carries.exists_mem {rep : Multipart} {text : Bytes} (h : Carries setup rep text) :
    ∃ signature ∈ rep, text ∈ rep ∧ codeOf setup text <+: signature := by
  obtain ⟨ids, signature, rest, -, rfl, hfront⟩ := h
  exact ⟨signature, by simp, by simp, hfront⟩

theorem Unforged.signed {signed : Bytes → Prop} {rep : Multipart} {text : Bytes}
    (hunforged : Unforged setup signed rep) (hcarries : Carries setup rep text) :
    signed text := by
  obtain ⟨signature, hsignature, htext, hfront⟩ := hcarries.exists_mem
  exact hunforged signature hsignature text htext hfront

/-- A reply from somebody without the key convinces the kernel wrongly exactly when
it repeats the registration of the kernel, or the acknowledgement that a client
gave for something else. -/
theorem acknowledgedByKeyHolder_iff (setup : Setup)
    (hscheme : setup.config.signatureScheme ≠ literal "none")
    (havailable : (setup.ssl.calls (schemeDigest setup.config.signatureScheme)
      setup.config.key).AllSucceed 1)
    (kernel : Kernel) (signature registration : Bytes)
    (hsent : setup.registration kernel = .ok [delimiter, signature, registration])
    (delivered : List Multipart) (rep : Multipart)
    (hunforged : Unforged setup (Signed setup registration delivered) rep) :
    (setup.send kernel rep = .ok () → Acknowledged setup registration delivered) ↔
      Acknowledged setup registration delivered ∨
        ¬ Carries setup rep registration ∧ ¬ Carries setup rep ack := by
  rw [send_eq_ok_iff_carries hscheme havailable hsent]
  constructor
  · intro hproves
    by_cases hacknowledged : Acknowledged setup registration delivered
    · exact Or.inl hacknowledged
    · right
      constructor
      · intro hcarries
        exact hacknowledged (hproves ⟨_, hcarries⟩)
      · intro hcarries
        exact hacknowledged (hproves ⟨_, hcarries⟩)
  · rintro (hacknowledged | ⟨hregistration, hack⟩)
    · exact fun _ => hacknowledged
    · rintro ⟨text, hcarries⟩
      cases hunforged.signed hcarries with
      | registration => exact absurd hcarries hregistration
      | ack => exact absurd hcarries hack

/-- OpenSSL with the codes of the acknowledgement and of one registration. -/
def registrationOpenSsl : OpenSsl :=
  tabledOpenSsl [(literal "SHA256", 32)]
    [((literal "SHA256", ack),
      [243, 217, 2, 163, 143, 45, 126, 110, 70, 33, 174, 60, 252, 138, 11, 242, 147, 3, 99,
        118, 38, 24, 41, 110, 75, 215, 236, 15, 104, 104, 219, 162]),
    ((literal "SHA256", dumpObject
        (connectionInfo (sampleConfig []) (updateConfig sampleKernel.ports freshKernel))),
      [249, 182, 191, 164, 202, 64, 71, 33, 156, 45, 93, 254, 244, 211, 248, 157, 51, 203,
        227, 170, 108, 216, 115, 112, 229, 42, 244, 245, 27, 182, 178, 242])]

def registrationSetup : Setup where
  json := flatJsonLibrary
  ssl := registrationOpenSsl
  hexString := lowerHex
  fresh := freshKernel
  errorHandler := .strict
  config := sampleConfig (literal "hmac-sha256")
  auth := OpensslXAuthentication.toXAuthentication
    { ssl := registrationOpenSsl
      hexString := lowerHex
      key := literal "key"
      hashName := literal "SHA256" }
  hauth := rfl

def sampleRegistration : Bytes :=
  dumpObject (connectionInfo (sampleConfig []) (updateConfig sampleKernel.ports freshKernel))

theorem registration_sampleKernel :
    registrationSetup.registration sampleKernel =
      .ok [delimiter, codeOf registrationSetup sampleRegistration, sampleRegistration] := rfl

/-- An acknowledgement under a made-up signature convinces nobody. -/
theorem acknowledgedByKeyHolder_forged :
    ∃ rep, rep = [delimiter, literal "forged", ack] ∧
      (registrationSetup.send sampleKernel rep = .ok () →
        Acknowledged registrationSetup sampleRegistration []) := by
  have hforged : ∀ signature ∈ [delimiter, literal "forged", ack],
      ∀ text ∈ [delimiter, literal "forged", ack],
        ¬ codeOf registrationSetup text <+: signature := by decide
  have hunforged : Unforged registrationSetup
      (Signed registrationSetup sampleRegistration []) [delimiter, literal "forged", ack] :=
    fun signature hsignature text htext hfront =>
      absurd hfront (hforged signature hsignature text htext)
  have hnone : ∀ text, ¬ Carries registrationSetup
      [delimiter, literal "forged", ack] text := by
    intro text hcarries
    obtain ⟨signature, hsignature, htext, hfront⟩ := hcarries.exists_mem
    exact hforged signature hsignature text htext hfront
  exact ⟨_, rfl, (acknowledgedByKeyHolder_iff registrationSetup (by decide)
    ⟨rfl, fun _ _ => rfl, rfl, rfl⟩ sampleKernel _ _ registration_sampleKernel [] _
    hunforged).mpr (Or.inr ⟨hnone _, hnone _⟩)⟩

/-- The kernel accepts its own message as the acknowledgement of a client. -/
theorem not_acknowledgedByKeyHolder_reflected :
    ∃ sent, registrationSetup.registration sampleKernel = .ok sent ∧
      Unforged registrationSetup (Signed registrationSetup sampleRegistration []) sent ∧
      registrationSetup.send sampleKernel sent = .ok () ∧
      ¬ Acknowledged registrationSetup sampleRegistration [] := by
  refine ⟨_, registration_sampleKernel, ?_, rfl, by simp [Acknowledged]⟩
  have hown : ∀ signature ∈ [delimiter, codeOf registrationSetup sampleRegistration,
      sampleRegistration], ∀ text ∈ [delimiter, codeOf registrationSetup sampleRegistration,
      sampleRegistration], codeOf registrationSetup text <+: signature →
        text = sampleRegistration := by decide
  intro signature hsignature text htext hfront
  obtain rfl := hown signature hsignature text htext hfront
  exact .registration

end XeusZmq.HandshakeAdversary
