import XeusZmq.WireRoundTrip

/-!
When `xauthentication::verify` is the check that its callers take it for: which
signature frames it decides exactly, and which failures of OpenSSL it survives.
-/

namespace XeusZmq.SignatureVerification

open XeusZmq.Values
open XeusZmq.Authentication
open XeusZmq.Serializer
open XeusZmq.WireRoundTrip

def code (ssl : OpenSsl) (hexString : Bytes → Bytes) (scheme key : Bytes)
    (buffers : List Bytes) : Bytes :=
  hexString (ssl.hmac (schemeDigest scheme) key buffers.flatten)

theorem foldl_evpMacUpdate (self : OpensslXAuthentication) (buffers : List Bytes)
    (ctx : MacCtx)
    (hupdate : ∀ i < buffers.length, self.calls.update (ctx.updates + i) = true) :
    buffers.foldl self.evpMacUpdate ctx =
      ⟨ctx.size, ctx.updates + buffers.length, ctx.absorbed ++ buffers.flatten⟩ := by
  induction buffers generalizing ctx with
  | nil => simp
  | cons buffer buffers ih =>
      have hfirst : self.calls.update ctx.updates = true := hupdate 0 (by simp)
      have hrest : ∀ i < buffers.length,
          self.calls.update ((self.evpMacUpdate ctx buffer).updates + i) = true := by
        intro i hi
        have hi' := hupdate (i + 1) (by simpa using hi)
        rw [show ctx.updates + (i + 1) = ctx.updates + 1 + i by omega] at hi'
        exact hi'
      rw [List.foldl_cons, ih _ hrest]
      simp only [OpensslXAuthentication.evpMacUpdate, hfirst, if_true,
        List.length_cons, List.flatten_cons, List.append_assoc]
      congr 1
      omega

theorem hexSignature_of_allSucceed (self : OpensslXAuthentication) (buffers : List Bytes)
    (hcalls : self.calls.AllSucceed buffers.length) :
    self.hexSignature buffers =
      self.hexString (self.ssl.hmac self.digest self.key buffers.flatten) := by
  obtain ⟨hinit, hupdate, hsize, hfinal⟩ := hcalls
  have hfold := foldl_evpMacUpdate self buffers self.initHexSignature
    (fun i hi => by simpa [OpensslXAuthentication.initHexSignature] using hupdate i hi)
  rw [OpensslXAuthentication.hexSignature, hfold]
  simp only [OpensslXAuthentication.finalizeHexSignature, hsize, if_true,
    OpensslXAuthentication.evpMacFinal, hinit, hfinal, List.length_replicate,
    OpensslXAuthentication.initHexSignature, List.nil_append, Nat.le_refl,
    decide_true, Bool.and_self]

/-- A context that failed to initialise has size zero, so no byte is compared. -/
theorem hexSignature_of_init_failed (self : OpensslXAuthentication) (buffers : List Bytes)
    (hinit : self.calls.init = false) :
    self.hexSignature buffers = self.hexString [] := by
  have hsize : ∀ ctx : MacCtx, (buffers.foldl self.evpMacUpdate ctx).size = ctx.size := by
    induction buffers with
    | nil => exact fun _ => rfl
    | cons buffer buffers ih => exact fun ctx => ih _
  simp [OpensslXAuthentication.hexSignature, OpensslXAuthentication.finalizeHexSignature,
    OpensslXAuthentication.evpMacFinal, hinit, hsize,
    OpensslXAuthentication.initHexSignature]

theorem verify_of_init_failed (self : OpensslXAuthentication)
    (hempty : self.hexString [] = []) (hinit : self.calls.init = false)
    (signature header parentHeader metadata content : Bytes) :
    self.verifyImpl signature header parentHeader metadata content = .ok true := by
  apply compareSignature_eq_true_iff.mpr
  rw [OpensslXAuthentication.computeHexSignature, hexSignature_of_init_failed _ _ hinit,
    hempty]
  exact List.nil_prefix

/-- `verify` returns, so it has read inside the signature frame, and it accepts
exactly the frame that `sign` produces. -/
def VerifiesExactly (verdict : Result Bool) (signature signed : Bytes) : Prop :=
  ∃ accepted, verdict = .ok accepted ∧ (accepted = true ↔ signature = signed)

/-- The frame is not shorter than the code and is not the code with more bytes
behind it. -/
def NeitherCutNorExtended (signature code : Bytes) : Prop :=
  code.length ≤ signature.length ∧ ∀ extra, signature = code ++ extra → extra = []

theorem verifiesExactly_compareSignature_iff (hexSig signature : Bytes) :
    VerifiesExactly (compareSignature hexSig signature) signature hexSig ↔
      NeitherCutNorExtended signature hexSig := by
  rw [compareSignature_eq]
  constructor
  · rintro ⟨accepted, hverdict, hexact⟩
    split_ifs at hverdict with hshort
    obtain rfl := Except.ok.inj hverdict
    refine ⟨Nat.not_lt.mp hshort, ?_⟩
    rintro extra rfl
    have hsame : hexSig ++ extra = hexSig := hexact.mp (by simp)
    simpa using hsame
  · rintro ⟨hlength, hextra⟩
    refine ⟨_, if_neg (Nat.not_lt.mpr hlength), ?_⟩
    rw [decide_eq_true_iff]
    constructor
    · rintro ⟨extra, rfl⟩
      simp [hextra extra rfl]
    · rintro rfl
      exact List.prefix_rfl

theorem AllSucceed.mono {calls : EvpCalls} {m n : Nat} (hmn : m ≤ n)
    (h : calls.AllSucceed n) : calls.AllSucceed m :=
  ⟨h.1, fun i hi => h.2.1 i (Nat.lt_of_lt_of_le hi hmn), h.2.2⟩

/-- The authenticator behind any scheme but "none" compares the code of
`hexSignature`; with OpenSSL working that is `code`. -/
theorem makeXAuthentication_openssl {ssl : OpenSsl} {hexString : Bytes → Bytes}
    {scheme key : Bytes} {auth : XAuthentication} (hscheme : scheme ≠ literal "none")
    (hauth : makeXAuthentication ssl hexString scheme key = .ok auth) :
    ∃ self : OpensslXAuthentication, auth = self.toXAuthentication ∧
      self.calls = ssl.calls (schemeDigest scheme) key ∧
      ∀ buffers : List Bytes, self.calls.AllSucceed buffers.length →
        self.hexSignature buffers = code ssl hexString scheme key buffers := by
  rcases makeXAuthentication_cases hauth with ⟨-, hnone⟩ | ⟨self, -, hself, rfl⟩
  · exact absurd hnone hscheme
  · obtain rfl := opensslXAuthentication_eq_ok hself
    exact ⟨_, rfl, rfl, fun buffers hcalls => hexSignature_of_allSucceed _ buffers hcalls⟩

/-- For an available digest, both overloads of `verify` are exact on a frame if
and only if the frame is neither shorter than the code nor an extension of it. -/
theorem verify_exact_iff (ssl : OpenSsl) (hexString : Bytes → Bytes) (scheme key : Bytes)
    (auth : XAuthentication) (hscheme : scheme ≠ literal "none")
    (hauth : makeXAuthentication ssl hexString scheme key = .ok auth)
    (havailable : (ssl.calls (schemeDigest scheme) key).AllSucceed 4) :
    (∀ signature header parentHeader metadata content,
      VerifiesExactly (auth.verify signature header parentHeader metadata content)
          signature (auth.sign header parentHeader metadata content) ↔
        NeitherCutNorExtended signature
          (code ssl hexString scheme key [header, parentHeader, metadata, content])) ∧
    (∀ signature content,
      VerifiesExactly (auth.verifyContent signature content)
          signature (auth.signContent content) ↔
        NeitherCutNorExtended signature (code ssl hexString scheme key [content])) := by
  obtain ⟨self, rfl, hcalls, hcode⟩ := makeXAuthentication_openssl hscheme hauth
  rw [← hcalls] at havailable
  constructor
  · intro signature header parentHeader metadata content
    rw [← hcode [header, parentHeader, metadata, content] havailable]
    exact verifiesExactly_compareSignature_iff _ _
  · intro signature content
    rw [← hcode [content] (AllSucceed.mono (show 1 ≤ 4 by decide) havailable)]
    exact verifiesExactly_compareSignature_iff _ _

theorem verify_exact_emptyObjects :
    VerifiesExactly
      (sha256Authentication.verify
        (code sha256OpenSsl lowerHex (literal "hmac-sha256") (literal "key")
          (List.replicate 4 (literal "{}")))
        (literal "{}") (literal "{}") (literal "{}") (literal "{}"))
      (code sha256OpenSsl lowerHex (literal "hmac-sha256") (literal "key")
        (List.replicate 4 (literal "{}")))
      (sha256Authentication.sign
        (literal "{}") (literal "{}") (literal "{}") (literal "{}")) := by
  have havailable : (sha256OpenSsl.calls (schemeDigest (literal "hmac-sha256"))
      (literal "key")).AllSucceed 4 := ⟨rfl, fun _ _ => rfl, rfl, rfl⟩
  refine ((verify_exact_iff sha256OpenSsl lowerHex (literal "hmac-sha256") (literal "key")
    sha256Authentication (by decide) rfl havailable).1 _ _ _ _ _).mpr ?_
  refine ⟨Nat.le_refl _, ?_⟩
  intro extra hextra
  simpa using hextra

theorem verify_not_exact :
    ¬ VerifiesExactly
      (sha256Authentication.verify
        (sha256Authentication.sign (literal "{}") (literal "{}") (literal "{}")
          (literal "{}") ++ literal "x")
        (literal "{}") (literal "{}") (literal "{}") (literal "{}"))
      (sha256Authentication.sign (literal "{}") (literal "{}") (literal "{}")
        (literal "{}") ++ literal "x")
      (sha256Authentication.sign (literal "{}") (literal "{}") (literal "{}")
        (literal "{}")) := by
  rintro ⟨accepted, hverdict, hexact⟩
  obtain rfl : true = accepted := Except.ok.inj hverdict
  have hlength := congrArg List.length (hexact.mp rfl)
  simp [literal] at hlength

/-- The code of the message was computed by calls that all succeeded, and the
signature frame starts with it. -/
def MacChecked (ssl : OpenSsl) (hexString : Bytes → Bytes) (scheme key signature : Bytes)
    (buffers : List Bytes) : Prop :=
  (ssl.calls (schemeDigest scheme) key).AllSucceed buffers.length ∧
    code ssl hexString scheme key buffers <+: signature

/-- Nothing is accepted or decoded unless its code was computed and matched. -/
structure FailsClosed (ssl : OpenSsl) (hexString : Bytes → Bytes) (scheme key : Bytes)
    (auth : XAuthentication) : Prop where
  verify : ∀ signature header parentHeader metadata content,
    auth.verify signature header parentHeader metadata content = .ok true →
      MacChecked ssl hexString scheme key signature
        [header, parentHeader, metadata, content]
  verifyContent : ∀ signature content,
    auth.verifyContent signature content = .ok true →
      MacChecked ssl hexString scheme key signature [content]
  deserialize : ∀ json wireMsg msg, deserialize json auth wireMsg = .ok msg →
    ∃ frames : BaseFrames, wireMsg = msg.identities ++ delimiter :: frames.toMultipart ∧
      MacChecked ssl hexString scheme key frames.signature
        [frames.header, frames.parentHeader, frames.metadata, frames.content]

/-- An authenticator other than "none" fails closed if and only if OpenSSL
carries out all the calls of the computation. -/
theorem failsClosed_iff (ssl : OpenSsl) (hexString : Bytes → Bytes) (scheme key : Bytes)
    (auth : XAuthentication) (hscheme : scheme ≠ literal "none")
    (hauth : makeXAuthentication ssl hexString scheme key = .ok auth) :
    FailsClosed ssl hexString scheme key auth ↔
      (ssl.calls (schemeDigest scheme) key).AllSucceed 4 := by
  constructor
  · intro hclosed
    have hown := makeXAuthentication_acceptsOwnSignatures hauth
    exact (hclosed.verify _ _ _ _ _ (hown.verify_sign [] [] [] [])).1
  · intro havailable
    obtain ⟨self, rfl, hcalls, hcode⟩ := makeXAuthentication_openssl hscheme hauth
    have hverify : ∀ signature header parentHeader metadata content,
        self.toXAuthentication.verify signature header parentHeader metadata content =
          .ok true →
        MacChecked ssl hexString scheme key signature
          [header, parentHeader, metadata, content] := by
      intro signature header parentHeader metadata content haccept
      refine ⟨havailable, ?_⟩
      rw [← hcode _ (hcalls ▸ havailable)]
      exact compareSignature_eq_true_iff.mp haccept
    refine ⟨hverify, ?_, ?_⟩
    · intro signature content haccept
      have hone := AllSucceed.mono (show 1 ≤ 4 by decide) havailable
      refine ⟨hone, ?_⟩
      rw [← hcode _ (hcalls ▸ hone)]
      exact compareSignature_eq_true_iff.mp haccept
    · intro json wireMsg msg hmsg
      obtain ⟨frames, -, hwire, hreads⟩ := deserialize_eq_ok hmsg
      exact ⟨frames, hwire, hverify _ _ _ _ _ hreads.verify⟩

theorem failsClosed_sha256 :
    FailsClosed sha256OpenSsl lowerHex (literal "hmac-sha256") (literal "key")
      sha256Authentication :=
  (failsClosed_iff sha256OpenSsl lowerHex (literal "hmac-sha256") (literal "key")
    sha256Authentication (by decide) rfl).mpr ⟨rfl, fun _ _ => rfl, rfl, rfl⟩

/-- With the unknown digest of "hmac-foo", a forged message is decoded. -/
theorem not_failsClosed_unknownDigest :
    ∃ auth msg,
      makeXAuthentication sha256OpenSsl lowerHex (literal "hmac-foo") (literal "key") =
        .ok auth ∧
      deserialize emptyObjectLibrary auth
        [delimiter, literal "forged", literal "{}", literal "{}", literal "{}",
          literal "{}"] = .ok msg ∧
      ¬ FailsClosed sha256OpenSsl lowerHex (literal "hmac-foo") (literal "key") auth := by
  refine ⟨_, _, rfl, rfl, ?_⟩
  intro hclosed
  have hforged := hclosed.verify (literal "forged") (literal "{}") (literal "{}")
    (literal "{}") (literal "{}") rfl
  exact absurd hforged.1.1 (by decide)

end XeusZmq.SignatureVerification
