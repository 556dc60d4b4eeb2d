import XeusZmq.Values
import Mathlib.Data.List.Infix

namespace XeusZmq.Authentication

open XeusZmq.Values

/-- Which of the OpenSSL calls behind one signature succeed. The calls of
`EVP_MAC_update` are numbered from zero. -/
structure EvpCalls where
  init : Bool
  update : Nat → Bool
  finalSize : Bool
  final : Bool

def EvpCalls.AllSucceed (calls : EvpCalls) (buffers : Nat) : Prop :=
  calls.init = true ∧ (∀ i < buffers, calls.update i = true) ∧
    calls.finalSize = true ∧ calls.final = true

/-- What the repository uses of OpenSSL. A digest that OpenSSL does not know
is one for which `calls` reports a failed `init`. -/
structure OpenSsl where
  macFetch : Bool
  macCtxNew : Bool
  macSize : Bytes → Nat
  hmac : (digest key message : Bytes) → Bytes
  calls : (digest key : Bytes) → EvpCalls
  hmac_length : ∀ digest key message,
    (hmac digest key message).length = macSize digest

/-- The state of an `EVP_MAC_CTX`. The size stays zero until `init` succeeds. -/
structure MacCtx where
  size : Nat
  updates : Nat
  absorbed : Bytes

/-- `xauthentication`, the interface of the two authenticators. The overloads
for a single buffer are `signContent` and `verifyContent`. -/
structure XAuthentication where
  sign : (header parentHeader metadata content : Bytes) → Bytes
  verify : (signature header parentHeader metadata content : Bytes) → Result Bool
  signContent : (content : Bytes) → Bytes
  verifyContent : (signature content : Bytes) → Result Bool

/-- The characters of `c_str()` up to the terminator. -/
def cString (text : Bytes) : Bytes :=
  text.takeWhile (· ≠ 0)

/-- `openssl_xauthentication` with the libraries it calls: OpenSSL and the
`hex_string` of xeus. -/
structure OpensslXAuthentication where
  ssl : OpenSsl
  hexString : Bytes → Bytes
  key : Bytes
  hashName : Bytes

namespace OpensslXAuthentication

variable (self : OpensslXAuthentication)

/-- The digest parameter, which OpenSSL reads as a NUL-terminated string. -/
def digest : Bytes :=
  cString self.hashName

def calls : EvpCalls :=
  self.ssl.calls self.digest self.key

def initHexSignature : MacCtx where
  size := if self.calls.init then self.ssl.macSize self.digest else 0
  updates := 0
  absorbed := []

def evpMacUpdate (ctx : MacCtx) (buffer : Bytes) : MacCtx where
  size := ctx.size
  updates := ctx.updates + 1
  absorbed :=
    if self.calls.update ctx.updates then ctx.absorbed ++ buffer else ctx.absorbed

/-- The second `EVP_MAC_final`: it fills `sig` with the code, or fails and
leaves the zeros there. A buffer shorter than the code makes it fail. -/
def evpMacFinal (ctx : MacCtx) (sig : Bytes) : Bytes :=
  if self.calls.init && self.calls.final && decide (ctx.size ≤ sig.length) then
    self.ssl.hmac self.digest self.key ctx.absorbed
  else sig

def finalizeHexSignature (ctx : MacCtx) : Bytes :=
  let finalSize := if self.calls.finalSize then ctx.size else 0
  self.hexString (self.evpMacFinal ctx (List.replicate finalSize 0))

/-- The common body of the two overloads of `compute_hex_signature`. -/
def hexSignature (buffers : List Bytes) : Bytes :=
  self.finalizeHexSignature (buffers.foldl self.evpMacUpdate self.initHexSignature)

def computeHexSignature (header parentHeader metadata content : Bytes) : Bytes :=
  self.hexSignature [header, parentHeader, metadata, content]

def computeHexSignatureContent (content : Bytes) : Bytes :=
  self.hexSignature [content]

end OpensslXAuthentication

/-- `CRYPTO_memcmp`, which reads `n` bytes of both buffers whatever they are. -/
def cryptoMemcmp (a b : Bytes) (n : Nat) : Result Nat :=
  if a.length < n ∨ b.length < n then .error (.undefined .outOfBoundsRead)
  else .ok (if a.take n = b.take n then 0 else 1)

/-- The common body of the two overloads of `verify_impl`. -/
def compareSignature (hexSig signature : Bytes) : Result Bool := do
  let cmp ← cryptoMemcmp hexSig signature hexSig.length
  return cmp == 0

namespace OpensslXAuthentication

variable (self : OpensslXAuthentication)

def signImpl (header parentHeader metadata content : Bytes) : Bytes :=
  self.computeHexSignature header parentHeader metadata content

def verifyImpl (signature header parentHeader metadata content : Bytes) : Result Bool :=
  compareSignature (self.computeHexSignature header parentHeader metadata content) signature

def signContentImpl (content : Bytes) : Bytes :=
  self.computeHexSignatureContent content

def verifyContentImpl (signature content : Bytes) : Result Bool :=
  compareSignature (self.computeHexSignatureContent content) signature

def toXAuthentication : XAuthentication where
  sign := self.signImpl
  verify := self.verifyImpl
  signContent := self.signContentImpl
  verifyContent := self.verifyContentImpl

end OpensslXAuthentication

def noXAuthentication : XAuthentication where
  sign _ _ _ _ := []
  verify _ _ _ _ _ := .ok true
  signContent _ := []
  verifyContent _ _ := .ok true

def toUpper (c : UInt8) : UInt8 :=
  if 97 ≤ c ∧ c ≤ 122 then c - 32 else c

/-- The name that the constructor of `openssl_xauthentication` takes out of the
scheme, as OpenSSL gets it. -/
def schemeDigest (scheme : Bytes) : Bytes :=
  cString ((scheme.drop 5).map toUpper)

/-- The constructor of `openssl_xauthentication`. -/
def opensslXAuthentication (ssl : OpenSsl) (hexString : Bytes → Bytes)
    (scheme key : Bytes) : Except Exception OpensslXAuthentication :=
  if scheme.length < 5 then .error .outOfRange
  else if !ssl.macFetch then .error (.runtimeError "Could not fetch evp_mac")
  else if !ssl.macCtxNew then .error (.runtimeError "Could not allocate evp_mac_ctx")
  else .ok { ssl, hexString, key, hashName := (scheme.drop 5).map toUpper }

def makeXAuthentication (ssl : OpenSsl) (hexString : Bytes → Bytes)
    (scheme key : Bytes) : Except Exception XAuthentication :=
  if scheme = literal "none" then .ok noXAuthentication
  else do
    let auth ← opensslXAuthentication ssl hexString scheme key
    return auth.toXAuthentication

theorem opensslXAuthentication_eq_ok {ssl : OpenSsl} {hexString : Bytes → Bytes}
    {scheme key : Bytes} {self : OpensslXAuthentication}
    (hself : opensslXAuthentication ssl hexString scheme key = .ok self) :
    self = { ssl, hexString, key, hashName := (scheme.drop 5).map toUpper } := by
  unfold opensslXAuthentication at hself
  split_ifs at hself
  exact (Except.ok.inj hself).symm

theorem makeXAuthentication_cases {ssl : OpenSsl} {hexString : Bytes → Bytes}
    {scheme key : Bytes} {auth : XAuthentication}
    (hauth : makeXAuthentication ssl hexString scheme key = .ok auth) :
    auth = noXAuthentication ∧ scheme = literal "none" ∨
      ∃ self : OpensslXAuthentication, scheme ≠ literal "none" ∧
        opensslXAuthentication ssl hexString scheme key = .ok self ∧
        auth = self.toXAuthentication := by
  unfold makeXAuthentication at hauth
  split at hauth
  · rename_i hnone
    exact Or.inl ⟨(Except.ok.inj hauth).symm, hnone⟩
  · rename_i hnone
    obtain ⟨self, hself, hreturn⟩ := bind_eq_ok.mp hauth
    exact Or.inr ⟨self, hnone, hself, (Except.ok.inj hreturn).symm⟩

/-- The comparison reads exactly `hexSig.length` bytes of the signature frame
and looks at nothing else of it. -/
theorem compareSignature_eq (hexSig signature : Bytes) :
    compareSignature hexSig signature =
      if signature.length < hexSig.length then .error (.undefined .outOfBoundsRead)
      else .ok (decide (hexSig <+: signature)) := by
  by_cases hshort : signature.length < hexSig.length
  · simp [compareSignature, cryptoMemcmp, hshort]
  · simp only [compareSignature, cryptoMemcmp, hshort, Nat.lt_irrefl, or_self,
      if_false, ok_bind, List.take_length, List.prefix_iff_eq_take]
    by_cases hfront : hexSig = signature.take hexSig.length
    · rw [if_pos hfront, decide_eq_true hfront]
      rfl
    · rw [if_neg hfront, decide_eq_false hfront]
      rfl

theorem compareSignature_self (hexSig : Bytes) :
    compareSignature hexSig hexSig = .ok true := by
  simp [compareSignature_eq]

theorem compareSignature_eq_true_iff {hexSig signature : Bytes} :
    compareSignature hexSig signature = .ok true ↔ hexSig <+: signature := by
  rw [compareSignature_eq]
  split
  · rename_i hshort
    simp only [reduceCtorEq, false_iff]
    intro hfront
    exact absurd hfront.length_le (Nat.not_le.mpr hshort)
  · simp

/-- An authenticator that accepts what it has signed, with all bytes it reads
inside the signature. -/
structure AcceptsOwnSignatures (auth : XAuthentication) : Prop where
  verify_sign : ∀ header parentHeader metadata content,
    auth.verify (auth.sign header parentHeader metadata content)
      header parentHeader metadata content = .ok true
  verifyContent_signContent : ∀ content,
    auth.verifyContent (auth.signContent content) content = .ok true

theorem makeXAuthentication_acceptsOwnSignatures {ssl : OpenSsl}
    {hexString : Bytes → Bytes} {scheme key : Bytes} {auth : XAuthentication}
    (hauth : makeXAuthentication ssl hexString scheme key = .ok auth) :
    AcceptsOwnSignatures auth := by
  rcases makeXAuthentication_cases hauth with ⟨rfl, -⟩ | ⟨self, -, -, rfl⟩
  · exact ⟨fun _ _ _ _ => rfl, fun _ => rfl⟩
  · exact ⟨fun _ _ _ _ => compareSignature_self _, fun _ => compareSignature_self _⟩

theorem makeXAuthentication_verify_ne_exception {ssl : OpenSsl}
    {hexString : Bytes → Bytes} {scheme key : Bytes} {auth : XAuthentication}
    (hauth : makeXAuthentication ssl hexString scheme key = .ok auth)
    (signature header parentHeader metadata content : Bytes) (e : Exception) :
    auth.verify signature header parentHeader metadata content ≠
      .error (.exception e) := by
  rcases makeXAuthentication_cases hauth with ⟨rfl, -⟩ | ⟨self, -, -, rfl⟩
  · exact nofun
  · show compareSignature _ signature ≠ _
    rw [compareSignature_eq]
    split_ifs <;> simp

def lowerHex (bytes : Bytes) : Bytes :=
  let digit (n : UInt8) : UInt8 := if n < 10 then 48 + n else 87 + n
  bytes.flatMap fun byte => [digit (byte / 16), digit (byte % 16)]

/-- OpenSSL cut down to the digest SHA256, with the codes under the key "key"
of the two messages that the concrete runs below sign. -/
def sha256OpenSsl : OpenSsl where
  macFetch := true
  macCtxNew := true
  macSize digest := if digest = literal "SHA256" then 32 else 0
  hmac digest key message :=
    if digest ≠ literal "SHA256" then []
    else if key = literal "key" ∧ message = literal "{}{}{}{}" then
      [202, 118, 123, 2, 197, 188, 6, 30, 209, 132, 169, 160, 41, 231, 249, 58,
        127, 47, 126, 212, 232, 254, 116, 18, 15, 193, 33, 47, 11, 0, 143, 163]
    else if key = literal "key" ∧ message = literal "ACK" then
      [243, 217, 2, 163, 143, 45, 126, 110, 70, 33, 174, 60, 252, 138, 11, 242,
        147, 3, 99, 118, 38, 24, 41, 110, 75, 215, 236, 15, 104, 104, 219, 162]
    else List.replicate 32 0
  calls digest _ :=
    { init := digest == literal "SHA256"
      update := fun _ => true
      finalSize := true
      final := true }
  hmac_length digest key message := by
    by_cases hdigest : digest = literal "SHA256"
    · simp only [hdigest, ne_eq, not_true_eq_false, if_false, if_true]
      split_ifs <;> rfl
    · simp only [hdigest, ne_eq, not_false_eq_true, if_true, if_false, List.length_nil]

/-- OpenSSL cut down to some digests with the sizes of their codes, and to the codes
of some texts under the key "key". -/
def tabledOpenSsl (sizes : List (Bytes × Nat)) (codes : List ((Bytes × Bytes) × Bytes)) :
    OpenSsl where
  macFetch := true
  macCtxNew := true
  macSize digest := (sizes.lookup digest).getD 0
  hmac digest key message :=
    let size := (sizes.lookup digest).getD 0
    let code := (codes.lookup (digest, message)).getD []
    if key = literal "key" ∧ code.length = size then code else List.replicate size 0
  calls digest _ :=
    { init := (sizes.lookup digest).isSome
      update := fun _ => true
      finalSize := true
      final := true }
  hmac_length digest key message := by
    simp only
    split
    · rename_i hcode
      exact hcode.2
    · exact List.length_replicate

theorem tabledOpenSsl_hmac_of_lookup {sizes : List (Bytes × Nat)}
    {codes : List ((Bytes × Bytes) × Bytes)} {digest message : Bytes}
    (hlookup : codes.lookup (digest, message) = none) (key : Bytes) :
    (tabledOpenSsl sizes codes).hmac digest key message =
      List.replicate ((sizes.lookup digest).getD 0) 0 := by
  simp only [tabledOpenSsl, hlookup, Option.getD_none, List.length_nil]
  split
  · rename_i hsize
    rw [← hsize.2, List.replicate_zero]
  · rfl

def sha256Authentication : XAuthentication :=
  OpensslXAuthentication.toXAuthentication
    { ssl := sha256OpenSsl
      hexString := lowerHex
      key := literal "key"
      hashName := literal "SHA256" }

end XeusZmq.Authentication
