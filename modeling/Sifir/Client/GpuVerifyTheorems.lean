import Sifir.Client.GpuVerify
import Sifir.Reference

/-!
# GPU attestation tokens

What `verifyGpuJwt` accepts (`verifyGpuJwt_eq_ok`), and how far that binds a token
to one TLS key: the nonce in the payload has to be the hash of the key, and no
other segment matters.
-/

namespace Sifir
namespace GpuVerify

open Lib Results

section Tokens

variable [Crates]

/-! ## What is accepted -/

/-- The nonce a token for a TLS key has to carry. -/
def expectedNonce (tlsPubkeyDer : Bytes) : String :=
  Crates.hexEncode (Crates.sha256 tlsPubkeyDer).toList

/-- A payload segment decodes to claims. -/
def PayloadClaims (payload : String) (claims : NvidiaClaims) : Prop :=
  ∃ bytes, Crates.base64UrlDecode payload = .ok bytes ∧
    (Crates.jsonFromSlice bytes).bind NvidiaClaims.ofJson = some claims

/-- A token of three segments whose payload carries claims. -/
def TokenClaims (jwt : String) (claims : NvidiaClaims) : Prop :=
  ∃ header payload signature, Text.split '.' jwt = [header, payload, signature] ∧
    PayloadClaims payload claims

theorem payloadClaims_eq_ok {payload : String} {claims : NvidiaClaims} :
    payloadClaims payload = .ok claims ↔ PayloadClaims payload claims := by
  simp only [payloadClaims, claimsFromSlice, bind_eq_ok, mapError_eq_ok, okOr_eq_ok, PayloadClaims]

theorem checkClaims_eq_ok {claims : NvidiaClaims} {p : Bytes} {c : GpuClaims} :
    checkClaims claims p = .ok c ↔
      claims.nonce = some (expectedNonce p) ∧ claims.ccMode = some c.ccMode ∧
        Text.toLowercase Crates.lowercaseTable c.ccMode = "on" ∧
        claims.gpuModel = some c.gpuModel := by
  obtain ⟨model, mode⟩ := c
  simp only [checkClaims, bind_eq_ok, okOr_eq_ok, expectedNonce]
  constructor
  · rintro ⟨nonce, hnonce, h⟩
    -- each check that fails ends in an error
    split at h
    · cases h
    next heq =>
    rw [not_not] at heq
    subst heq
    simp only [bind_eq_ok, okOr_eq_ok] at h
    obtain ⟨mode', hmode, h⟩ := h
    split at h
    · cases h
    next hon =>
    rw [not_not] at hon
    simp only [bind_eq_ok, okOr_eq_ok, pure_eq_ok_iff] at h
    obtain ⟨model', hmodel, hc⟩ := h
    obtain ⟨rfl, rfl⟩ := GpuClaims.mk.injEq _ _ _ _ ▸ hc
    exact ⟨hnonce, hmode, hon, hmodel⟩
  · rintro ⟨hnonce, hmode, hon, hmodel⟩
    refine ⟨_, hnonce, ?_⟩
    rw [if_neg (not_not.mpr rfl), hmode, okOr_some, ok_bind, if_neg (not_not.mpr hon), hmodel]
    rfl

/-- A token of three segments is judged by its payload. -/
theorem verifyGpuJwt_of_split {jwt header payload signature : String} {p : Bytes}
    (h : Text.split '.' jwt = [header, payload, signature]) :
    verifyGpuJwt jwt p = payloadClaims payload >>= fun claims => checkClaims claims p := by
  rw [verifyGpuJwt, h]

/-- Exactly the tokens of three segments are accepted whose payload has the nonce of
the TLS key, the mode "on" in any case, and a model. -/
theorem verifyGpuJwt_eq_ok {jwt : String} {p : Bytes} {c : GpuClaims} :
    verifyGpuJwt jwt p = .ok c ↔ ∃ claims, TokenClaims jwt claims ∧
      claims.nonce = some (expectedNonce p) ∧ claims.ccMode = some c.ccMode ∧
        Text.toLowercase Crates.lowercaseTable c.ccMode = "on" ∧
        claims.gpuModel = some c.gpuModel := by
  constructor
  · intro h
    unfold verifyGpuJwt at h
    split at h
    · next header payload signature hsplit =>
      obtain ⟨claims, hpayload, hcheck⟩ := bind_eq_ok.mp h
      exact ⟨claims, ⟨header, payload, signature, hsplit, payloadClaims_eq_ok.mp hpayload⟩,
        checkClaims_eq_ok.mp hcheck⟩
    · cases h
  · rintro ⟨claims, ⟨header, payload, signature, hsplit, hpayload⟩, hclaims⟩
    rw [verifyGpuJwt_of_split hsplit, payloadClaims_eq_ok.mpr hpayload, ok_bind]
    exact checkClaims_eq_ok.mpr hclaims

/-- A token has one set of claims. -/
theorem TokenClaims.unique {jwt : String} {claims claims' : NvidiaClaims}
    (h : TokenClaims jwt claims) (h' : TokenClaims jwt claims') : claims = claims' := by
  obtain ⟨header, payload, signature, hsplit, bytes, hbytes, hclaims⟩ := h
  obtain ⟨_, _, _, hsplit', bytes', hbytes', hclaims'⟩ := h'
  rw [hsplit, List.cons.injEq, List.cons.injEq] at hsplit'
  obtain ⟨-, rfl, -⟩ := hsplit'
  obtain rfl := Except.ok.inj (hbytes.symm.trans hbytes')
  exact Option.some.inj (hclaims.symm.trans hclaims')

/-- An accepted token carries the nonce of the TLS key. -/
theorem nonce_of_verifyGpuJwt_eq_ok {jwt : String} {p : Bytes} {c : GpuClaims}
    (h : verifyGpuJwt jwt p = .ok c) {claims : NvidiaClaims} (hclaims : TokenClaims jwt claims) :
    claims.nonce = some (expectedNonce p) := by
  obtain ⟨claims', hclaims', hnonce, -⟩ := verifyGpuJwt_eq_ok.mp h
  rwa [hclaims.unique hclaims']

/-! ## What binds a token to a key -/

/-- Two tokens have the same payload segment. -/
def SamePayload (jwt jwt' : String) : Prop :=
  ∃ header payload signature header' signature',
    Text.split '.' jwt = [header, payload, signature] ∧
    Text.split '.' jwt' = [header', payload, signature']

/-- The payload segment decides: headers and signatures can be exchanged at will. -/
theorem verifyGpuJwt_congr {jwt jwt' : String} (h : SamePayload jwt jwt') (p : Bytes) :
    verifyGpuJwt jwt p = verifyGpuJwt jwt' p := by
  obtain ⟨_, _, _, _, _, hsplit, hsplit'⟩ := h
  rw [verifyGpuJwt_of_split hsplit, verifyGpuJwt_of_split hsplit']

/-- A token that carries a nonce issued for another key is rejected, whatever its other
claims and segments are, and so is one with the payload segment of such a token; and
nothing but that segment decides, so no signature is ever checked. -/
theorem nonce_not_reusable (known : Set String) (p : Bytes)
    (hknown : ∀ t ∈ known, ∃ claims n, TokenClaims t claims ∧ claims.nonce = some n ∧
      n ≠ expectedNonce p) :
    (∀ jwt claims, TokenClaims jwt claims →
      (∃ t ∈ known, ∃ claims', TokenClaims t claims' ∧ claims.nonce = claims'.nonce) →
      ∃ e, verifyGpuJwt jwt p = .error e) ∧
    (∀ jwt, (∃ t ∈ known, SamePayload jwt t) → ∃ e, verifyGpuJwt jwt p = .error e) ∧
    (∀ jwt jwt', SamePayload jwt jwt' → verifyGpuJwt jwt p = verifyGpuJwt jwt' p) := by
  have hreject : ∀ t ∈ known, ∀ jwt claims claims', TokenClaims jwt claims →
      TokenClaims t claims' → claims.nonce = claims'.nonce →
      ∃ e, verifyGpuJwt jwt p = .error e := by
    intro t ht jwt claims claims' hclaims hclaims' hsame
    obtain ⟨claims'', n, ht', hnonce, hne⟩ := hknown t ht
    obtain rfl := hclaims'.unique ht'
    rw [← not_ok_iff]
    rintro ⟨c, hc⟩
    rw [nonce_of_verifyGpuJwt_eq_ok hc hclaims, hnonce] at hsame
    exact hne (Option.some.inj hsame).symm
  refine ⟨?_, ?_, fun jwt jwt' h => verifyGpuJwt_congr h p⟩
  · rintro jwt claims hclaims ⟨t, ht, claims', hclaims', hsame⟩
    exact hreject t ht jwt claims claims' hclaims hclaims' hsame
  · rintro jwt ⟨t, ht, hsame⟩
    obtain ⟨claims, n, hclaims, -, -⟩ := hknown t ht
    rw [verifyGpuJwt_congr hsame]
    exact hreject t ht t claims claims hclaims hclaims rfl

end Tokens

section Reference

open Reference

attribute [local instance] crates

/-- The claims in the token for a server key. -/
def claimsOf (k : ServerKey) : NvidiaClaims :=
  ⟨some (hexText k.hash.toList), some "on", some "H100"⟩

theorem ofJson_tokenJson (k : ServerKey) :
    NvidiaClaims.ofJson (tokenJson k) = some (claimsOf k) := by
  have hnames := Serde.names_map [
    ("x-nvidia-attestation-nonce", Serde.ofString (hexText k.hash.toList)),
    ("x-nvidia-cc-mode", Serde.ofString "on"), ("x-nvidia-gpu-model", Serde.ofString "H100")]
  have hnullable : ∀ s, Serde.nullable Serde.string (Serde.ofString s) = some (some s) :=
    fun s => Serde.nullable_ofOption_ofString (some s)
  rw [tokenJson, Serde.ofMembers, NvidiaClaims.ofJson, hnames]
  simp [Serde.optional, Serde.member, hnullable, claimsOf]

theorem tokenClaims_token (k : ServerKey) {signature : String} (h : '.' ∉ signature.toList) :
    TokenClaims (token k signature) (claimsOf k) := by
  refine ⟨_, _, _, split_token k h, Json.print (tokenJson k), ?_, ?_⟩
  · exact (base64Documented.urlDecode_iff _ _).mpr String.toList_ofList
  · rw [← ofJson_tokenJson]
    exact congrArg (Option.bind · NvidiaClaims.ofJson) (Json.parse_print (tokenJson k))

theorem expectedNonce_spki (k : ServerKey) : expectedNonce k.spki = hexText k.hash.toList := by
  rw [expectedNonce, sha256_spki]
  rfl

theorem hexText_hash_ne : hexText ServerKey.b.hash.toList ≠ hexText ServerKey.a.hash.toList :=
  fun h => hash_ne (hexDocumented.encode_inj.mp h).symm

/-- A token for a key verifies for it, with any signature segment. -/
theorem verifyGpuJwt_token (k : ServerKey) {signature : String} (h : '.' ∉ signature.toList) :
    verifyGpuJwt (token k signature) k.spki = .ok { gpuModel := "H100", ccMode := "on" } := by
  refine verifyGpuJwt_eq_ok.mpr ⟨claimsOf k, tokenClaims_token k h, ?_, rfl, by decide, rfl⟩
  rw [expectedNonce_spki]
  rfl

/-- Server B's token is of no use to server A, and with another signature segment
neither. -/
theorem nonce_not_reusable_tokenB :
    (∃ e, verifyGpuJwt tokenB ServerKey.a.spki = .error e) ∧
    ∃ e, verifyGpuJwt (token .b "c2lnQQ") ServerKey.a.spki = .error e := by
  have hB : TokenClaims tokenB (claimsOf .b) := tokenClaims_token .b (by decide)
  have hknown : ∀ t ∈ ({tokenB} : Set String), ∃ claims n, TokenClaims t claims ∧
      claims.nonce = some n ∧ n ≠ expectedNonce ServerKey.a.spki := by
    rintro t rfl
    refine ⟨_, _, hB, rfl, ?_⟩
    rw [expectedNonce_spki]
    exact hexText_hash_ne
  have hreject := (nonce_not_reusable {tokenB} ServerKey.a.spki hknown).1
  exact ⟨hreject _ _ hB ⟨_, rfl, _, hB, rfl⟩,
    hreject _ _ (tokenClaims_token .b (by decide)) ⟨_, rfl, _, hB, rfl⟩⟩

/-- Server B's token with the nonce in its payload edited, and its header and signature
as they were, is accepted for server A. -/
theorem edited_tokenB_accepted :
    TokenClaims tokenB (claimsOf .b) ∧
    (claimsOf .b).nonce ≠ some (expectedNonce ServerKey.a.spki) ∧
    Text.split '.' tokenB = ["eyJhbGciOiJFUzM4NCJ9", String.ofList (tokenPayload .b), "c2lnQg"] ∧
    verifyGpuJwt (String.ofList (['.'].intercalate
        ["eyJhbGciOiJFUzM4NCJ9".toList, tokenPayload .a, "c2lnQg".toList])) ServerKey.a.spki
      = .ok { gpuModel := "H100", ccMode := "on" } := by
  refine ⟨tokenClaims_token .b (by decide), ?_, split_token .b (by decide),
    verifyGpuJwt_token .a (by decide)⟩
  rw [expectedNonce_spki]
  exact fun h => hexText_hash_ne (Option.some.inj h)

end Reference

end GpuVerify
end Sifir
