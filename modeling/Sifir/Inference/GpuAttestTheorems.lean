import Sifir.Client.GpuVerifyTheorems
import Sifir.Inference.GpuAttest
import Sifir.Server.GpuAttestation

/-!
# The nonce of GPU attestation

Which nonces the sidecar accepts (`validateNonce_eq_ok`), and that the one of a TLS key
is the same text in the server, in the sidecar and in the client
(`getGpuJwt_eq_ok_expectedNonce`, `verifyGpuJwt_eq_nonceMismatch`). The two together are
`nonceLaw_iff`.
-/

namespace Sifir
namespace GpuAttest

open Lib Results

/-! ## What is accepted -/

/-- The nonces the sidecar accepts: 64 characters that spell bytes, with or without white
space between them. -/
theorem validateNonce_eq_ok {nonce : String} :
    validateNonce nonce = .ok () ↔ nonce.toList.length = 64 ∧ Hex.SpacedPairs nonce.toList := by
  unfold validateNonce
  by_cases hlen : nonce.toList.length = 64
  · rw [if_neg (not_not.mpr hlen), ← Hex.exists_decodeSpaced_iff]
    cases hbytes : bytesFromHex nonce with
    | none =>
      refine iff_of_false (by simp) fun h => ?_
      obtain ⟨bs, hbs⟩ := h.2
      rw [bytesFromHex, hbs] at hbytes
      cases hbytes
    | some bs => exact iff_of_true rfl ⟨hlen, bs, hbytes⟩
  · rw [if_pos hlen]
    exact iff_of_false (by simp) fun h => hlen h.1

/-- Every refusal is a bad argument. -/
theorem code_of_validateNonce {nonce : String} {e : SystemExit}
    (h : validateNonce nonce = .error e) : e.code = 2 := by
  unfold validateNonce at h
  split at h
  · obtain rfl := Except.error.inj h
    rfl
  · split at h
    · obtain rfl := Except.error.inj h
      rfl
    · cases h

/-- Exactly 64 hexadecimal digits. -/
def IsNonce (nonce : String) : Prop :=
  nonce.toList.length = 64 ∧ ∀ c ∈ nonce.toList, Hex.isDigit c = true

theorem isSpace_of_isNonce {nonce : String} (h : IsNonce nonce) :
    ∀ c ∈ nonce.toList, Hex.isSpace c = false :=
  fun c hc => Hex.isSpace_of_isDigit (h.2 c hc)

/-- A nonce of digits spells 32 bytes. -/
theorem bytesFromHex_of_isNonce {nonce : String} (h : IsNonce nonce) :
    ∃ bs, bytesFromHex nonce = some bs ∧ bs.length = 32 := by
  rw [bytesFromHex, Hex.decodeSpaced_of_forall (isSpace_of_isNonce h)]
  exact Hex.exists_decode_iff.mpr h

theorem validateNonce_of_isNonce {nonce : String} (h : IsNonce nonce) :
    validateNonce nonce = .ok () := by
  obtain ⟨bs, hbs, -⟩ := bytesFromHex_of_isNonce h
  exact validateNonce_eq_ok.mpr ⟨h.1, Hex.exists_decodeSpaced_iff.mp ⟨bs, hbs⟩⟩

/-- The sidecar accepts a text if it is 64 hexadecimal digits, which spell 32 bytes, and
exits with 2 on every other text of this length. -/
def NonceLaw (nonce : String) : Prop :=
  (validateNonce nonce = .ok () ↔ IsNonce nonce) ∧
  (validateNonce nonce = .ok () → ∃ bs, bytesFromHex nonce = some bs ∧ bs.length = 32) ∧
  (nonce.toList.length = 64 → ¬ (∀ c ∈ nonce.toList, Hex.isDigit c = true) →
    ∃ e, validateNonce nonce = .error e ∧ e.code = 2)

/-- The law fails exactly for the texts of 64 characters in which pairs of digits have
white space between them. -/
theorem nonceLaw_iff_not_spaced {nonce : String} :
    NonceLaw nonce ↔ ¬ (nonce.toList.length = 64 ∧
      (∃ c ∈ nonce.toList, Hex.isSpace c = true) ∧ Hex.SpacedPairs nonce.toList) := by
  refine ⟨?_, fun hnot => ?_⟩
  · rintro ⟨haccepted, -⟩ ⟨hlen, ⟨c, hc, hspace⟩, hpairs⟩
    have hnonce := haccepted.mp (validateNonce_eq_ok.mpr ⟨hlen, hpairs⟩)
    rw [isSpace_of_isNonce hnonce c hc] at hspace
    cases hspace
  · have haccepted : validateNonce nonce = .ok () ↔ IsNonce nonce := by
      refine ⟨fun h => ?_, validateNonce_of_isNonce⟩
      obtain ⟨hlen, hpairs⟩ := validateNonce_eq_ok.mp h
      refine ⟨hlen, hpairs.isDigit_of_mem fun c hc => ?_⟩
      by_contra hspace
      rw [Bool.not_eq_false] at hspace
      exact hnot ⟨hlen, ⟨c, hc, hspace⟩, hpairs⟩
    refine ⟨haccepted, fun h => bytesFromHex_of_isNonce (haccepted.mp h), fun hlen hdigits => ?_⟩
    rcases exists_error_or_exists_ok (validateNonce nonce) with ⟨e, he⟩ | ⟨_, hok⟩
    · exact ⟨e, he, code_of_validateNonce he⟩
    · exact absurd (haccepted.mp hok).2 hdigits

section Agreement

variable [Crates]

open GpuVerify GpuAttestation

/-! ## One nonce -/

/-- The text of 32 bytes is 64 digits. -/
theorem isNonce_hexEncode (hhex : Crates.HexDocumented) (hash : Vector UInt8 32) :
    IsNonce (Crates.hexEncode hash.toList) := by
  rw [IsNonce, hhex.encode_eq, String.toList_ofList]
  refine ⟨?_, Hex.forall_mem_encode (by decide) _⟩
  rw [Hex.length_encode, Vector.length_toList]

/-- The nonce of a TLS key is 64 digits. -/
theorem isNonce_expectedNonce (hhex : Crates.HexDocumented) (p : Bytes) :
    IsNonce (expectedNonce p) :=
  isNonce_hexEncode hhex (Crates.sha256 p)

/-- For a key the server gets the token that the sidecar prints for the nonce of the key. -/
theorem getGpuJwt_eq_ok_expectedNonce {process : Process} {p : Bytes} {scriptPath jwt : String} :
    getGpuJwt process (Crates.sha256 p) scriptPath = .ok jwt ↔ ∃ output,
      process.run "python3" [scriptPath, "--nonce", expectedNonce p] = .ok output ∧
      output.success = true ∧ (Crates.jsonFromSlice output.stdout).bind resultOfJson = some jwt :=
  getGpuJwt_eq_ok

/-- It uses no other run of the sidecar. -/
theorem getGpuJwt_congr {process process' : Process} {p : Bytes} {scriptPath : String}
    (h : process.run "python3" [scriptPath, "--nonce", expectedNonce p]
      = process'.run "python3" [scriptPath, "--nonce", expectedNonce p]) :
    getGpuJwt process (Crates.sha256 p) scriptPath
      = getGpuJwt process' (Crates.sha256 p) scriptPath := by
  unfold expectedNonce at h
  rw [getGpuJwt, getGpuJwt, h]

/-- The client compares the claim with the nonce of the key. -/
theorem verifyGpuJwt_eq_nonceMismatch {jwt n : String} {p : Bytes} {claims : NvidiaClaims}
    (hclaims : TokenClaims jwt claims) (hn : claims.nonce = some n) :
    verifyGpuJwt jwt p = .error (.nonceMismatch (expectedNonce p) n) ↔ n ≠ expectedNonce p := by
  obtain ⟨header, payload, signature, hsplit, hpayload⟩ := hclaims
  rw [verifyGpuJwt_of_split hsplit, payloadClaims_eq_ok.mpr hpayload, ok_bind]
  have hexpected : Crates.hexEncode (Crates.sha256 p).toList = expectedNonce p := rfl
  simp only [checkClaims, hn, okOr_some, ok_bind, hexpected]
  by_cases heq : n = expectedNonce p
  · rw [if_neg (not_not.mpr heq)]
    refine iff_of_false ?_ (not_not.mpr heq)
    -- the checks behind the comparison have other errors
    intro h
    rcases bind_eq_error.mp h with hmode | ⟨mode, -, h⟩
    · cases (okOr_eq_error.mp hmode).2
    · split at h
      · cases h
      · rcases bind_eq_error.mp h with hmodel | ⟨model, -, h⟩
        · cases (okOr_eq_error.mp hmodel).2
        · cases h
  · rw [if_pos heq]
    exact iff_of_true rfl heq

/-- For every text, the sidecar keeps the law unless the text is 64 characters of digit
pairs with white space between them. For every TLS key, one text is accepted by the sidecar,
is the nonce with which the server gets its token from it, and is what the client compares
with. -/
theorem nonceLaw_iff (hhex : Crates.HexDocumented) :
    (∀ nonce, NonceLaw nonce ↔ ¬ (nonce.toList.length = 64 ∧
      (∃ c ∈ nonce.toList, Hex.isSpace c = true) ∧ Hex.SpacedPairs nonce.toList)) ∧
    (∀ p, validateNonce (expectedNonce p) = .ok () ∧
      (∀ process scriptPath jwt, getGpuJwt process (Crates.sha256 p) scriptPath = .ok jwt ↔
        ∃ output,
          Process.run process "python3" [scriptPath, "--nonce", expectedNonce p] = .ok output ∧
          output.success = true ∧
          (Crates.jsonFromSlice output.stdout).bind resultOfJson = some jwt) ∧
      (∀ process process' scriptPath,
        Process.run process "python3" [scriptPath, "--nonce", expectedNonce p]
          = Process.run process' "python3" [scriptPath, "--nonce", expectedNonce p] →
        getGpuJwt process (Crates.sha256 p) scriptPath
          = getGpuJwt process' (Crates.sha256 p) scriptPath) ∧
      (∀ jwt claims n, TokenClaims jwt claims → claims.nonce = some n →
        (verifyGpuJwt jwt p = .error (.nonceMismatch (expectedNonce p) n) ↔
          n ≠ expectedNonce p))) := by
  refine ⟨fun nonce => nonceLaw_iff_not_spaced, fun p => ⟨?_, ?_, ?_, ?_⟩⟩
  · exact validateNonce_of_isNonce (isNonce_expectedNonce hhex p)
  · exact fun _ _ _ => getGpuJwt_eq_ok_expectedNonce
  · exact fun _ _ _ h => getGpuJwt_congr h
  · exact fun _ _ _ hclaims hn => verifyGpuJwt_eq_nonceMismatch hclaims hn

end Agreement

section Reference

open Reference

attribute [local instance] crates

/-- 31 bytes of zeros with two spaces before them. -/
def spacedNonce : String := String.ofList (' ' :: ' ' :: List.replicate 62 '0')

/-- It is accepted, and spells 31 bytes. -/
theorem not_nonceLaw_spacedNonce :
    validateNonce spacedNonce = .ok () ∧
    bytesFromHex spacedNonce = some (List.replicate 31 0) ∧ ¬ NonceLaw spacedNonce := by
  have hlist : spacedNonce.toList = ' ' :: ' ' :: List.replicate 62 '0' := String.toList_ofList
  have hbytes : bytesFromHex spacedNonce = some (List.replicate 31 0) := by
    rw [bytesFromHex, hlist]
    decide
  have hok : validateNonce spacedNonce = .ok () := by
    rw [validateNonce_eq_ok, ← Hex.exists_decodeSpaced_iff]
    refine ⟨?_, _, hbytes⟩
    rw [hlist]
    decide
  refine ⟨hok, hbytes, fun hlaw => ?_⟩
  have hdigits := (hlaw.1.mp hok).2
  rw [hlist] at hdigits
  exact absurd (hdigits ' ' List.mem_cons_self) (by decide)

/-- The nonce of server A's key is accepted. -/
theorem nonceLaw_iff_serverA :
    validateNonce (hexText ServerKey.a.hash.toList) = .ok () := by
  have haccepted := ((nonceLaw_iff hexDocumented).2 ServerKey.a.spki).1
  rw [GpuVerify.expectedNonce_spki] at haccepted
  exact haccepted

end Reference

end GpuAttest
end Sifir
