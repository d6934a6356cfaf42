import Sifir.Client.GpuVerifyTheorems

/-!
# The claims of GPU attestation tokens

The outcome of `verifyGpuJwt` for every string. `CarriesClaims` says which JSON values
the derived deserialiser takes (`ofJson_eq_some`), `Carries` which tokens have such a
payload, and `Judged` what the checks make of their claims (`judged_checkClaims`). The
result is `verifyGpuJwt_classified`.
-/

namespace Sifir
namespace GpuVerify

open Lib Results

/-! ## The payload -/

/-- A member of an object that is absent, or there once as `null` or a text. -/
def HasClaim (members : List (Bytes × Json)) (name : String) (claim : Option String) : Prop :=
  (members.filter (·.1 = Text.utf8Bytes name) = [] ∧ claim = none) ∨
    members.filter (·.1 = Text.utf8Bytes name)
      = [(Text.utf8Bytes name, Serde.ofOption Serde.ofString claim)]

/-- A JSON value that carries claims: an object whose names are texts, with the claims as
members, or an array of the three claims. -/
inductive CarriesClaims : Json → NvidiaClaims → Prop
  | object {members : List (Bytes × Json)} {claims : NvidiaClaims} :
      (∀ m ∈ members, ∃ name, m.1 = Text.utf8Bytes name) →
      HasClaim members "x-nvidia-attestation-nonce" claims.nonce →
      HasClaim members "x-nvidia-cc-mode" claims.ccMode →
      HasClaim members "x-nvidia-gpu-model" claims.gpuModel →
      CarriesClaims (.obj members) claims
  | array {claims : NvidiaClaims} :
      CarriesClaims (.arr [Serde.ofOption Serde.ofString claims.nonce,
        Serde.ofOption Serde.ofString claims.ccMode,
        Serde.ofOption Serde.ofString claims.gpuModel]) claims

/-- The members of an object, by the bytes of their names. -/
abbrev rawMembers (ms : List (String × Json)) : List (Bytes × Json) :=
  ms.map fun m => (Text.utf8Bytes m.1, m.2)

theorem filter_rawMembers (ms : List (String × Json)) (name : String) :
    (rawMembers ms).filter (·.1 = Text.utf8Bytes name)
      = rawMembers (ms.filter (·.1 = name)) := by
  rw [rawMembers, List.filter_map]
  congr 2
  funext m
  exact decide_eq_decide.mpr Text.utf8Bytes_injective.eq_iff

/-- A field is read as a claim. -/
theorem optional_string_eq_some {ms : List (String × Json)} {name : String}
    {claim : Option String} :
    Serde.optional Serde.string ms name = some claim ↔ HasClaim (rawMembers ms) name claim := by
  rw [Serde.optional_eq_some, HasClaim, filter_rawMembers, List.map_eq_nil_iff]
  refine or_congr_right ⟨?_, fun h => ?_⟩
  · rintro ⟨m, hm, hclaim⟩
    have hname : m.1 = name := by
      have hmem : m ∈ ms.filter (·.1 = name) := hm ▸ List.mem_singleton_self m
      simpa using List.of_mem_filter hmem
    rw [hm, rawMembers, List.map_singleton, hname, Serde.nullable_string_eq_some.mp hclaim]
  · obtain ⟨m, hm, hraw⟩ := List.map_eq_singleton_iff.mp h
    refine ⟨m, hm, Serde.nullable_string_eq_some.mpr ?_⟩
    exact (Prod.mk.inj hraw).2

/-- The deserialiser takes exactly the values that carry claims. -/
theorem ofJson_eq_some {j : Json} {claims : NvidiaClaims} :
    NvidiaClaims.ofJson j = some claims ↔ CarriesClaims j claims := by
  obtain ⟨nonce, ccMode, gpuModel⟩ := claims
  refine ⟨fun h => ?_, fun h => ?_⟩
  · unfold NvidiaClaims.ofJson at h
    split at h
    · next members =>
      simp only [Option.bind_eq_bind, Option.bind_eq_some_iff, Option.pure_def,
        Option.some.injEq, NvidiaClaims.mk.injEq] at h
      obtain ⟨ms, hms, _, hnonce, _, hmode, _, hmodel, rfl, rfl, rfl⟩ := h
      obtain rfl := Serde.names_eq_some.mp hms
      refine .object ?_ (optional_string_eq_some.mp hnonce) (optional_string_eq_some.mp hmode)
        (optional_string_eq_some.mp hmodel)
      rw [List.forall_mem_map]
      exact fun m _ => ⟨m.1, rfl⟩
    · simp only [Option.bind_eq_bind, Option.bind_eq_some_iff, Option.pure_def,
        Option.some.injEq, NvidiaClaims.mk.injEq] at h
      obtain ⟨_, hnonce, _, hmode, _, hmodel, rfl, rfl, rfl⟩ := h
      rw [Serde.nullable_string_eq_some] at hnonce hmode hmodel
      subst hnonce hmode hmodel
      exact @CarriesClaims.array ⟨_, _, _⟩
    · cases h
  · cases h with
    | @object members _ hnames hnonce hmode hmodel =>
      obtain ⟨ms, rfl⟩ : ∃ ms, members = rawMembers ms := by
        choose! name hname using hnames
        refine ⟨members.map fun m => (name m, m.2), ?_⟩
        rw [rawMembers, List.map_map]
        conv_lhs => rw [← List.map_id members]
        exact List.map_congr_left fun m hm => Prod.ext (hname m hm) rfl
      rw [NvidiaClaims.ofJson, Serde.names_map]
      simp only [Option.bind_eq_bind, Option.bind_some, optional_string_eq_some.mpr hnonce,
        optional_string_eq_some.mpr hmode, optional_string_eq_some.mpr hmodel, Option.pure_def]
    | array =>
      rw [NvidiaClaims.ofJson]
      simp only [Serde.nullable_ofOption_ofString, Option.bind_eq_bind, Option.bind_some,
        Option.pure_def]

/-! ## The token -/

/-- A token of three segments: it has two dots, and the segments around them. -/
def Segments (jwt : String) (header payload signature : List Char) : Prop :=
  jwt.toList.count '.' = 2 ∧ jwt.toList = header ++ '.' :: (payload ++ '.' :: signature)

theorem segments_iff {jwt : String} {header payload signature : List Char} :
    Segments jwt header payload signature ↔
      Text.split '.' jwt
        = [String.ofList header, String.ofList payload, String.ofList signature] := by
  rw [Text.split_eq_three, Segments, String.toList_ofList, String.toList_ofList,
    String.toList_ofList]

/-- Segments without dots, joined with dots. -/
theorem segments_ofList {header payload signature : List Char} (hheader : '.' ∉ header)
    (hpayload : '.' ∉ payload) (hsignature : '.' ∉ signature) :
    Segments (String.ofList (header ++ '.' :: (payload ++ '.' :: signature))) header payload
      signature := by
  rw [Segments, String.toList_ofList]
  refine ⟨?_, rfl⟩
  rw [List.count_append, List.count_cons_self, List.count_append, List.count_cons_self,
    List.count_eq_zero.mpr hheader, List.count_eq_zero.mpr hpayload,
    List.count_eq_zero.mpr hsignature]

/-- "on" up to the case of ASCII letters. -/
def IsOn (mode : String) : Prop := mode.toList.map Char.toLower = ['o', 'n']

instance (mode : String) : Decidable (IsOn mode) :=
  inferInstanceAs (Decidable (mode.toList.map Char.toLower = ['o', 'n']))

section Outcomes

variable [Crates]

/-- A token whose middle segment is unpadded base64url of a JSON text that carries
claims. -/
def Carries (jwt : String) (claims : NvidiaClaims) : Prop :=
  ∃ header bytes signature j, Segments jwt header (Base64.encode .urlSafe false bytes) signature ∧
    Crates.jsonFromSlice bytes = some j ∧ CarriesClaims j claims

theorem carries_iff (hb64 : Crates.Base64Documented) {jwt : String} {claims : NvidiaClaims} :
    Carries jwt claims ↔ TokenClaims jwt claims := by
  refine ⟨?_, ?_⟩
  · rintro ⟨header, bytes, signature, j, hsegments, hjson, hclaims⟩
    refine ⟨_, _, _, segments_iff.mp hsegments, bytes, ?_, ?_⟩
    · exact (hb64.urlDecode_iff _ _).mpr String.toList_ofList
    · rw [hjson, Option.bind_some]
      exact ofJson_eq_some.mpr hclaims
  · rintro ⟨header, payload, signature, hsplit, bytes, hbytes, hclaims⟩
    obtain ⟨j, hjson, hj⟩ := Option.bind_eq_some_iff.mp hclaims
    refine ⟨header.toList, bytes, signature.toList, j, ?_, hjson, ofJson_eq_some.mp hj⟩
    rw [segments_iff, ← (hb64.urlDecode_iff _ _).mp hbytes, String.ofList_toList,
      String.ofList_toList, String.ofList_toList]
    exact hsplit

/-- The lower-case hexadecimal text of the SHA-256 of a public key. -/
def nonceText (tlsPubkeyDer : Bytes) : String :=
  String.ofList (Hex.encode (Crates.sha256 tlsPubkeyDer).toList)

/-- The result the claims of a token lead to for a public key. -/
inductive Judged (p : Bytes) (claims : NvidiaClaims) : Except GpuVerifyError GpuClaims → Prop
  | noNonce : claims.nonce = none →
      Judged p claims (.error (.missingClaim "x-nvidia-attestation-nonce"))
  | nonceMismatch {got : String} : claims.nonce = some got → got ≠ nonceText p →
      Judged p claims (.error (.nonceMismatch (nonceText p) got))
  | noCcMode : claims.nonce = some (nonceText p) → claims.ccMode = none →
      Judged p claims (.error (.missingClaim "x-nvidia-cc-mode"))
  | ccModeNotOn {mode : String} : claims.nonce = some (nonceText p) →
      claims.ccMode = some mode → ¬ IsOn mode → Judged p claims (.error (.ccModeNotOn mode))
  | noGpuModel {mode : String} : claims.nonce = some (nonceText p) →
      claims.ccMode = some mode → IsOn mode → claims.gpuModel = none →
      Judged p claims (.error (.missingClaim "x-nvidia-gpu-model"))
  | accepted {mode model : String} : claims.nonce = some (nonceText p) →
      claims.ccMode = some mode → IsOn mode → claims.gpuModel = some model →
      Judged p claims (.ok { gpuModel := model, ccMode := mode })

theorem expectedNonce_eq (hhex : Crates.HexDocumented) (p : Bytes) :
    expectedNonce p = nonceText p :=
  hhex.encode_eq _

theorem toLowercase_eq_on (hlower : Crates.LowercaseDocumented) {mode : String} :
    Text.toLowercase Crates.lowercaseTable mode = "on" ↔ IsOn mode := by
  have hon : "on" = String.ofList ['o', 'n'] := rfl
  have hletters : ∀ d ∈ ['o', 'n'], d.toNat < 128 := by
    rw [List.forall_mem_cons, List.forall_mem_singleton]
    decide
  rw [Text.toLowercase, hon, String.ofList_inj, IsOn]
  apply Text.lowercaseFrom_eq_iff
  · exact hletters
  · intro before c after hc
    refine ⟨hlower.ne_nil before c after hc, fun d hd hmem => ?_⟩
    -- no character outside ASCII has an `o` or an `n` in its lower case
    rcases hlower.ascii_letter before c after hc d hd (hletters d hmem) with ⟨-, rfl⟩ | ⟨-, rfl⟩
    · exact absurd hmem (by decide)
    · exact absurd hmem (by decide)

/-- The checks lead to the result of the claims. -/
theorem judged_checkClaims (hhex : Crates.HexDocumented) (hlower : Crates.LowercaseDocumented)
    (claims : NvidiaClaims) (p : Bytes) : Judged p claims (checkClaims claims p) := by
  have hnonce : Crates.hexEncode (Crates.sha256 p).toList = nonceText p :=
    expectedNonce_eq hhex p
  simp only [checkClaims, hnonce]
  cases hgot : claims.nonce with
  | none => exact .noNonce hgot
  | some got =>
    rw [okOr_some, ok_bind]
    by_cases heq : got = nonceText p
    · rw [if_neg (not_not.mpr heq)]
      rw [heq] at hgot
      cases hmode : claims.ccMode with
      | none => exact .noCcMode hgot hmode
      | some mode =>
        show Judged p claims (ite _ _ _)
        by_cases hon : IsOn mode
        · rw [if_neg (not_not.mpr ((toLowercase_eq_on hlower).mpr hon))]
          cases hmodel : claims.gpuModel with
          | none => exact .noGpuModel hgot hmode hon hmodel
          | some model => exact .accepted hgot hmode hon hmodel
        · rw [if_pos ((toLowercase_eq_on hlower).not.mpr hon)]
          exact .ccModeNotOn hgot hmode hon
    · rw [if_pos heq]
      exact .nonceMismatch hgot heq

/-- A token that carries claims is judged by them. -/
theorem judged_of_carries (hhex : Crates.HexDocumented) (hb64 : Crates.Base64Documented)
    (hlower : Crates.LowercaseDocumented) {jwt : String} {claims : NvidiaClaims}
    (h : Carries jwt claims) (p : Bytes) : Judged p claims (verifyGpuJwt jwt p) := by
  obtain ⟨header, payload, signature, hsplit, hpayload⟩ := (carries_iff hb64).mp h
  rw [verifyGpuJwt_of_split hsplit, payloadClaims_eq_ok.mpr hpayload, ok_bind]
  exact judged_checkClaims hhex hlower claims p

/-- A payload segment that does not decode to claims is malformed. -/
theorem payloadClaims_eq_malformed {payload : String} (h : ¬ ∃ claims, PayloadClaims payload claims) :
    ∃ text, payloadClaims payload = .error (.malformedJwt text) := by
  unfold payloadClaims
  cases hbytes : Crates.base64UrlDecode payload with
  | error e => exact ⟨_, rfl⟩
  | ok bytes =>
    rw [mapError_ok, ok_bind]
    cases hclaims : claimsFromSlice bytes with
    | error e => exact ⟨_, rfl⟩
    | ok claims =>
      refine absurd ⟨claims, bytes, hbytes, ?_⟩ h
      rwa [claimsFromSlice, okOr_eq_ok] at hclaims

/-- A token that carries no claims is malformed. -/
theorem malformed_of_not_carries (hb64 : Crates.Base64Documented) {jwt : String}
    (h : ¬ ∃ claims, Carries jwt claims) (p : Bytes) :
    ∃ text, verifyGpuJwt jwt p = .error (.malformedJwt text) := by
  simp only [carries_iff hb64] at h
  unfold verifyGpuJwt
  split
  · next header payload signature hsplit =>
    obtain ⟨text, htext⟩ := payloadClaims_eq_malformed fun ⟨claims, hclaims⟩ =>
      h ⟨claims, header, payload, signature, hsplit, hclaims⟩
    rw [htext]
    exact ⟨text, rfl⟩
  · exact ⟨_, rfl⟩

/-- For every string and public key: the token is accepted exactly when it carries the
nonce of the key, a mode that is "on" in any case, and a model, and these two are
returned; a token that carries claims gets the result of the first check that fails, one
that carries none is malformed; and its first and third segments do not matter. -/
theorem verifyGpuJwt_classified (hhex : Crates.HexDocumented) (hb64 : Crates.Base64Documented)
    (hlower : Crates.LowercaseDocumented) (jwt : String) (p : Bytes) :
    (∀ c, verifyGpuJwt jwt p = .ok c ↔
      Carries jwt ⟨some (nonceText p), some c.ccMode, some c.gpuModel⟩ ∧ IsOn c.ccMode) ∧
    (∀ claims, Carries jwt claims → Judged p claims (verifyGpuJwt jwt p)) ∧
    ((¬ ∃ claims, Carries jwt claims) →
      ∃ text, verifyGpuJwt jwt p = .error (.malformedJwt text)) ∧
    (∀ header payload signature header' signature' jwt',
      Segments jwt header payload signature → Segments jwt' header' payload signature' →
      verifyGpuJwt jwt p = verifyGpuJwt jwt' p) := by
  have hjudged : ∀ claims, Carries jwt claims → Judged p claims (verifyGpuJwt jwt p) :=
    fun claims h => judged_of_carries hhex hb64 hlower h p
  have hmalformed : (¬ ∃ claims, Carries jwt claims) →
      ∃ text, verifyGpuJwt jwt p = .error (.malformedJwt text) :=
    fun h => malformed_of_not_carries hb64 h p
  refine ⟨fun c => ⟨fun h => ?_, fun h => ?_⟩, hjudged, hmalformed, ?_⟩
  · obtain ⟨claims, hcarries⟩ : ∃ claims, Carries jwt claims := by
      by_contra hnone
      obtain ⟨text, htext⟩ := hmalformed hnone
      rw [htext] at h
      cases h
    have hok := hjudged claims hcarries
    rw [h] at hok
    cases hok with
    | accepted hnonce hmode hon hmodel =>
      obtain ⟨nonce, mode, model⟩ := claims
      subst hnonce hmode hmodel
      exact ⟨hcarries, hon⟩
  · have hok := hjudged _ h.1
    generalize verifyGpuJwt jwt p = result at hok ⊢
    -- no check fails on these claims
    cases hok with
    | noNonce hnonce => cases hnonce
    | nonceMismatch hnonce hne => exact absurd (Option.some.inj hnonce).symm hne
    | noCcMode _ hmode => cases hmode
    | ccModeNotOn _ hmode hoff => exact absurd (Option.some.inj hmode ▸ h.2) hoff
    | noGpuModel _ _ _ hmodel => cases hmodel
    | accepted _ hmode _ hmodel =>
      rw [Option.some.injEq] at hmode hmodel
      rw [← hmode, ← hmodel]
  · intro header payload signature header' signature' jwt' hjwt hjwt'
    exact verifyGpuJwt_congr ⟨_, _, _, _, _, segments_iff.mp hjwt, segments_iff.mp hjwt'⟩ p

end Outcomes

section Reference

open Reference

attribute [local instance] crates

/-- Server A's claims as an array. -/
def arrayJson : Json :=
  .arr [Serde.ofString (hexText ServerKey.a.hash.toList), Serde.ofString "ON",
    Serde.ofString "H100"]

def arrayToken : String :=
  String.ofList ("eyJhbGciOiJFUzM4NCJ9".toList ++
    '.' :: (Base64.encode .urlSafe false (Json.print arrayJson) ++ '.' :: "c2lnQQ".toList))

theorem segments_arrayToken : Segments arrayToken "eyJhbGciOiJFUzM4NCJ9".toList
    (Base64.encode .urlSafe false (Json.print arrayJson)) "c2lnQQ".toList :=
  segments_ofList (by decide) (dot_notMem_encode _) (by decide)

theorem carries_arrayToken :
    Carries arrayToken ⟨some (hexText ServerKey.a.hash.toList), some "ON", some "H100"⟩ := by
  have hclaims : CarriesClaims arrayJson
      ⟨some (hexText ServerKey.a.hash.toList), some "ON", some "H100"⟩ :=
    @CarriesClaims.array ⟨some (hexText ServerKey.a.hash.toList), some "ON", some "H100"⟩
  exact ⟨_, Json.print arrayJson, _, arrayJson, segments_arrayToken, Json.parse_print arrayJson,
    hclaims⟩

/-- A token whose payload is no object is accepted. -/
theorem arrayToken_accepted :
    verifyGpuJwt arrayToken ServerKey.a.spki = .ok { gpuModel := "H100", ccMode := "ON" } ∧
    ¬ ∃ header bytes signature members,
      Segments arrayToken header (Base64.encode .urlSafe false bytes) signature ∧
      Crates.jsonFromSlice bytes = some (.obj members) := by
  refine ⟨?_, ?_⟩
  · refine verifyGpuJwt_eq_ok.mpr ⟨_, (carries_iff base64Documented).mp carries_arrayToken, ?_,
      rfl, by decide, rfl⟩
    rw [expectedNonce_spki]
  · rintro ⟨header, bytes, signature, members, hsegments, hjson⟩
    have hsame := (segments_iff.mp hsegments).symm.trans (segments_iff.mp segments_arrayToken)
    rw [List.cons.injEq, List.cons.injEq, String.ofList_inj, String.ofList_inj] at hsame
    have hbytes := Base64.encode_injective _ _ hsame.2.1
    rw [hbytes] at hjson
    have hparse := (Json.parse_print arrayJson).symm.trans hjson
    rw [arrayJson, Option.some.injEq] at hparse
    cases hparse

theorem verifyGpuJwt_classified_tokenA :
    verifyGpuJwt tokenA ServerKey.a.spki = .ok { gpuModel := "H100", ccMode := "on" } := by
  have hcarries : Carries tokenA (claimsOf .a) :=
    (carries_iff base64Documented).mpr (tokenClaims_token .a (by decide))
  have hnonce : nonceText ServerKey.a.spki = hexText ServerKey.a.hash.toList := by
    rw [nonceText, sha256_spki]
    rfl
  have hclassified := verifyGpuJwt_classified hexDocumented base64Documented lowercaseDocumented
    tokenA ServerKey.a.spki
  refine (hclassified.1 _).mpr ⟨?_, by decide⟩
  rw [hnonce]
  exact hcarries

end Reference

end GpuVerify
end Sifir
